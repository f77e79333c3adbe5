import Ics721.Library.Handshake
import Ics721.Network.Sample

/-!
# The channels of the bridges

The bridge takes part in the handshakes of channels.  It opens only unordered ones for its
own version, and will never close one; what it can not keep a counterparty from, another
bridge does not do.  So the channels between bridges are pairs of ends that stay open.
-/

namespace Ics721

open Library

variable {ι κ : Type}

/-- A handshake between chains whose ports, channels and versions have names. -/
abbrev Handshakes (ι κ : Type) := Handshake ι κ String String String

abbrev Channels (ι κ : Type) := Handshake.State ι κ String String String

/-! ## The bridge in a handshake -/

/-- What the bridge is told about a channel.  The other end is empty until it is known. -/
def channelOf (portId channelId : String)
    (value : ChannelEnd κ String String String) : IbcChannel where
  endpoint := ⟨portId, channelId⟩
  counterpartyEndpoint := ⟨value.port, value.channel.getD ""⟩
  order := if value.ordered then .ordered else .unordered
  version := value.version

/-- The bridge on a port.  It never asks for another version than the one it is told. -/
def bridgeApplication (portId : String) : Application κ String String String where
  opens channelId value counterpartyVersion :=
    if (ibcChannelOpen (channelOf portId channelId value) counterpartyVersion).isOk then
      some value.version
    else none
  connects channelId value counterpartyVersion :=
    (ibcChannelConnect (channelOf portId channelId value) counterpartyVersion).isOk
  closesFirst channelId value :=
    (ibcChannelClose (.closeInit (channelOf portId channelId value))).isOk
  confirmsClose channelId value :=
    (ibcChannelClose (.closeConfirm (channelOf portId channelId value))).isOk

theorem validateOrderAndVersion_eq_ok {channel : IbcChannel}
    {counterpartyVersion : Option String} :
    validateOrderAndVersion channel counterpartyVersion = .ok () ↔
      channel.order = .unordered ∧ channel.version = ibcVersion ∧
        ∀ version ∈ counterpartyVersion, version = ibcVersion := by
  cases counterpartyVersion with
  | none =>
      simp only [validateOrderAndVersion, ite_error_eq_ok, ne_eq, not_not, and_true,
        Option.mem_def, reduceCtorEq, false_implies, implies_true]
  | some version =>
      simp only [validateOrderAndVersion, ite_error_eq_ok, ne_eq, not_not, and_true,
        Option.mem_def, Option.some.injEq, forall_eq']

theorem ordered_of_channelOf {portId channelId : String}
    {value : ChannelEnd κ String String String}
    (unordered : (channelOf portId channelId value).order = .unordered) :
    value.ordered = false := by
  cases ordered : value.ordered with
  | false => rfl
  | true => simp [channelOf, ordered] at unordered

/-- The order and the version that the bridge speaks. -/
def Spoken (ordered : Bool) (version : String) : Prop := ordered = false ∧ version = ibcVersion

theorem bridgeApplication_upholds (portId : String) :
    (bridgeApplication portId : Application κ String String String).Upholds Spoken where
  opens := by
    intro channelId value given version opened
    simp only [bridgeApplication, Option.ite_none_right_eq_some, isOk_eq_true] at opened
    rcases opened with ⟨⟨_, checked⟩, same⟩
    rcases validateOrderAndVersion_eq_ok.mp checked with ⟨unordered, spoken, -⟩
    cases same
    exact ⟨ordered_of_channelOf unordered, spoken⟩
  connects := by
    intro channelId value version connected
    simp only [bridgeApplication, isOk_eq_true, ibcChannelConnect, bind_eq_ok] at connected
    rcases connected with ⟨_, _, checked, -⟩
    rcases validateOrderAndVersion_eq_ok.mp checked with ⟨unordered, -, spoken⟩
    exact ⟨ordered_of_channelOf unordered, spoken version rfl⟩

/-- The bridge is on a port of a sound chain. -/
structure Bridged (handshake : Handshakes ι κ) (chain : ι) (portId : String) : Prop where
  sound : handshake.sound chain = true
  app : handshake.app chain portId = bridgeApplication portId

section Bridged

variable {handshake : Handshakes ι κ} {chain : ι} {portId : String}

theorem Bridged.upholds (bridged : Bridged handshake chain portId) :
    (handshake.app chain portId).Upholds Spoken := by
  rw [bridged.app]
  exact bridgeApplication_upholds portId

/-- The bridge never allows its channels to be closed, and no ordered ones. -/
theorem Bridged.guarded (bridged : Bridged handshake chain portId) :
    handshake.Guarded chain portId where
  sound := bridged.sound
  unordered := ⟨fun opened => (bridged.upholds.opens opened).1,
    fun connected => (bridged.upholds.connects connected).1⟩
  refuses := by
    intro channelId value
    rw [bridged.app]
    rfl

end Bridged

/-! ## The network they make -/

/-- The other end of a channel of a bridge, if both ends are open. -/
def bridgePeer (handshake : Handshakes ι κ) (portId : ι → String) (channels : Channels ι κ)
    (here : ι) (channelId : String) : Option (ι × String) :=
  (handshake.peer channels ⟨here, portId here, channelId⟩).bind fun far =>
    if far.port = portId far.chain then some (far.chain, far.channel) else none

theorem bridgePeer_eq_some {handshake : Handshakes ι κ} {portId : ι → String}
    {channels : Channels ι κ} {here there : ι} {channelId far : String} :
    bridgePeer handshake portId channels here channelId = some (there, far) ↔
      handshake.peer channels ⟨here, portId here, channelId⟩ = some ⟨there, portId there, far⟩ := by
  simp only [bridgePeer, Option.bind_eq_some_iff, Option.ite_none_right_eq_some,
    Option.some.injEq, Prod.mk.injEq]
  constructor
  · intro found
    rcases found with ⟨site, paired, port, rfl, rfl⟩
    rw [paired, ← port]
  · intro paired
    exact ⟨_, paired, rfl, rfl, rfl⟩

/-- Bridges on all chains of a handshake, and how their deployments depend on it. -/
structure Joins (handshake : Handshakes ι κ) (deployment : ι → Deployment)
    (channels : Channels ι κ) : Prop where
  bridged : ∀ chain, Bridged handshake chain (deployment chain).portId
  far_ne : ∀ chain connection, (handshake.far chain connection).1 ≠ chain
  counterparty : ∀ here channelId, (deployment here).counterparty channelId =
    (bridgePeer handshake (fun chain => (deployment chain).portId) channels here channelId).map
      fun other => ⟨(deployment other.1).portId, other.2⟩
  channel_no_slash : ∀ {here channelId far}, bridgePeer handshake
    (fun chain => (deployment chain).portId) channels here channelId = some far →
      '/' ∉ channelId.toList
  deep : ∀ chain, 3 ≤ (deployment chain).depth

/-- The network of the channels that were opened in a run. -/
def Joins.network {handshake : Handshakes ι κ} {deployment : ι → Deployment}
    {channels : Channels ι κ} (joins : Joins handshake deployment channels)
    (steady : handshake.Steady channels) (json : Json)
    (speaks : ∀ chain, (deployment chain).api.toJson = json) : Network ι where
  deployment := deployment
  json := json
  speaks := speaks
  peer := bridgePeer handshake (fun chain => (deployment chain).portId) channels
  peer_symm := by
    intro here channelId there far paired
    rw [bridgePeer_eq_some] at paired ⊢
    exact steady.peer_symm (joins.bridged here).sound (joins.bridged there).sound paired
  peer_ne := by
    intro here channelId there far paired
    rw [bridgePeer_eq_some] at paired
    rcases Handshake.peer_eq_some.mp paired with ⟨value, _, _, -, -, -, same, -, -⟩
    have leads : (handshake.far here value.connection).1 = there := congrArg Site.chain same
    rw [← leads]
    exact joins.far_ne here value.connection
  counterparty := joins.counterparty
  channel_no_slash := joins.channel_no_slash
  deep := joins.deep

section Stays

variable [DecidableEq ι] [DecidableEq κ]
variable {handshake : Handshakes ι κ} {portId : ι → String} {channels : Channels ι κ}

/-- Both ends of a channel between bridges stay open, so that it leads where it led. -/
theorem bridgePeer_stays (steady : handshake.Steady channels)
    (bridged : ∀ chain, Bridged handshake chain (portId chain)) {here there : ι}
    {channelId far : String}
    (paired : bridgePeer handshake portId channels here channelId = some (there, far))
    (later : List (Handshake.Label ι κ String String String)) :
    bridgePeer handshake portId (later.foldl handshake.step channels) here channelId =
      some (there, far) := by
  rw [bridgePeer_eq_some] at paired ⊢
  have back := steady.peer_symm (bridged here).sound (bridged there).sound paired
  rcases Handshake.peer_eq_some.mp paired with
    ⟨value, channel, other, present, known, opened, same, presentThere, openedThere⟩
  rcases Handshake.peer_eq_some.mp back with
    ⟨otherValue, _, _, presentOther, -, -, sameBack, -, -⟩
  rw [presentThere, Option.some.injEq] at presentOther
  subst presentOther
  have leads : (handshake.far here value.connection).1 = there := congrArg Site.chain same
  have onPort : value.port = portId there := congrArg Site.port same
  have leadsBack : (handshake.far there other.connection).1 = here :=
    congrArg Site.chain sameBack
  have onPortBack : other.port = portId here := congrArg Site.port sameBack
  have nearEnd := steady.unchanged (bridged here).guarded
    (by rw [leads, onPort]; exact (bridged there).guarded) present opened later
  have farEnd := steady.unchanged (bridged there).guarded
    (by rw [leadsBack, onPortBack]; exact (bridged here).guarded) presentThere openedThere later
  exact Handshake.peer_eq_some.mpr
    ⟨value, channel, other, nearEnd, known, opened, same, farEnd, openedThere⟩

end Stays

/-! ## A handshake -/

namespace Sample

/-- The chains of the network with one connection, on which every application is a bridge. -/
def handshake : Handshakes Place Unit where
  far
    | .home, _ => (.away, ())
    | .away, _ => (.home, ())
  far_far := by
    intro chain _
    cases chain
    · rfl
    · rfl
  sound _ := true
  app _ portId := bridgeApplication portId

theorem bridged (chain : Place) (portId : String) : Bridged handshake chain portId := ⟨rfl, rfl⟩

def homeSite : Site Place String String := ⟨.home, "wasm.bridge", "channel-0"⟩

def awaySite : Site Place String String := ⟨.away, "wasm.bridge", "channel-5"⟩

/-- The four steps in which a channel is opened. -/
def opening : List (Handshake.Label Place Unit String String String) :=
  [.openInit homeSite false () "wasm.bridge" "ics721-1",
    .openTry awaySite false () "wasm.bridge" "channel-0" "ics721-1",
    .openAck homeSite "channel-5" "ics721-1",
    .openConfirm awaySite]

/-- The end on the home chain then. -/
def homeEnd : ChannelEnd Unit String String String :=
  ⟨.opened, false, (), "wasm.bridge", some "channel-5", "ics721-1"⟩

/-- The state then. -/
def opened : Channels Place Unit := opening.foldl handshake.step Handshake.State.initial

theorem opened_homeSite : opened.ends homeSite = some homeEnd := by
  decide +kernel

/-- Both channels of the network are opened. -/
def openings : List (Handshake.Label Place Unit String String String) :=
  opening ++
    [.openInit ⟨.away, "wasm.bridge", "channel-6"⟩ false () "wasm.bridge" "ics721-1",
      .openTry ⟨.home, "wasm.bridge", "channel-1"⟩ false () "wasm.bridge" "channel-6" "ics721-1",
      .openAck ⟨.away, "wasm.bridge", "channel-6"⟩ "channel-1" "ics721-1",
      .openConfirm ⟨.home, "wasm.bridge", "channel-1"⟩]

def bothOpened : Channels Place Unit := openings.foldl handshake.step Handshake.State.initial

/-- The channels that a bridge then has are those of the network. -/
theorem bridgePeer_bothOpened :
    bridgePeer handshake (fun chain => (network.deployment chain).portId) bothOpened =
      network.peer := by
  have steady : Handshake.Steady handshake bothOpened := .run openings
  have written : ∀ entry ∈ bothOpened.shown, peer entry.1.chain entry.1.channel ≠ none := by
    decide +kernel
  funext place channelId
  cases paired : network.peer place channelId with
  | none =>
      rw [Option.eq_none_iff_forall_ne_some]
      intro other opened
      rcases other with ⟨there, far⟩
      rw [bridgePeer_eq_some] at opened
      rcases Handshake.peer_eq_some.mp opened with ⟨value, _, _, present, -⟩
      exact written _ (steady.evidence.present present) paired
  | some other =>
      rcases other with ⟨there, far⟩
      rcases peer_cases paired with
        ⟨rfl, rfl, ⟨rfl, rfl⟩ | ⟨rfl, rfl⟩⟩ | ⟨rfl, rfl, ⟨rfl, rfl⟩ | ⟨rfl, rfl⟩⟩
      all_goals decide +kernel

theorem joins_network : Joins handshake network.deployment bothOpened where
  bridged chain := bridged chain _
  far_ne := by
    intro chain connection
    cases connection
    cases chain
    · decide
    · decide
  counterparty := by
    intro here channelId
    rw [bridgePeer_bothOpened]
    exact network.counterparty here channelId
  channel_no_slash := by
    intro here channelId far paired
    rw [bridgePeer_bothOpened] at paired
    exact network.channel_no_slash paired
  deep := network.deep

end Sample

/-! ## Channels in every reachable state -/

section Runs

variable [DecidableEq ι] [DecidableEq κ]

/-- Whatever chains do in whatever order: an end at a bridge is unordered and of version
`ics721-1`; once it is open, the other end leads back to it and is of the same order and
version; and the other end of the other end is the end itself. -/
theorem channels_agree_of_run (handshake : Handshakes ι κ)
    (labels : List (Handshake.Label ι κ String String String)) {channels : Channels ι κ}
    (reached : labels.foldl handshake.step Handshake.State.initial = channels)
    {site : Site ι String String} (bridged : Bridged handshake site.chain site.port)
    {value : ChannelEnd κ String String String} (here : channels.ends site = some value) :
    value.ordered = false ∧ value.version = ibcVersion ∧
      (value.stage = .opened →
        handshake.sound (handshake.far site.chain value.connection).1 = true →
        ∃ channelId stage, value.channel = some channelId ∧ stage ≠ .init ∧
          channels.ends (handshake.other site value channelId) =
            some ⟨stage, false, (handshake.far site.chain value.connection).2, site.port,
              some site.channel, ibcVersion⟩) ∧
      ∀ far, handshake.sound far.chain = true → handshake.peer channels site = some far →
        handshake.peer channels far = some site := by
  subst reached
  have steady : handshake.Steady (labels.foldl handshake.step Handshake.State.initial) :=
    Handshake.Steady.run labels
  rcases steady.upheld bridged.sound bridged.upholds (steady.evidence.present here) with
    ⟨unordered, spoken⟩
  refine ⟨unordered, spoken, ?_, ?_⟩
  · intro opened soundFar
    rcases steady.exists_other here opened bridged.sound soundFar with
      ⟨channelId, stage, known, started, found⟩
    rw [Handshake.expected, unordered, spoken] at found
    exact ⟨channelId, stage, known, started, found⟩
  · intro far soundFar paired
    exact steady.peer_symm bridged.sound soundFar paired

theorem channels_agree_of_sample :
    (Sample.homeEnd.ordered = false ∧ Sample.homeEnd.version = ibcVersion ∧
      (Sample.homeEnd.stage = .opened →
        Sample.handshake.sound .away = true →
        ∃ channelId stage, Sample.homeEnd.channel = some channelId ∧ stage ≠ .init ∧
          Sample.opened.ends (Sample.handshake.other Sample.homeSite Sample.homeEnd channelId) =
            some ⟨stage, false, (), "wasm.bridge", some "channel-0", ibcVersion⟩) ∧
      ∀ far, Sample.handshake.sound far.chain = true →
        Sample.handshake.peer Sample.opened Sample.homeSite = some far →
        Sample.handshake.peer Sample.opened far = some Sample.homeSite) :=
  channels_agree_of_run Sample.handshake Sample.opening rfl (Sample.bridged _ _)
    Sample.opened_homeSite

/-- A channel between bridges stays open: from whatever reachable state the chains go on, and
whatever other chains prove, an open end stays as it is. -/
theorem channels_stay_open_of_run (handshake : Handshakes ι κ)
    (labels : List (Handshake.Label ι κ String String String)) {channels : Channels ι κ}
    (reached : labels.foldl handshake.step Handshake.State.initial = channels)
    {site : Site ι String String} (bridged : Bridged handshake site.chain site.port)
    {value : ChannelEnd κ String String String} (here : channels.ends site = some value)
    (opened : value.stage = .opened)
    (bridgedFar : Bridged handshake (handshake.far site.chain value.connection).1 value.port)
    (later : List (Handshake.Label ι κ String String String)) :
    (later.foldl handshake.step channels).ends site = some value := by
  subst reached
  exact (Handshake.Steady.run labels).unchanged bridged.guarded bridgedFar.guarded here opened
    later

/-- The home end of an open channel after the other chain tries to close it. -/
theorem channels_stay_open_of_sample :
    ([.closeInit Sample.awaySite, .closeConfirm Sample.homeSite].foldl Sample.handshake.step
      Sample.opened).ends Sample.homeSite = some Sample.homeEnd :=
  channels_stay_open_of_run Sample.handshake Sample.opening rfl (Sample.bridged _ _)
    Sample.opened_homeSite rfl (Sample.bridged _ _) _

/-- Bridges on all chains of a handshake make a network, whatever run opened their channels, and
its channels are there in every later state. -/
theorem network_of_handshakes (handshake : Handshakes ι κ)
    (labels : List (Handshake.Label ι κ String String String)) {channels : Channels ι κ}
    (reached : labels.foldl handshake.step Handshake.State.initial = channels)
    {deployment : ι → Deployment} (joins : Joins handshake deployment channels) (json : Json)
    (speaks : ∀ chain, (deployment chain).api.toJson = json) :
    ∃ network : Network ι, network.deployment = deployment ∧
      network.peer = bridgePeer handshake (fun chain => (deployment chain).portId) channels ∧
      ∀ (later : List (Handshake.Label ι κ String String String)) here channelId other,
        network.peer here channelId = some other →
          bridgePeer handshake (fun chain => (deployment chain).portId)
            (later.foldl handshake.step channels) here channelId = some other := by
  subst reached
  have steady : handshake.Steady (labels.foldl handshake.step Handshake.State.initial) :=
    .run labels
  refine ⟨joins.network steady json speaks, rfl, rfl, ?_⟩
  intro later here channelId other paired
  exact bridgePeer_stays steady joins.bridged paired later

/-- The network of the two chains, whatever they try to do with its channels. -/
theorem network_of_handshakes_of_sample :
    ∃ network : Network Sample.Place, network.deployment = Sample.network.deployment ∧
      network.peer = bridgePeer Sample.handshake
        (fun chain => (Sample.network.deployment chain).portId) Sample.bothOpened ∧
      ∀ (later : List (Handshake.Label Sample.Place Unit String String String)) here channelId
        other, network.peer here channelId = some other →
          bridgePeer Sample.handshake (fun chain => (Sample.network.deployment chain).portId)
            (later.foldl Sample.handshake.step Sample.bothOpened) here channelId = some other :=
  network_of_handshakes Sample.handshake Sample.openings rfl Sample.joins_network
    Sample.network.json Sample.network.speaks

end Runs

end Ics721
