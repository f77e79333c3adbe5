import Ics721.Library.Runs
import Ics721.Library.StoreMap

/-!
# Channel handshakes

Applications on several chains open channels in four steps and close them in two.  Most steps
need a proof of what the other end was, at whatever time, and the application that a step
concerns may refuse it.  A chain that is not sound can prove anything.

Here `ι` are the chains, `κ` names connections, `π` ports, `χ` channels and `ν` versions.
-/

namespace Ics721.Library

/-- How far an end of a channel has come. -/
inductive Stage where
  | init
  | tryOpen
  | opened
  | closed
  deriving DecidableEq, Repr

/-- Where an end of a channel is. -/
structure Site (ι π χ : Type) where
  chain : ι
  port : π
  channel : χ
  deriving DecidableEq, Repr

/-- An end of a channel.  The connection and the port lead to the other end; which channel it
is there becomes known in the course of the handshake. -/
structure ChannelEnd (κ π χ ν : Type) where
  stage : Stage
  ordered : Bool
  connection : κ
  port : π
  channel : Option χ
  version : ν
  deriving DecidableEq, Repr

/-- What an application says to the steps of a handshake.  `opens` returns the version it
agrees to.  Both it and `connects` get the version of the other end if that is known. -/
structure Application (κ π χ ν : Type) where
  opens : χ → ChannelEnd κ π χ ν → Option ν → Option ν
  connects : χ → ChannelEnd κ π χ ν → Option ν → Bool
  closesFirst : χ → ChannelEnd κ π χ ν → Bool
  confirmsClose : χ → ChannelEnd κ π χ ν → Bool

/-- The application opens and connects no end but those whose order and version are right. -/
structure Application.Upholds {κ π χ ν : Type} (app : Application κ π χ ν)
    (right : Bool → ν → Prop) : Prop where
  opens : ∀ {channel value given version}, app.opens channel value given = some version →
    right value.ordered version
  connects : ∀ {channel value version}, app.connects channel value (some version) = true →
    right value.ordered version

/-! ## One end over time -/

namespace ChannelEnd

variable {κ π χ ν : Type} {first second third value : ChannelEnd κ π χ ν}

/-- What an end may become.  Once the other end is known nothing changes but the stage. -/
structure Later (old new : ChannelEnd κ π χ ν) : Prop where
  ordered : new.ordered = old.ordered
  connection : new.connection = old.connection
  port : new.port = old.port
  settled : old.stage ≠ .init →
    new.stage ≠ .init ∧ new.channel = old.channel ∧ new.version = old.version
  opened : old.stage = .opened → new.stage = .opened ∨ new.stage = .closed
  closed : old.stage = .closed → new.stage = .closed

namespace Later

theorem refl (value : ChannelEnd κ π χ ν) : value.Later value :=
  ⟨rfl, rfl, rfl, fun started => ⟨started, rfl, rfl⟩, .inl, id⟩

theorem trans (left : first.Later second) (right : second.Later third) :
    first.Later third where
  ordered := right.ordered.trans left.ordered
  connection := right.connection.trans left.connection
  port := right.port.trans left.port
  settled := by
    intro started
    rcases left.settled started with ⟨middle, channel, version⟩
    rcases right.settled middle with ⟨last, channel', version'⟩
    exact ⟨last, channel'.trans channel, version'.trans version⟩
  opened := by
    intro opened
    rcases left.opened opened with still | closed
    · exact right.opened still
    · exact .inr (right.closed closed)
  closed := fun closed => right.closed (left.closed closed)

/-- The other end becomes known. -/
theorem of_init (stage : value.stage = .init) (channel : Option χ) (version : ν) :
    value.Later { value with stage := .opened, channel := channel, version := version } := by
  refine ⟨rfl, rfl, rfl, ?_, ?_, ?_⟩
  · intro started
    exact absurd stage started
  · intro _
    exact .inl rfl
  · intro closed
    rw [stage] at closed
    cases closed

theorem of_tryOpen (stage : value.stage = .tryOpen) :
    value.Later { value with stage := .opened } := by
  refine ⟨rfl, rfl, rfl, ?_, ?_, ?_⟩
  · intro _
    exact ⟨nofun, rfl, rfl⟩
  · intro _
    exact .inl rfl
  · intro closed
    rw [stage] at closed
    cases closed

theorem close (value : ChannelEnd κ π χ ν) : value.Later { value with stage := .closed } :=
  ⟨rfl, rfl, rfl, fun _ => ⟨nofun, rfl, rfl⟩, fun _ => .inr rfl, fun _ => rfl⟩

end Later

end ChannelEnd

/-! ## Handshakes -/

/-- Chains with applications on their ports.  `far` is the other side of a connection. -/
structure Handshake (ι κ π χ ν : Type) where
  far : ι → κ → ι × κ
  far_far : ∀ chain connection, far (far chain connection).1 (far chain connection).2 =
    (chain, connection)
  sound : ι → Bool
  app : ι → π → Application κ π χ ν

namespace Handshake

variable {ι κ π χ ν : Type}

/-- The ends that there are, and everything that can be proved of ends. -/
structure State (ι κ π χ ν : Type) where
  ends : StoreMap (Site ι π χ) (ChannelEnd κ π χ ν)
  shown : List (Site ι π χ × ChannelEnd κ π χ ν)

def State.initial : State ι κ π χ ν := ⟨.empty, []⟩

inductive Label (ι κ π χ ν : Type) where
  | openInit (site : Site ι π χ) (ordered : Bool) (connection : κ) (port : π) (version : ν)
  | openTry (site : Site ι π χ) (ordered : Bool) (connection : κ) (port : π) (channel : χ)
      (version : ν)
  | openAck (site : Site ι π χ) (channel : χ) (version : ν)
  | openConfirm (site : Site ι π χ)
  | closeInit (site : Site ι π χ)
  | closeConfirm (site : Site ι π χ)
  | timeout (site : Site ι π χ)
  | forge (site : Site ι π χ) (value : ChannelEnd κ π χ ν)

variable (handshake : Handshake ι κ π χ ν)

/-- Where the other end is. -/
def other (site : Site ι π χ) (value : ChannelEnd κ π χ ν) (channel : χ) : Site ι π χ :=
  ⟨(handshake.far site.chain value.connection).1, value.port, channel⟩

/-- What the other end has to look like: it is of the same order and leads back. -/
def expected (site : Site ι π χ) (value : ChannelEnd κ π χ ν) (stage : Stage)
    (channel : Option χ) (version : ν) : ChannelEnd κ π χ ν :=
  ⟨stage, value.ordered, (handshake.far site.chain value.connection).2, site.port, channel,
    version⟩

section Steps

variable [DecidableEq ι] [DecidableEq κ] [DecidableEq π] [DecidableEq χ] [DecidableEq ν]

def State.write (state : State ι κ π χ ν) (site : Site ι π χ) (value : ChannelEnd κ π χ ν) :
    State ι κ π χ ν :=
  ⟨state.ends.save site value, (site, value) :: state.shown⟩

/-- What a label does, if it is permitted. -/
def transaction (state : State ι κ π χ ν) : Label ι κ π χ ν → Option (State ι κ π χ ν)
  | .openInit site ordered connection port version =>
      let value : ChannelEnd κ π χ ν := ⟨.init, ordered, connection, port, none, version⟩
      if state.ends site = none then
        ((handshake.app site.chain site.port).opens site.channel value none).map fun version =>
          state.write site { value with version := version }
      else none
  | .openTry site ordered connection port channel version =>
      let value : ChannelEnd κ π χ ν :=
        ⟨.tryOpen, ordered, connection, port, some channel, version⟩
      if state.ends site = none ∧ (handshake.other site value channel,
          handshake.expected site value .init none version) ∈ state.shown then
        ((handshake.app site.chain site.port).opens site.channel value (some version)).map
          fun version => state.write site { value with version := version }
      else none
  | .openAck site channel version =>
      (state.ends site).bind fun value =>
        if value.stage = .init ∧ (handshake.other site value channel,
            handshake.expected site value .tryOpen (some site.channel) version) ∈ state.shown ∧
            (handshake.app site.chain site.port).connects site.channel
              { value with channel := some channel } (some version) = true then
          some (state.write site
            { value with stage := .opened, channel := some channel, version := version })
        else none
  | .openConfirm site =>
      (state.ends site).bind fun value => value.channel.bind fun channel =>
        if value.stage = .tryOpen ∧ (handshake.other site value channel,
            handshake.expected site value .opened (some site.channel) value.version) ∈
              state.shown ∧
            (handshake.app site.chain site.port).connects site.channel value none = true then
          some (state.write site { value with stage := .opened })
        else none
  | .closeInit site =>
      (state.ends site).bind fun value =>
        if value.stage ≠ .closed ∧
            (handshake.app site.chain site.port).closesFirst site.channel value = true then
          some (state.write site { value with stage := .closed })
        else none
  | .closeConfirm site =>
      (state.ends site).bind fun value => value.channel.bind fun channel =>
        if value.stage ≠ .closed ∧ (handshake.other site value channel,
            handshake.expected site value .closed (some site.channel) value.version) ∈
              state.shown ∧
            (handshake.app site.chain site.port).confirmsClose site.channel value = true then
          some (state.write site { value with stage := .closed })
        else none
  -- A packet that was not received in time ends an ordered channel.
  | .timeout site =>
      (state.ends site).bind fun value =>
        if value.stage = .opened ∧ value.ordered = true then
          some (state.write site { value with stage := .closed })
        else none
  | .forge site value =>
      if handshake.sound site.chain = true then none else some (state.write site value)

/-- What is not permitted changes nothing. -/
def step (state : State ι κ π χ ν) (label : Label ι κ π χ ν) : State ι κ π χ ν :=
  (handshake.transaction state label).getD state

end Steps

/-! ## Reasons -/

/-- How an end can come to be what it is. -/
inductive Writes (state : State ι κ π χ ν) (site : Site ι π χ) : ChannelEnd κ π χ ν → Prop where
  | started {value : ChannelEnd κ π χ ν} {proposed : ν} {given : Option ν}
      (unused : state.ends site = none) (stage : value.stage = .init ∨ value.stage = .tryOpen)
      (agreed : (handshake.app site.chain site.port).opens site.channel
        { value with version := proposed } given = some value.version) :
      Writes state site value
  | acknowledged {value : ChannelEnd κ π χ ν} {channel : χ} {version : ν}
      (here : state.ends site = some value) (stage : value.stage = .init)
      (proof : (handshake.other site value channel,
        handshake.expected site value .tryOpen (some site.channel) version) ∈ state.shown)
      (connected : (handshake.app site.chain site.port).connects site.channel
        { value with channel := some channel } (some version) = true) :
      Writes state site
        { value with stage := .opened, channel := some channel, version := version }
  | confirmed {value : ChannelEnd κ π χ ν} {channel : χ}
      (here : state.ends site = some value) (known : value.channel = some channel)
      (stage : value.stage = .tryOpen)
      (proof : (handshake.other site value channel,
        handshake.expected site value .opened (some site.channel) value.version) ∈ state.shown) :
      Writes state site { value with stage := .opened }
  | closedFirst {value : ChannelEnd κ π χ ν} (here : state.ends site = some value)
      (permitted : (handshake.app site.chain site.port).closesFirst site.channel value = true) :
      Writes state site { value with stage := .closed }
  | closeConfirmed {value : ChannelEnd κ π χ ν} {channel : χ}
      (here : state.ends site = some value)
      (proof : (handshake.other site value channel,
        handshake.expected site value .closed (some site.channel) value.version) ∈ state.shown) :
      Writes state site { value with stage := .closed }
  | timedOut {value : ChannelEnd κ π χ ν} (here : state.ends site = some value)
      (ordered : value.ordered = true) :
      Writes state site { value with stage := .closed }
  | forged {value : ChannelEnd κ π χ ν} (unsound : handshake.sound site.chain = false) :
      Writes state site value

variable {handshake} {state after : State ι κ π χ ν} {label : Label ι κ π χ ν}
variable {site : Site ι π χ} {value : ChannelEnd κ π χ ν}

/-! ## Proofs stay true -/

/-- On a sound chain an end starts from nothing, or goes on from what it was. -/
theorem Writes.later (writes : handshake.Writes state site value)
    (sound : handshake.sound site.chain = true) :
    state.ends site = none ∨ ∃ old, state.ends site = some old ∧ old.Later value := by
  cases writes with
  | started unused => exact .inl unused
  | acknowledged here stage => exact .inr ⟨_, here, .of_init stage _ _⟩
  | confirmed here _ stage => exact .inr ⟨_, here, .of_tryOpen stage⟩
  | closedFirst here => exact .inr ⟨_, here, .close _⟩
  | closeConfirmed here => exact .inr ⟨_, here, .close _⟩
  | timedOut here => exact .inr ⟨_, here, .close _⟩
  | forged unsound =>
      rw [sound] at unsound
      cases unsound

/-- What was shown of an end of a sound chain is what the end is now or was before. -/
structure Evidence (handshake : Handshake ι κ π χ ν) (state : State ι κ π χ ν) : Prop where
  present : ∀ {site value}, state.ends site = some value → (site, value) ∈ state.shown
  kept : ∀ {site value}, handshake.sound site.chain = true → (site, value) ∈ state.shown →
    ∃ now, state.ends site = some now ∧ value.Later now

theorem Evidence.initial : Evidence handshake State.initial where
  present := nofun
  kept := nofun

/-! ## What can be relied on -/

/-- The application on a port of a sound chain never closes a channel, and has none that the
host would close. -/
structure Guarded (handshake : Handshake ι κ π χ ν) (chain : ι) (port : π) : Prop where
  sound : handshake.sound chain = true
  unordered : (handshake.app chain port).Upholds fun ordered _ => ordered = false
  refuses : ∀ channel value, (handshake.app chain port).closesFirst channel value = false

/-- The ends of sound chains in every reachable state: when one is open the other end leads
back, its order and version are right, and it is not closed if guarded on both sides. -/
structure Steady (handshake : Handshake ι κ π χ ν) (state : State ι κ π χ ν) : Prop where
  evidence : Evidence handshake state
  agreed : ∀ {site value}, handshake.sound site.chain = true → (site, value) ∈ state.shown →
    value.stage = .opened → ∃ channel stage, value.channel = some channel ∧ stage ≠ .init ∧
      (handshake.other site value channel,
        handshake.expected site value stage (some site.channel) value.version) ∈ state.shown
  upheld : ∀ {site value} {right : Bool → ν → Prop}, handshake.sound site.chain = true →
    (handshake.app site.chain site.port).Upholds right → (site, value) ∈ state.shown →
    right value.ordered value.version
  lasting : ∀ {site value}, Guarded handshake site.chain site.port →
    Guarded handshake (handshake.far site.chain value.connection).1 value.port →
    (site, value) ∈ state.shown → value.stage ≠ .closed

namespace Steady

theorem initial : Steady handshake State.initial where
  evidence := .initial
  agreed := nofun
  upheld := nofun
  lasting := nofun

theorem agreed_write (writes : handshake.Writes state site value)
    (sound : handshake.sound site.chain = true) (opened : value.stage = .opened) :
    ∃ channel stage, value.channel = some channel ∧ stage ≠ .init ∧
      (handshake.other site value channel,
        handshake.expected site value stage (some site.channel) value.version) ∈ state.shown := by
  cases writes with
  | started _ stage =>
      rw [opened] at stage
      cases stage <;> contradiction
  | acknowledged _ _ proof => exact ⟨_, .tryOpen, rfl, nofun, proof⟩
  | confirmed _ known _ proof => exact ⟨_, .opened, known, nofun, proof⟩
  | closedFirst => cases opened
  | closeConfirmed => cases opened
  | timedOut => cases opened
  | forged unsound =>
      rw [sound] at unsound
      cases unsound

theorem upheld_write (steady : Steady handshake state)
    (writes : handshake.Writes state site value) {right : Bool → ν → Prop}
    (sound : handshake.sound site.chain = true)
    (upholds : (handshake.app site.chain site.port).Upholds right) :
    right value.ordered value.version := by
  cases writes with
  | started _ _ agreed =>
      have right := upholds.opens agreed
      exact right
  | acknowledged _ _ _ connected =>
      have right := upholds.connects connected
      exact right
  | confirmed here =>
      have before := steady.upheld sound upholds (steady.evidence.present here)
      exact before
  | closedFirst here =>
      have before := steady.upheld sound upholds (steady.evidence.present here)
      exact before
  | closeConfirmed here =>
      have before := steady.upheld sound upholds (steady.evidence.present here)
      exact before
  | timedOut here =>
      have before := steady.upheld sound upholds (steady.evidence.present here)
      exact before
  | forged unsound =>
      rw [sound] at unsound
      cases unsound

theorem lasting_write (steady : Steady handshake state)
    (writes : handshake.Writes state site value)
    (guarded : Guarded handshake site.chain site.port)
    (far : Guarded handshake (handshake.far site.chain value.connection).1 value.port) :
    value.stage ≠ .closed := by
  cases writes with
  | started _ stage =>
      rcases stage with stage | stage
      all_goals
        rw [stage]
        decide
  | acknowledged => nofun
  | confirmed => nofun
  | closedFirst here permitted =>
      rw [guarded.refuses] at permitted
      cases permitted
  | @closeConfirmed old channel here proof =>
      -- The other end would have been closed before, and leads to this one.
      have back : Guarded handshake
          (handshake.far (handshake.other site old channel).chain
            (handshake.expected site old .closed (some site.channel) old.version).connection).1
          (handshake.expected site old .closed (some site.channel) old.version).port := by
        simp only [other, expected, handshake.far_far]
        exact guarded
      exact absurd rfl (steady.lasting far back proof)
  | timedOut here ordered =>
      have unordered := steady.upheld guarded.sound guarded.unordered
        (steady.evidence.present here)
      rw [ordered] at unordered
      cases unordered
  | forged unsound =>
      rw [guarded.sound] at unsound
      cases unsound

/-- The other end of an open end, now: it leads back and is of the same order and version. -/
theorem exists_other (steady : Steady handshake state) (here : state.ends site = some value)
    (opened : value.stage = .opened) (sound : handshake.sound site.chain = true)
    (soundFar : handshake.sound (handshake.far site.chain value.connection).1 = true) :
    ∃ channel stage, value.channel = some channel ∧ stage ≠ .init ∧
      state.ends (handshake.other site value channel) =
        some (handshake.expected site value stage (some site.channel) value.version) := by
  rcases steady.agreed sound (steady.evidence.present here) opened with
    ⟨channel, stage, known, started, proof⟩
  rcases steady.evidence.kept soundFar proof with ⟨now, there, later⟩
  rcases later.settled started with ⟨still, sameChannel, sameVersion⟩
  refine ⟨channel, now.stage, known, still, ?_⟩
  rw [there, Option.some.injEq]
  cases now
  simp only [expected, ChannelEnd.mk.injEq, true_and]
  exact ⟨later.ordered, later.connection, later.port, sameChannel, sameVersion⟩

end Steady

/-! ## Pairs of open ends -/

/-- The other end of an open end, if it is open too. -/
def peer (handshake : Handshake ι κ π χ ν) (state : State ι κ π χ ν) (site : Site ι π χ) :
    Option (Site ι π χ) :=
  (state.ends site).bind fun value => value.channel.bind fun channel =>
    if value.stage = .opened ∧ ((state.ends (handshake.other site value channel)).map
        ChannelEnd.stage = some .opened) then
      some (handshake.other site value channel)
    else none

theorem peer_eq_some {far : Site ι π χ} : handshake.peer state site = some far ↔
    ∃ value channel there, state.ends site = some value ∧ value.channel = some channel ∧
      value.stage = .opened ∧ handshake.other site value channel = far ∧
      state.ends far = some there ∧ there.stage = .opened := by
  simp only [peer, Option.bind_eq_some_iff, Option.ite_none_right_eq_some, Option.some.injEq,
    Option.map_eq_some_iff]
  constructor
  · intro found
    rcases found with ⟨value, here, channel, known, ⟨opened, there, present, openedThere⟩, rfl⟩
    exact ⟨value, channel, there, here, known, opened, rfl, present, openedThere⟩
  · intro found
    rcases found with ⟨value, channel, there, here, known, opened, rfl, present, openedThere⟩
    exact ⟨value, here, channel, known, ⟨opened, there, present, openedThere⟩, rfl⟩

/-- Channels have two ends. -/
theorem Steady.peer_symm (steady : Steady handshake state) {far : Site ι π χ}
    (sound : handshake.sound site.chain = true) (soundFar : handshake.sound far.chain = true)
    (paired : handshake.peer state site = some far) : handshake.peer state far = some site := by
  rcases peer_eq_some.mp paired with
    ⟨value, channel, there, here, known, opened, rfl, present, openedThere⟩
  rcases steady.exists_other here opened sound soundFar with ⟨other, stage, same, -, found⟩
  rw [known, Option.some.injEq] at same
  subst same
  rw [present, Option.some.injEq] at found
  subst found
  have back : handshake.other (handshake.other site value channel)
      (handshake.expected site value stage (some site.channel) value.version) site.channel =
        site := by
    simp only [Handshake.other, expected, handshake.far_far]
  exact peer_eq_some.mpr ⟨_, _, value, present, rfl, openedThere, back, here, opened⟩

/-! ## Runs -/

section Runs

variable [DecidableEq ι] [DecidableEq π] [DecidableEq χ]

theorem Evidence.write (evidence : Evidence handshake state)
    (writes : handshake.Writes state site value) :
    Evidence handshake (state.write site value) where
  present := by
    intro query found here
    simp only [State.write, StoreMap.save_apply] at here
    split at here
    next same =>
      subst same
      cases here
      exact List.mem_cons_self
    next => exact List.mem_cons_of_mem _ (evidence.present here)
  kept := by
    intro query earlier sound member
    simp only [State.write, StoreMap.save_apply]
    rcases List.mem_cons.mp member with same | member
    · cases same
      rw [if_pos rfl]
      exact ⟨value, rfl, .refl value⟩
    · rcases evidence.kept sound member with ⟨now, here, later⟩
      by_cases same : query = site
      · subst same
        rw [if_pos rfl]
        rcases writes.later sound with unused | ⟨old, found, goes⟩
        · rw [here] at unused
          cases unused
        · rw [here] at found
          cases found
          exact ⟨value, rfl, later.trans goes⟩
      · rw [if_neg same]
        exact ⟨now, here, later⟩

theorem Steady.write (steady : Steady handshake state)
    (writes : handshake.Writes state site value) :
    Steady handshake (state.write site value) where
  evidence := steady.evidence.write writes
  agreed := by
    intro query earlier sound member opened
    have found : ∃ channel stage, earlier.channel = some channel ∧ stage ≠ .init ∧
        (handshake.other query earlier channel, handshake.expected query earlier stage
          (some query.channel) earlier.version) ∈ state.shown := by
      rcases List.mem_cons.mp member with same | member
      · cases same
        exact agreed_write writes sound opened
      · exact steady.agreed sound member opened
    rcases found with ⟨channel, stage, known, started, proof⟩
    exact ⟨channel, stage, known, started, List.mem_cons_of_mem _ proof⟩
  upheld := by
    intro query earlier right sound upholds member
    rcases List.mem_cons.mp member with same | member
    · cases same
      exact steady.upheld_write writes sound upholds
    · exact steady.upheld sound upholds member
  lasting := by
    intro query earlier guarded far member
    rcases List.mem_cons.mp member with same | member
    · cases same
      exact steady.lasting_write writes guarded far
    · exact steady.lasting guarded far member

variable [DecidableEq κ] [DecidableEq ν]

/-- A label writes one end, for one of these reasons. -/
theorem writes_of_transaction (done : handshake.transaction state label = some after) :
    ∃ site value, handshake.Writes state site value ∧ after = state.write site value := by
  cases label with
  | openInit site ordered connection port version =>
      simp only [transaction, Option.ite_none_right_eq_some, Option.map_eq_some_iff] at done
      rcases done with ⟨unused, version, agreed, rfl⟩
      exact ⟨site, _, .started unused (.inl rfl) agreed, rfl⟩
  | openTry site ordered connection port channel version =>
      simp only [transaction, Option.ite_none_right_eq_some, Option.map_eq_some_iff] at done
      rcases done with ⟨⟨unused, -⟩, version, agreed, rfl⟩
      exact ⟨site, _, .started unused (.inr rfl) agreed, rfl⟩
  | openAck site channel version =>
      simp only [transaction, Option.bind_eq_some_iff, Option.ite_none_right_eq_some,
        Option.some.injEq] at done
      rcases done with ⟨value, here, ⟨stage, proof, connected⟩, rfl⟩
      exact ⟨site, _, .acknowledged here stage proof connected, rfl⟩
  | openConfirm site =>
      simp only [transaction, Option.bind_eq_some_iff, Option.ite_none_right_eq_some,
        Option.some.injEq] at done
      rcases done with ⟨value, here, channel, known, ⟨stage, proof, -⟩, rfl⟩
      exact ⟨site, _, .confirmed here known stage proof, rfl⟩
  | closeInit site =>
      simp only [transaction, Option.bind_eq_some_iff, Option.ite_none_right_eq_some,
        Option.some.injEq] at done
      rcases done with ⟨value, here, ⟨-, permitted⟩, rfl⟩
      exact ⟨site, _, .closedFirst here permitted, rfl⟩
  | closeConfirm site =>
      simp only [transaction, Option.bind_eq_some_iff, Option.ite_none_right_eq_some,
        Option.some.injEq] at done
      rcases done with ⟨value, here, channel, -, ⟨-, proof, -⟩, rfl⟩
      exact ⟨site, _, .closeConfirmed here proof, rfl⟩
  | timeout site =>
      simp only [transaction, Option.bind_eq_some_iff, Option.ite_none_right_eq_some,
        Option.some.injEq] at done
      rcases done with ⟨value, here, ⟨-, ordered⟩, rfl⟩
      exact ⟨site, _, .timedOut here ordered, rfl⟩
  | forge site value =>
      simp only [transaction, Option.ite_none_left_eq_some, Option.some.injEq,
        Bool.not_eq_true] at done
      rcases done with ⟨unsound, rfl⟩
      exact ⟨site, value, .forged unsound, rfl⟩

/-- What every write keeps holds after a run. -/
theorem run_of_writes {property : State ι κ π χ ν → Prop}
    (kept : ∀ state site value, property state → handshake.Writes state site value →
      property (state.write site value))
    (labels : List (Label ι κ π χ ν)) (start : property state) :
    property (labels.foldl handshake.step state) := by
  apply run_invariant _ labels start
  intro state label holds
  unfold step
  cases done : handshake.transaction state label with
  | none => exact holds
  | some after =>
      rcases writes_of_transaction done with ⟨site, value, writes, rfl⟩
      exact kept state site value holds writes

/-- Every reachable state is steady. -/
theorem Steady.run (labels : List (Label ι κ π χ ν)) :
    Steady handshake (labels.foldl handshake.step State.initial) :=
  run_of_writes (fun _ _ _ steady writes => steady.write writes) labels .initial

/-- What an end of a sound chain becomes in the rest of a run. -/
theorem Steady.later (steady : Steady handshake state)
    (sound : handshake.sound site.chain = true) (here : state.ends site = some value)
    (labels : List (Label ι κ π χ ν)) :
    ∃ now, (labels.foldl handshake.step state).ends site = some now ∧ value.Later now := by
  have kept : ∀ (middle : State ι κ π χ ν) query next,
      Steady handshake middle ∧ (site, value) ∈ middle.shown →
        handshake.Writes middle query next →
          Steady handshake (middle.write query next) ∧
            (site, value) ∈ (middle.write query next).shown := by
    intro middle query next held writes
    exact ⟨held.1.write writes, List.mem_cons_of_mem _ held.2⟩
  have held := run_of_writes kept labels ⟨steady, steady.evidence.present here⟩
  exact held.1.evidence.kept sound held.2

/-- An open end that is guarded on both sides is the same for ever. -/
theorem Steady.unchanged (steady : Steady handshake state)
    (guarded : Guarded handshake site.chain site.port)
    (far : Guarded handshake (handshake.far site.chain value.connection).1 value.port)
    (here : state.ends site = some value) (opened : value.stage = .opened)
    (labels : List (Label ι κ π χ ν)) :
    (labels.foldl handshake.step state).ends site = some value := by
  rcases steady.later guarded.sound here labels with ⟨now, found, later⟩
  have last : Steady handshake (labels.foldl handshake.step state) :=
    run_of_writes (fun _ _ _ steady writes => steady.write writes) labels steady
  have stage : now.stage = .opened := by
    rcases later.opened opened with still | closed
    · exact still
    · rw [← later.connection, ← later.port] at far
      exact absurd closed (last.lasting guarded far (last.evidence.present found))
  have started : value.stage ≠ .init := by
    rw [opened]
    decide
  rcases later.settled started with ⟨-, channel, version⟩
  rw [found, Option.some.injEq]
  cases now
  cases value
  simp only [ChannelEnd.mk.injEq]
  exact ⟨stage.trans opened.symm, later.ordered, later.connection, later.port, channel, version⟩

end Runs

end Handshake

end Ics721.Library
