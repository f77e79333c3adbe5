import Ics721.Network.Progress

/-!
# What a delivery amounts to

A bridge gives every new collection the next address of its chain, and keeps the record of a
class that it saw last, so both depend on what arrived first.  A `Scene` is everything else
there is to see of a bridge and its collections.  On scenes a delivery from another bridge
rewrites a few entries, and which ones can be read off the entries of one NFT.
-/

namespace Ics721

open Library

/-- A bridge and its collections, without the addresses of collections and the records of
classes. -/
structure Scene where
  paused : Bool
  outgoing : StoreMap (ClassId × TokenId) String
  incoming : StoreMap (ClassId × TokenId) String
  metadata : StoreMap (ClassId × TokenId) (Option Binary)
  collections : StoreMap ClassId CollectionInfo
  tokens : StoreMap (ClassId × TokenId) TokenInfo

/-- What a bridge reads in a packet with one token: the class of the voucher, the class of the
NFT that may come back, and the token itself. -/
structure Parcel where
  cls : ClassId
  source : Option ClassId
  tokenId : TokenId
  uri : Option String
  data : Option Binary
  channelId : String
  receiver : String

/-- The entries that a delivery rewrites. -/
structure Edits where
  outgoing : Option ((ClassId × TokenId) × Option String)
  incoming : Option ((ClassId × TokenId) × Option String)
  metadata : Option ((ClassId × TokenId) × Option (Option Binary))
  collection : Option ClassId
  token : Option ((ClassId × TokenId) × Option TokenInfo)

namespace Parcel

/-- The NFTs that a parcel may be about. -/
def About (parcel : Parcel) (key : ClassId × TokenId) : Prop :=
  (key.1 = parcel.cls ∨ parcel.source = some key.1) ∧ key.2 = parcel.tokenId

/-- Two parcels are about different NFTs. -/
def Apart (first second : Parcel) : Prop := ∀ key, first.About key → ¬second.About key

theorem about_cls (parcel : Parcel) : parcel.About (parcel.cls, parcel.tokenId) :=
  ⟨.inl rfl, rfl⟩

theorem about_source {parcel : Parcel} {source : ClassId} (returns : parcel.source = some source) :
    parcel.About (source, parcel.tokenId) :=
  ⟨.inr returns, rfl⟩

theorem Apart.symm {first second : Parcel} (apart : first.Apart second) : second.Apart first :=
  fun key about other => apart key other about

end Parcel

namespace Edits

/-- Nothing is rewritten. -/
def nothing : Edits := ⟨none, none, none, none, none⟩

/-- Only entries of some NFTs are rewritten. -/
structure Within (edits : Edits) (about : ClassId × TokenId → Prop) : Prop where
  outgoing : ∀ key entry, edits.outgoing = some (key, entry) → about key
  incoming : ∀ key entry, edits.incoming = some (key, entry) → about key
  metadata : ∀ key entry, edits.metadata = some (key, entry) → about key
  token : ∀ key entry, edits.token = some (key, entry) → about key

end Edits

namespace Scene

variable {bridge : Addr} {scene other : Scene} {valid : String → Bool}

/-- A collection of vouchers that was just instantiated. -/
def voucherInfo (bridge : Addr) (classId : ClassId) : CollectionInfo :=
  ⟨classId.id, bridge, .empty⟩

def apply (scene : Scene) (bridge : Addr) (edits : Edits) : Scene where
  paused := scene.paused
  outgoing := scene.outgoing.edit edits.outgoing
  incoming := scene.incoming.edit edits.incoming
  metadata := scene.metadata.edit edits.metadata
  collections := scene.collections.fill (voucherInfo bridge) edits.collection
  tokens := scene.tokens.edit edits.token

/-- The class under which the NFT of a parcel comes back. -/
def returning (scene : Scene) (parcel : Parcel) : Option ClassId :=
  parcel.source.filter fun source =>
    scene.outgoing (source, parcel.tokenId) = some parcel.channelId

/-- What a delivery rewrites, and whether it is accepted.  The attempt to create a voucher that
exists leaves its channel behind. -/
def judge (scene : Scene) (valid : String → Bool) (parcel : Parcel) : Edits × Bool :=
  if scene.paused || !valid parcel.receiver then
    (.nothing, false)
  else
    match scene.returning parcel with
    | some source =>
        ({ Edits.nothing with
          outgoing := some ((source, parcel.tokenId), none)
          token := some ((source, parcel.tokenId),
            (scene.tokens (source, parcel.tokenId)).map fun token =>
              ⟨⟨parcel.receiver⟩, [], token.tokenUri⟩) }, true)
    | none =>
        let key := (parcel.cls, parcel.tokenId)
        let noted := { Edits.nothing with incoming := some (key, some parcel.channelId) }
        if (scene.tokens key).isSome then
          (noted, false)
        else
          ({ noted with
            metadata := some (key, some parcel.data)
            collection := some parcel.cls
            token := some (key, some ⟨⟨parcel.receiver⟩, [], parcel.uri⟩) }, true)

theorem judge_refused {parcel : Parcel}
    (refused : (scene.paused || !valid parcel.receiver) = true) :
    scene.judge valid parcel = (.nothing, false) := by
  unfold judge
  rw [if_pos refused]

theorem judge_returning {parcel : Parcel} {source : ClassId} {token : TokenInfo}
    (accepted : (scene.paused || !valid parcel.receiver) = false)
    (returning : scene.returning parcel = some source)
    (present : scene.tokens (source, parcel.tokenId) = some token) :
    scene.judge valid parcel = ({ Edits.nothing with
      outgoing := some ((source, parcel.tokenId), none)
      token := some ((source, parcel.tokenId),
        some ⟨⟨parcel.receiver⟩, [], token.tokenUri⟩) }, true) := by
  simp only [judge, accepted, Bool.false_eq_true, if_false, returning, present, Option.map_some]

theorem judge_existing {parcel : Parcel} {token : TokenInfo}
    (accepted : (scene.paused || !valid parcel.receiver) = false)
    (staying : scene.returning parcel = none)
    (present : scene.tokens (parcel.cls, parcel.tokenId) = some token) :
    scene.judge valid parcel = ({ Edits.nothing with
      incoming := some ((parcel.cls, parcel.tokenId), some parcel.channelId) }, false) := by
  simp only [judge, accepted, Bool.false_eq_true, if_false, staying, present, Option.isSome_some,
    if_true]

theorem judge_creating {parcel : Parcel}
    (accepted : (scene.paused || !valid parcel.receiver) = false)
    (staying : scene.returning parcel = none)
    (unused : scene.tokens (parcel.cls, parcel.tokenId) = none) :
    scene.judge valid parcel = ({
      outgoing := none
      incoming := some ((parcel.cls, parcel.tokenId), some parcel.channelId)
      metadata := some ((parcel.cls, parcel.tokenId), some parcel.data)
      collection := some parcel.cls
      token := some ((parcel.cls, parcel.tokenId),
        some ⟨⟨parcel.receiver⟩, [], parcel.uri⟩) }, true) := by
  simp only [judge, accepted, Bool.false_eq_true, if_false, staying, unused,
    Option.isSome_none]
  rfl

/-- Only entries of the NFTs that the parcel is about are rewritten. -/
theorem within_judge (scene : Scene) (valid : String → Bool) (parcel : Parcel) :
    (scene.judge valid parcel).1.Within parcel.About := by
  unfold judge
  split
  next =>
    constructor
    all_goals rintro key entry ⟨⟩
  next =>
    split
    next source returns =>
      have about := Parcel.about_source (Option.filter_eq_some_iff.mp returns).1
      constructor
      · rintro key entry ⟨⟩
        exact about
      · rintro key entry ⟨⟩
      · rintro key entry ⟨⟩
      · rintro key entry ⟨⟩
        exact about
    next =>
      have about := parcel.about_cls
      dsimp only
      split
      next =>
        constructor
        · rintro key entry ⟨⟩
        · rintro key entry ⟨⟩
          exact about
        · rintro key entry ⟨⟩
        · rintro key entry ⟨⟩
      next =>
        constructor
        · rintro key entry ⟨⟩
        · rintro key entry ⟨⟩
          exact about
        · rintro key entry ⟨⟩
          exact about
        · rintro key entry ⟨⟩
          exact about

/-- Nothing is read but entries of the NFTs that the parcel is about. -/
theorem judge_congr {parcel : Parcel} (paused : other.paused = scene.paused)
    (outgoing : ∀ key, parcel.About key → other.outgoing key = scene.outgoing key)
    (tokens : ∀ key, parcel.About key → other.tokens key = scene.tokens key) :
    other.judge valid parcel = scene.judge valid parcel := by
  have returning : other.returning parcel = scene.returning parcel := by
    unfold returning
    cases source : parcel.source with
    | none => rfl
    | some source =>
        simp only [Option.filter_some, outgoing _ (Parcel.about_source source)]
  unfold judge
  rw [paused, returning]
  split
  next => rfl
  next =>
    split
    next source returns =>
      rw [tokens _ (Parcel.about_source (Option.filter_eq_some_iff.mp returns).1)]
    next =>
      dsimp only
      rw [tokens _ parcel.about_cls]

/-- A delivery does not matter to one that is about other NFTs. -/
theorem judge_apply {first second : Parcel} (apart : first.Apart second) :
    (scene.apply bridge (scene.judge valid first).1).judge valid second =
      scene.judge valid second := by
  have within := scene.within_judge valid first
  apply judge_congr
  · rfl
  · intro key about
    apply StoreMap.edit_of_ne
    rintro _ entry changed rfl
    exact apart _ (within.outgoing _ entry changed) about
  · intro key about
    apply StoreMap.edit_of_ne
    rintro _ entry changed rfl
    exact apart _ (within.token _ entry changed) about

/-- Edits of different NFTs may change places. -/
theorem apply_comm {first second : Edits} {about otherAbout : ClassId × TokenId → Prop}
    (within : first.Within about) (otherWithin : second.Within otherAbout)
    (apart : ∀ key, about key → ¬otherAbout key) :
    (scene.apply bridge first).apply bridge second =
      (scene.apply bridge second).apply bridge first := by
  unfold apply
  congr 1
  · apply StoreMap.edit_comm
    rintro key entry _ otherEntry changed otherChanged rfl
    exact apart key (within.outgoing _ _ changed) (otherWithin.outgoing _ _ otherChanged)
  · apply StoreMap.edit_comm
    rintro key entry _ otherEntry changed otherChanged rfl
    exact apart key (within.incoming _ _ changed) (otherWithin.incoming _ _ otherChanged)
  · apply StoreMap.edit_comm
    rintro key entry _ otherEntry changed otherChanged rfl
    exact apart key (within.metadata _ _ changed) (otherWithin.metadata _ _ otherChanged)
  · exact StoreMap.fill_comm first.collection second.collection
  · apply StoreMap.edit_comm
    rintro key entry _ otherEntry changed otherChanged rfl
    exact apart key (within.token _ _ changed) (otherWithin.token _ _ otherChanged)

/-- Deliveries that are about different NFTs may change places. -/
theorem deliveries_comm {first second : Parcel} (apart : first.Apart second) :
    (scene.apply bridge (scene.judge valid first).1).apply bridge (scene.judge valid second).1 =
      (scene.apply bridge (scene.judge valid second).1).apply bridge
        (scene.judge valid first).1 :=
  apply_comm (scene.within_judge valid first) (scene.within_judge valid second) apart

end Scene

/-! ## The scene of a chain -/

/-- The NFTs of a chain by class instead of by collection. -/
def tokensOf (registry : StoreMap ClassId Addr) (nfts : StoreMap (Addr × TokenId) TokenInfo) :
    StoreMap (ClassId × TokenId) TokenInfo := fun key =>
  (registry key.1).bind fun contract => nfts (contract, key.2)

theorem tokensOf_save {registry : StoreMap ClassId Addr}
    {nfts : StoreMap (Addr × TokenId) TokenInfo} {classId : ClassId} {contract : Addr}
    {tokenId : TokenId} {token : TokenInfo} (known : registry classId = some contract)
    (injective : ∀ other, registry other = some contract → other = classId) :
    tokensOf registry (nfts.save (contract, tokenId) token) =
      (tokensOf registry nfts).save (classId, tokenId) token := by
  funext key
  rcases key with ⟨other, otherToken⟩
  simp only [StoreMap.save_apply, tokensOf, Prod.mk.injEq]
  cases entry : registry other with
  | none =>
      have different : other ≠ classId := by
        rintro rfl
        rw [known] at entry
        cases entry
      simp [different]
  | some found =>
      by_cases same : found = contract
      · subst same
        rw [injective other entry]
        simp
      · have different : other ≠ classId := by
          rintro rfl
          rw [known] at entry
          exact same (Option.some.inj entry).symm
        simp [same, different]

/-- An empty collection has no tokens. -/
theorem tokensOf_register {registry : StoreMap ClassId Addr}
    {nfts : StoreMap (Addr × TokenId) TokenInfo} {classId : ClassId} {contract : Addr}
    (missing : registry classId = none) (free : ∀ tokenId, nfts (contract, tokenId) = none) :
    tokensOf (registry.save classId contract) nfts = tokensOf registry nfts := by
  funext key
  simp only [tokensOf, StoreMap.save_apply]
  split
  next same => rw [same, missing, Option.bind_some, Option.bind_none, free]
  next => rfl

namespace Deployment

variable {deployment : Deployment} {codeId : Nat} {world after : World Ledger}
variable {packet : IbcPacket} {data : NonFungibleTokenPacketData} {receiver : Addr}
variable {classId : ClassId} {contract : Addr} {token : Token}

def scene (deployment : Deployment) (world : World Ledger) : Scene where
  paused := world.storage.paused
  outgoing := world.storage.outgoingClassTokenToChannel
  incoming := world.storage.incomingClassTokenToChannel
  metadata := world.storage.tokenMetadata
  collections classId := (world.storage.classIdToNftContract classId).bind
    (world.contracts.infoAt deployment.api)
  tokens := tokensOf world.storage.classIdToNftContract (world.contracts.nfts deployment.api)

theorem scene_tokens_eq_none {tokenId : TokenId} :
    (deployment.scene world).tokens (classId, tokenId) = none ↔
      deployment.holder world classId tokenId = none := by
  simp only [scene, tokensOf, holder, Option.bind_eq_none_iff, Option.map_eq_none_iff]

/-- Every class has a collection of its own. -/
structure Filed (deployment : Deployment) (world : World Ledger) : Prop where
  known : ∀ {classId contract}, world.storage.classIdToNftContract classId = some contract →
    ∃ info, world.contracts.infoAt deployment.api contract = some info
  injective : ∀ {left right contract},
    world.storage.classIdToNftContract left = some contract →
    world.storage.classIdToNftContract right = some contract → left = right

theorem Held.filed (held : deployment.Held codeId world) : deployment.Filed world where
  known := held.known
  injective := held.sound.registry.contract_inj

/-- What can be seen when the collection of a class is opened. -/
theorem Filed.scene_opened {opened : World Ledger} (filed : deployment.Filed world)
    (opens : deployment.Opens classId contract world opened) :
    deployment.scene opened = { deployment.scene world with
      collections := (deployment.scene world).collections.fill
        (Scene.voucherInfo deployment.bridge) (some classId) } ∧
    ∀ other, opened.storage.classIdToNftContract other = some contract → other = classId := by
  rcases opens with ⟨registered, rfl⟩ | ⟨missing, ledger, instantiated, rfl⟩
  · constructor
    · rcases filed.known registered with ⟨info, known⟩
      have present : (deployment.scene opened).collections classId = some info := by
        simp only [scene, registered, Option.bind_some, known]
      rw [StoreMap.fill, present, Option.getD_some, StoreMap.save_eq_self present]
    · intro other entry
      exact filed.injective entry registered
  · rcases instantiate_eq_ok instantiated with ⟨-, free, infos, nfts, -⟩
    have unregistered : ∀ other, world.storage.classIdToNftContract other ≠ some contract := by
      intro other entry
      rcases filed.known entry with ⟨info, known⟩
      rw [free] at known
      cases known
    constructor
    · have empty : ∀ tokenId, world.contracts.nfts deployment.api (contract, tokenId) = none := by
        intro tokenId
        cases present : world.contracts.nfts deployment.api (contract, tokenId) with
        | none => rfl
        | some info =>
            rcases Ledger.infoAt_of_nfts present with ⟨_, known⟩
            rw [free] at known
            cases known
      simp only [scene, Storage.register, nfts, tokensOf_register missing empty,
        Scene.mk.injEq, true_and, and_true]
      funext other
      simp only [StoreMap.fill, missing, Option.bind_none, Option.getD_none, StoreMap.save_apply,
        infos]
      split
      next => simp [Scene.voucherInfo]
      next =>
        cases entry : world.storage.classIdToNftContract other with
        | none => rfl
        | some found =>
            have different : found ≠ contract := by
              rintro rfl
              exact unregistered other entry
            simp only [Option.bind_some, if_neg different]
    · intro other entry
      simp only [Storage.register, StoreMap.save_apply] at entry
      split at entry
      next same => exact same
      next => exact absurd entry (unregistered other)

/-- What can be seen of a redemption. -/
theorem Filed.scene_redeems {tokenId : TokenId} {cls : Class} (filed : deployment.Filed world)
    (redeems : deployment.Redeems receiver ⟨cls, [tokenId]⟩ world after) :
    ∃ before, (deployment.scene world).tokens (cls.id, tokenId) = some before ∧
      deployment.scene after = { deployment.scene world with
        tokens := (deployment.scene world).tokens.save (cls.id, tokenId)
          ⟨receiver, [], before.tokenUri⟩ } := by
  rcases redeems with ⟨contract, ledger, registered, called, rfl⟩
  simp only [Ledger.callAll, List.map_cons, List.map_nil, List.foldlM_cons, List.foldlM_nil,
    bind_eq_ok, pure_eq_ok] at called
  rcases called with ⟨_, call, rfl⟩
  rcases Ledger.call_transferNft call with ⟨_, before, -, present, -, -, became⟩
  refine ⟨before, ?_, ?_⟩
  · simp only [scene, tokensOf, registered, Option.bind_some, present]
  · simp only [scene, became.infos, became.nfts,
      tokensOf_save registered fun other entry => filed.injective entry registered]

/-- What can be seen of a creation. -/
theorem Filed.scene_creates {cls : Class} (filed : deployment.Filed world)
    (creates : deployment.Creates receiver ⟨cls, [token]⟩ world after) :
    (deployment.scene world).tokens (cls.id, token.id) = none ∧
      deployment.scene after = { deployment.scene world with
        metadata := (deployment.scene world).metadata.save (cls.id, token.id) token.data
        collections := (deployment.scene world).collections.fill
          (Scene.voucherInfo deployment.bridge) (some cls.id)
        tokens := (deployment.scene world).tokens.save (cls.id, token.id)
          ⟨receiver, [], token.uri⟩ } := by
  rcases creates with ⟨contract, opened, ledger, opens, called, rfl⟩
  have recorded : deployment.Filed { world with storage := world.storage.saveClass cls } :=
    ⟨filed.known, filed.injective⟩
  rcases recorded.scene_opened opens with ⟨seen, injective⟩
  have same : deployment.scene { world with storage := world.storage.saveClass cls } =
      deployment.scene world := rfl
  rw [same] at seen
  have registered := opens.registered
  simp only [Ledger.callAll, List.map_cons, List.map_nil, List.foldlM_cons, List.foldlM_nil,
    bind_eq_ok, pure_eq_ok] at called
  rcases called with ⟨minted, call, rfl⟩
  rcases Ledger.call_mint call with ⟨_, -, -, free, -, became⟩
  constructor
  · have unused : (deployment.scene opened).tokens (cls.id, token.id) = none := by
      simp only [scene, tokensOf, registered, Option.bind_some, free]
    rw [seen] at unused
    exact unused
  · have last : deployment.scene { opened with
        storage := opened.storage.saveMetadata cls.id [token], contracts := minted } =
        { deployment.scene opened with
          metadata := (deployment.scene opened).metadata.save (cls.id, token.id) token.data
          tokens := (deployment.scene opened).tokens.save (cls.id, token.id)
            ⟨receiver, [], token.uri⟩ } := by
      simp only [scene, Storage.saveMetadata, became.infos, became.nfts, List.foldl_cons,
        List.foldl_nil, tokensOf_save registered injective]
    rw [last, seen]

/-- What a bridge reads in a packet with one token. -/
def parcelOf (packet : IbcPacket) (data : NonFungibleTokenPacketData) (item : Incoming) :
    Parcel where
  cls := voucherClassId packet.dest data.classId
  source := (tryPopSourcePrefix packet.src data.classId.id).map ClassId.mk
  tokenId := item.1.1
  uri := item.1.2
  data := item.2
  channelId := packet.dest.channelId
  receiver := data.receiver

/-- The choice of the bridge in terms of its scene. -/
theorem selectActions_cases (deployment : Deployment) (world : World Ledger) (packet : IbcPacket)
    {item : Incoming} (single : data.incoming = [item]) :
    (∃ source, data.classId = voucherClassId packet.src source ∧
      (deployment.scene world).returning (parcelOf packet data item) = some source ∧
      selectActions packet data world.storage =
        ({ world.storage with
            outgoingClassTokenToChannel :=
              world.storage.outgoingClassTokenToChannel.remove (source, item.1.1) },
          [.redemption source item.1.1])) ∨
    ((deployment.scene world).returning (parcelOf packet data item) = none ∧
      selectActions packet data world.storage =
        ({ world.storage with
            incomingClassTokenToChannel := world.storage.incomingClassTokenToChannel.save
              (voucherClassId packet.dest data.classId, item.1.1) packet.dest.channelId },
          [.creation (voucherClassId packet.dest data.classId)
            ⟨item.1.1, item.1.2, item.2⟩])) := by
  rw [selectActions_eq, single]
  simp only [selectFrom]
  rcases chooseAction_cases packet.dest data.classId
      (tryPopSourcePrefix packet.src data.classId.id) world.storage item with
    ⟨source, popped, sent, chosen⟩ | ⟨staying, chosen⟩
  · left
    refine ⟨source, tryPopSourcePrefix_eq_some.mp popped, ?_, by rw [chosen]⟩
    simp only [Scene.returning, parcelOf, popped, Option.map_some, Option.filter_some, scene,
      sent, decide_true, if_true]
  · right
    refine ⟨?_, by rw [chosen]⟩
    simp only [Scene.returning, parcelOf, scene, Option.filter_eq_none_iff, Option.map_eq_some_iff]
    rintro _ ⟨source, popped, rfl⟩ sent
    exact staying ⟨source⟩ popped (of_decide_eq_true sent)

/-- A delivery rewrites what the scene says, and is accepted if the scene says so. -/
def AsJudged (deployment : Deployment) (world after : World Ledger) (parcel : Parcel)
    (ack : Binary) : Prop :=
  deployment.scene after = (deployment.scene world).apply deployment.bridge
      ((deployment.scene world).judge deployment.api.addrValid parcel).1 ∧
    (tryGetAckError deployment.api ack).isNone =
      ((deployment.scene world).judge deployment.api.addrValid parcel).2

theorem Held.filed_noted (held : deployment.Held codeId world) (packet : IbcPacket)
    (data : NonFungibleTokenPacketData) : deployment.Filed (noted world packet data) := by
  have folded := sameButTransit_selectFrom packet.dest data.classId
    (tryPopSourcePrefix packet.src data.classId.id) world.storage data.incoming
  rw [← selectActions_eq] at folded
  constructor
  · intro classId contract registered
    exact held.filed.known ((congrFun folded.contracts classId).symm.trans registered)
  · intro left right contract first second
    exact held.filed.injective ((congrFun folded.contracts left).symm.trans first)
      ((congrFun folded.contracts right).symm.trans second)

/-- A delivery that does not get past the checks. -/
theorem asJudged_unchecked {error : ContractError} {item : Incoming}
    (decoded : deployment.api.packetData.fromBinary packet.data = .ok data)
    (valid : data.validate = .ok ())
    (unchecked : checkIbcPacket deployment.api world.storage packet = .error error) :
    deployment.AsJudged world world (parcelOf packet data item)
      (ackFail deployment.api error.toString) := by
  have refused : ((deployment.scene world).paused ||
      !deployment.api.addrValid (parcelOf packet data item).receiver) = true := by
    by_contra accepted
    simp only [Bool.or_eq_true, Bool.not_eq_true', not_or, Bool.not_eq_true,
      Bool.not_eq_false] at accepted
    have checked := checkIbcPacket_eq_ok.mpr ⟨accepted.1, decoded, valid, accepted.2, rfl⟩
    rw [unchecked] at checked
    cases checked
  rw [AsJudged, Scene.judge_refused refused, tryGetAckError_ackFail]
  exact ⟨rfl, rfl⟩

section Checked

variable {item : Incoming} {source : ClassId}

/-- A redemption that goes through. -/
theorem asJudged_redemption (held : deployment.Held codeId world)
    (accepted : ((deployment.scene world).paused ||
      !deployment.api.addrValid (parcelOf packet data item).receiver) = false)
    (returns : data.classId = voucherClassId packet.src source)
    (returning : (deployment.scene world).returning (parcelOf packet data item) = some source)
    (selected : selectActions packet data world.storage =
      ({ world.storage with
          outgoingClassTokenToChannel :=
            world.storage.outgoingClassTokenToChannel.remove (source, item.1.1) },
        [.redemption source item.1.1]))
    (applies : deployment.Applies ⟨data.receiver⟩
      (data.aggregate (selectActions packet data world.storage).2) (noted world packet data)
      after) :
    deployment.AsJudged world after (parcelOf packet data item) (ackSuccess deployment.api) := by
  rcases (applies_iff (uniform_selectActions packet data world.storage)).mp applies with
    ⟨middle, redemption, creation⟩
  rw [selected] at redemption creation
  rcases creation with ⟨-, rfl⟩ | ⟨some, -⟩
  · rcases redemption with ⟨none, -⟩ | ⟨-, redeems⟩
    · cases none
    · rw [localClass_eq returns] at redeems
      rcases (held.filed_noted packet data).scene_redeems redeems with ⟨token, present, seen⟩
      simp only [noted, selected] at present seen
      rw [AsJudged, Scene.judge_returning accepted returning present, seen,
        tryGetAckError_ackSuccess]
      exact ⟨rfl, rfl⟩
  · exact absurd rfl some

/-- A creation that goes through. -/
theorem asJudged_creation (held : deployment.Held codeId world)
    (accepted : ((deployment.scene world).paused ||
      !deployment.api.addrValid (parcelOf packet data item).receiver) = false)
    (staying : (deployment.scene world).returning (parcelOf packet data item) = none)
    (selected : selectActions packet data world.storage =
      ({ world.storage with
          incomingClassTokenToChannel := world.storage.incomingClassTokenToChannel.save
            (voucherClassId packet.dest data.classId, item.1.1) packet.dest.channelId },
        [.creation (voucherClassId packet.dest data.classId) ⟨item.1.1, item.1.2, item.2⟩]))
    (applies : deployment.Applies ⟨data.receiver⟩
      (data.aggregate (selectActions packet data world.storage).2) (noted world packet data)
      after) :
    deployment.AsJudged world after (parcelOf packet data item) (ackSuccess deployment.api) := by
  rcases (applies_iff (uniform_selectActions packet data world.storage)).mp applies with
    ⟨middle, redemption, creation⟩
  rw [selected] at redemption creation
  rcases redemption with ⟨-, rfl⟩ | ⟨some, -⟩
  · rcases creation with ⟨none, -⟩ | ⟨-, creates⟩
    · cases none
    · rcases (held.filed_noted packet data).scene_creates creates with ⟨unused, seen⟩
      simp only [noted, selected] at unused seen
      rw [AsJudged, Scene.judge_creating accepted staying unused, seen,
        tryGetAckError_ackSuccess]
      exact ⟨rfl, rfl⟩
  · exact absurd rfl some

end Checked

/-- What can be seen of a delivery, if the bridge holds what it sent. -/
theorem Orderly.asJudged (orderly : deployment.Orderly codeId world)
    (deep : 3 ≤ deployment.depth)
    (decoded : deployment.api.packetData.fromBinary packet.data = .ok data)
    (valid : data.validate = .ok ()) {item : Incoming} (single : data.incoming = [item])
    (escrowed : ∀ source, data.classId = voucherClassId packet.src source →
      (deployment.scene world).returning (parcelOf packet data item) = some source →
      deployment.holder world source item.1.1 = some .escrow)
    {ack : Binary}
    (received : deployment.receiveTx deployment.contracts world packet = .ok (after, ack)) :
    deployment.AsJudged world after (parcelOf packet data item) ack := by
  rcases receiveTx_cases (.refl _) orderly.foreign received with
    ⟨error, unchecked, same, isFail⟩ | ⟨read, receiver, checked, outcome⟩
  · rw [same, isFail]
    exact asJudged_unchecked decoded valid unchecked
  · rcases checkIbcPacket_eq_ok.mp checked with ⟨running, again, -, known, rfl⟩
    rw [decoded] at again
    cases again
    have accepted : ((deployment.scene world).paused ||
        !deployment.api.addrValid (parcelOf packet data item).receiver) = false := by
      change (world.storage.paused || !deployment.api.addrValid data.receiver) = false
      rw [running, known]
      rfl
    rcases selectActions_cases deployment world packet single with
      ⟨source, returns, returning, selected⟩ | ⟨staying, selected⟩
    · rcases orderly.toHeld.receiveTx_redemption deep checked selected
        (escrowed source returns returning) with ⟨last, accepts, -⟩
      rw [received] at accepts
      cases accepts
      rcases outcome with ⟨text, isFail, -⟩ | ⟨-, applies⟩
      · exact absurd isFail (ackSuccess_ne_ackFail _ _)
      · exact asJudged_redemption orderly.toHeld accepted returns returning selected applies
    · rcases outcome with ⟨text, isFail, same⟩ | ⟨isSuccess, applies⟩
      · cases present : (deployment.scene world).tokens
            ((parcelOf packet data item).cls, (parcelOf packet data item).tokenId) with
        | none =>
            -- A voucher that does not exist would have been created.
            rcases orderly.receiveTx_creation deep checked (congrArg Prod.snd selected)
              (scene_tokens_eq_none.mp present) with ⟨last, _, _, accepts, -⟩
            rw [received, isFail] at accepts
            simp only [Except.ok.injEq, Prod.mk.injEq] at accepts
            exact absurd accepts.2.symm (ackSuccess_ne_ackFail _ _)
        | some token =>
            rw [AsJudged, Scene.judge_existing accepted staying present, isFail, same,
              tryGetAckError_ackFail]
            simp only [noted, selected]
            exact ⟨rfl, rfl⟩
      · rw [isSuccess]
        exact asJudged_creation orderly.toHeld accepted staying selected applies

end Deployment

end Ics721
