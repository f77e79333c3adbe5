import Ics721.Receive.Aggregate

/-!
# Which tokens are redeemed

The decisions of the fold depend on the entries that earlier tokens removed.  Told from the
storage it starts from, a token is redeemed if the bridge sent it out on the channel of the
packet and the packet does not list it before; every other token is created.  So the two
aggregated actions partition the packet.
-/

namespace Ics721

open Library

/-! ## Tokens by their place in the packet -/

theorem getElem?_zipOptional {α β : Type} (left : List α) (right : Option (List β))
    (same : ∀ list ∈ right, list.length = left.length) (index : Nat) :
    (zipOptional left right)[index]? =
      left[index]?.map fun item => (item, right.bind (·[index]?)) := by
  cases right with
  | none => simp [zipOptional]
  | some list =>
      have long := same list rfl
      simp only [zipOptional, List.getElem?_map, List.zip_eq_zipWith, List.getElem?_zipWith,
        Option.bind_some]
      cases first : left[index]? with
      | none => rfl
      | some item =>
          have inside : index < list.length := by
            rw [long]
            exact (List.getElem?_eq_some_iff.mp first).1
          simp [List.getElem?_eq_getElem inside]

/-- The token at a place of a valid packet, with its URI and data. -/
theorem NonFungibleTokenPacketData.getElem?_incoming {data : NonFungibleTokenPacketData}
    (valid : data.validate = .ok ()) (index : Nat) :
    data.incoming[index]? = data.tokenIds[index]?.map fun tokenId =>
      ((tokenId, data.tokenUris.bind (·[index]?)), data.tokenData.bind (·[index]?)) := by
  rcases validate_eq_ok.mp valid with ⟨-, -, -, -, dataLength, uriLength⟩
  have inner := getElem?_zipOptional data.tokenIds data.tokenUris uriLength
  have long : (zipOptional data.tokenIds data.tokenUris).length = data.tokenIds.length := by
    cases uris : data.tokenUris with
    | none => simp [zipOptional]
    | some list =>
        have same := uriLength list uris
        simp [zipOptional, same]
  have outer := getElem?_zipOptional (zipOptional data.tokenIds data.tokenUris) data.tokenData
    (fun list held => (dataLength list held).trans long.symm) index
  rw [incoming, outer, inner, Option.map_map]
  rfl

/-- The actions of a packet, place by place. -/
theorem getElem?_selectActions {packet : IbcPacket} {data : NonFungibleTokenPacketData}
    {storage : Storage} (valid : data.validate = .ok ()) {index : Nat} {action : Action} :
    (selectActions packet data storage).2[index]? = some action →
      ∃ tokenId, data.tokenIds[index]? = some tokenId ∧
        action.isFor ((tokenId, data.tokenUris.bind (·[index]?)),
          data.tokenData.bind (·[index]?)) := by
  intro chosen
  have matching := forall₂_selectFrom packet.dest data.classId
    (tryPopSourcePrefix packet.src data.classId.id) storage data.incoming
  rw [← selectActions_eq, List.forall₂_iff_get] at matching
  rcases List.getElem?_eq_some_iff.mp chosen with ⟨inside, same⟩
  have insideItems : index < data.incoming.length := matching.1 ▸ inside
  have isFor := matching.2 index insideItems inside
  have item := List.getElem?_eq_getElem insideItems
  rw [data.getElem?_incoming valid] at item
  rcases Option.map_eq_some_iff.mp item with ⟨tokenId, present, rest⟩
  refine ⟨tokenId, present, ?_⟩
  rw [rest, ← same]
  exact isFor

theorem exists_action {packet : IbcPacket} {data : NonFungibleTokenPacketData}
    {storage : Storage} (valid : data.validate = .ok ()) {index : Nat} {tokenId : TokenId}
    (present : data.tokenIds[index]? = some tokenId) :
    ∃ action, (selectActions packet data storage).2[index]? = some action := by
  have matching := forall₂_selectFrom packet.dest data.classId
    (tryPopSourcePrefix packet.src data.classId.id) storage data.incoming
  rw [← selectActions_eq] at matching
  have long : data.incoming.length = data.tokenIds.length := by
    rw [← data.map_incoming valid, List.length_map]
  have inside : index < (selectActions packet data storage).2.length := by
    rw [← matching.length_eq, long]
    exact (List.getElem?_eq_some_iff.mp present).1
  exact ⟨_, List.getElem?_eq_getElem inside⟩

/-! ## Places that are redeemed -/

/-- Whether the token at a place of a list is redeemed: it was sent out on the channel it
arrives on, and this is the first time that the list has it. -/
def redeemsAt (dest : IbcEndpoint) (localClassId : Option String) (storage : Storage)
    (tokenIds : List TokenId) (index : Nat) : Bool :=
  match localClassId, tokenIds[index]? with
  | some localClassId, some tokenId =>
      decide (storage.outgoingClassTokenToChannel (⟨localClassId⟩, tokenId) =
        some dest.channelId) && decide (tokenId ∉ tokenIds.take index)
  | _, _ => false

section Places

variable {dest : IbcEndpoint} {classId : ClassId} {localClassId : Option String}
variable {storage : Storage}

theorem redeemsAt_iff {tokenIds : List TokenId} {index : Nat} :
    redeemsAt dest localClassId storage tokenIds index = true ↔
      ∃ (localClass : ClassId) (tokenId : TokenId), localClassId = some localClass.id ∧
        tokenIds[index]? = some tokenId ∧
        storage.outgoingClassTokenToChannel (localClass, tokenId) = some dest.channelId ∧
        tokenId ∉ tokenIds.take index := by
  unfold redeemsAt
  split
  next popped tokenId place =>
    simp only [Bool.and_eq_true, decide_eq_true_eq, place, Option.some.injEq]
    constructor
    · intro redeemed
      exact ⟨⟨popped⟩, tokenId, rfl, rfl, redeemed⟩
    · intro redeemed
      rcases redeemed with ⟨localClass, _, rfl, rfl, sent, first⟩
      exact ⟨sent, first⟩
  next none_ =>
    simp only [Bool.false_eq_true, false_iff]
    intro redeemed
    rcases redeemed with ⟨localClass, tokenId, popped, place, -⟩
    exact none_ localClass.id tokenId popped place

/-- The first token of a list is redeemed if it is on its way back. -/
theorem redeemsAt_zero {tokenId : TokenId} {tokenIds : List TokenId} :
    redeemsAt dest localClassId storage (tokenId :: tokenIds) 0 = true ↔
      ∃ localClass : ClassId, localClassId = some localClass.id ∧
        storage.outgoingClassTokenToChannel (localClass, tokenId) = some dest.channelId := by
  simp [redeemsAt_iff]

/-- Choosing an action for one token decides nothing about the later ones that their place
in the packet does not. -/
theorem redeemsAt_succ {item : Incoming} {tokenIds : List TokenId} {index : Nat} :
    redeemsAt dest localClassId storage (item.1.1 :: tokenIds) (index + 1) =
      redeemsAt dest localClassId (chooseAction dest classId localClassId storage item).1
        tokenIds index := by
  rw [Bool.eq_iff_iff, redeemsAt_iff, redeemsAt_iff]
  simp only [List.getElem?_cons_succ, List.take_succ_cons, List.mem_cons, not_or]
  rcases chooseAction_cases dest classId localClassId storage item with
    ⟨chosen, popped, sent, action⟩ | ⟨staying, action⟩
  · rw [action]
    constructor
    · intro redeemed
      rcases redeemed with ⟨localClass, tokenId, same, place, out, different, first⟩
      refine ⟨localClass, tokenId, same, place, ?_, first⟩
      have other : (localClass, tokenId) ≠ (chosen, item.1.1) := by
        intro equal
        exact different (congrArg Prod.snd equal)
      exact (StoreMap.remove_of_ne other).trans out
    · intro redeemed
      rcases redeemed with ⟨localClass, tokenId, same, place, out, first⟩
      refine ⟨localClass, tokenId, same, place, StoreMap.of_remove out, ?_, first⟩
      intro equal
      have equalClass : localClass = chosen := by
        rw [same, Option.some.injEq] at popped
        cases localClass
        cases chosen
        exact congrArg ClassId.mk popped
      rw [equal, equalClass] at out
      simp at out
  · rw [action]
    constructor
    · intro redeemed
      rcases redeemed with ⟨localClass, tokenId, same, place, out, -, first⟩
      exact ⟨localClass, tokenId, same, place, out, first⟩
    · intro redeemed
      rcases redeemed with ⟨localClass, tokenId, same, place, out, first⟩
      refine ⟨localClass, tokenId, same, place, out, ?_, first⟩
      intro equal
      rw [equal] at out
      exact staying localClass same out

/-- The action for an item, once it is known whether it is redeemed. -/
def actionFor (dest : IbcEndpoint) (classId : ClassId) (localClassId : Option String)
    (redeemed : Bool) (item : Incoming) : Action :=
  if redeemed then .redemption ⟨localClassId.getD ""⟩ item.1.1
  else .creation (voucherClassId dest classId) ⟨item.1.1, item.1.2, item.2⟩

theorem chooseAction_snd (item : Incoming) (tokenIds : List TokenId) :
    (chooseAction dest classId localClassId storage item).2 =
      actionFor dest classId localClassId
        (redeemsAt dest localClassId storage (item.1.1 :: tokenIds) 0) item := by
  rcases chooseAction_cases dest classId localClassId storage item with
    ⟨chosen, popped, sent, action⟩ | ⟨staying, action⟩
  · rw [redeemsAt_zero.mpr ⟨chosen, popped, sent⟩, action, popped]
    rfl
  · have kept : redeemsAt dest localClassId storage (item.1.1 :: tokenIds) 0 = false := by
      rw [Bool.eq_false_iff, Ne, redeemsAt_zero]
      intro redeemed
      rcases redeemed with ⟨localClass, popped, sent⟩
      exact staying localClass popped sent
    rw [kept, action]
    rfl

/-- The actions of the fold, place by place, from the storage it starts with. -/
theorem getElem?_selectFrom (items : List Incoming) (index : Nat) :
    (selectFrom dest classId localClassId storage items).2[index]? =
      items[index]?.map (actionFor dest classId localClassId
        (redeemsAt dest localClassId storage (items.map (·.1.1)) index)) := by
  induction items generalizing storage index with
  | nil => simp [selectFrom]
  | cons item items ih =>
      cases index with
      | zero =>
          simp only [selectFrom, List.getElem?_cons_zero, List.map_cons, Option.map_some]
          rw [chooseAction_snd item (items.map (·.1.1))]
      | succ index =>
          simp only [selectFrom, List.getElem?_cons_succ, List.map_cons]
          rw [ih, redeemsAt_succ]

/-! ## What the fold writes -/

/-- The fold removes the outgoing entries of what it redeems. -/
theorem outgoing_selectFrom_of_not_redeemed {items : List Incoming} {key : ClassId × TokenId}
    (other : Action.redemption key.1 key.2 ∉
      (selectFrom dest classId localClassId storage items).2) :
    (selectFrom dest classId localClassId storage items).1.outgoingClassTokenToChannel key =
      storage.outgoingClassTokenToChannel key := by
  rcases outgoing_selectFrom dest classId localClassId storage items key with same | gone
  · exact same
  · exact absurd gone.1 other

/-- The fold notes the channel of the packet for what it creates. -/
theorem incoming_selectFrom_created {items : List Incoming} {token : Token}
    (created : token ∈ createdTokens (selectFrom dest classId localClassId storage items).2) :
    (selectFrom dest classId localClassId storage items).1.incomingClassTokenToChannel
      (voucherClassId dest classId, token.id) = some dest.channelId := by
  induction items generalizing storage with
  | nil => simp [selectFrom, createdTokens] at created
  | cons item items ih =>
      simp only [selectFrom, createdTokens] at created ⊢
      rcases chooseAction_cases dest classId localClassId storage item with
        ⟨chosen, popped, sent, action⟩ | ⟨staying, action⟩
      · simp only [action, List.filterMap_cons, Action.created] at created ⊢
        exact ih created
      · simp only [action, List.filterMap_cons, Action.created, List.mem_cons] at created ⊢
        rcases created with first | later
        · rw [first]
          rcases incoming_selectFrom dest classId localClassId { storage with
              incomingClassTokenToChannel := storage.incomingClassTokenToChannel.save
                (voucherClassId dest classId, item.1.1) dest.channelId } items
              (voucherClassId dest classId, item.1.1) with kept | changed
          · rw [kept]
            exact StoreMap.save_self _ _ _
          · exact changed.2
        · exact ih later

/-- The fold leaves the incoming entries of everything else alone. -/
theorem incoming_selectFrom_of_not_created {items : List Incoming} {key : ClassId × TokenId}
    (other : ¬(key.1 = voucherClassId dest classId ∧ key.2 ∈
      (createdTokens (selectFrom dest classId localClassId storage items).2).map (·.id))) :
    (selectFrom dest classId localClassId storage items).1.incomingClassTokenToChannel key =
      storage.incomingClassTokenToChannel key := by
  induction items generalizing storage with
  | nil => rfl
  | cons item items ih =>
      simp only [selectFrom, createdTokens] at other ⊢
      rcases chooseAction_cases dest classId localClassId storage item with
        ⟨chosen, popped, sent, action⟩ | ⟨staying, action⟩
      · simp only [action, List.filterMap_cons, Action.created] at other ⊢
        exact ih other
      · simp only [action, List.filterMap_cons, Action.created, List.map_cons,
          List.mem_cons] at other ⊢
        rw [ih fun later => other ⟨later.1, .inr later.2⟩]
        apply StoreMap.save_of_ne
        intro equal
        rw [equal] at other
        exact other ⟨rfl, .inl rfl⟩

end Places

/-! ## The partition -/

namespace NonFungibleTokenPacketData

variable (packet : IbcPacket) (data : NonFungibleTokenPacketData) (storage : Storage)

/-- Whether the token at a place of the packet is redeemed. -/
def redeems (index : Nat) : Bool :=
  redeemsAt packet.dest (tryPopSourcePrefix packet.src data.classId.id) storage data.tokenIds
    index

/-- The token at a place of the packet. -/
def tokenAt (tokenId : TokenId) (index : Nat) : Token :=
  ⟨tokenId, data.tokenUris.bind (·[index]?), data.tokenData.bind (·[index]?)⟩

/-- The tokens of the packet that are redeemed, in order. -/
def redeemed : List TokenId :=
  data.tokenIds.zipIdx.filterMap fun place =>
    if data.redeems packet storage place.2 then some place.1 else none

/-- All other tokens of the packet, in order. -/
def created : List Token :=
  data.tokenIds.zipIdx.filterMap fun place =>
    if data.redeems packet storage place.2 then none else some (data.tokenAt place.1 place.2)

/-- The action for a place of the packet. -/
def actionAt (tokenId : TokenId) (index : Nat) : Action :=
  if data.redeems packet storage index then .redemption (localClass packet data) tokenId
  else .creation (voucherClassId packet.dest data.classId) (data.tokenAt tokenId index)

variable {packet data storage}

/-- Every place of the packet has its action. -/
theorem selectActions_eq_actionAt (valid : data.validate = .ok ()) :
    (selectActions packet data storage).2 =
      data.tokenIds.zipIdx.map fun place => data.actionAt packet storage place.1 place.2 := by
  apply List.ext_getElem?
  intro index
  rw [selectActions_eq, getElem?_selectFrom, data.map_incoming valid,
    data.getElem?_incoming valid, List.getElem?_map, List.getElem?_zipIdx]
  simp only [Option.map_map, Nat.zero_add]
  rfl

theorem redeemedIds_selectActions (valid : data.validate = .ok ()) :
    redeemedIds (selectActions packet data storage).2 = data.redeemed packet storage := by
  rw [selectActions_eq_actionAt valid, redeemedIds, List.filterMap_map, redeemed]
  congr 1
  funext place
  simp only [Function.comp_apply, actionAt]
  split
  next => rfl
  next => rfl

theorem createdTokens_selectActions (valid : data.validate = .ok ()) :
    createdTokens (selectActions packet data storage).2 = data.created packet storage := by
  rw [selectActions_eq_actionAt valid, createdTokens, List.filterMap_map, created]
  congr 1
  funext place
  simp only [Function.comp_apply, actionAt]
  split
  next => rfl
  next => rfl

/-- Whatever is redeemed or created is a token of the packet. -/
theorem mem_of_redeemed (valid : data.validate = .ok ()) {tokenId : TokenId}
    (redeemed : tokenId ∈ redeemedIds (selectActions packet data storage).2) :
    tokenId ∈ data.tokenIds := by
  rw [redeemedIds_selectActions valid] at redeemed
  rcases List.mem_filterMap.mp redeemed with ⟨place, listed, chosen⟩
  have named := List.fst_mem_of_mem_zipIdx listed
  split at chosen
  next =>
    cases chosen
    exact named
  next => cases chosen

theorem mem_of_created (valid : data.validate = .ok ()) {tokenId : TokenId}
    (created : tokenId ∈ (createdTokens (selectActions packet data storage).2).map (·.id)) :
    tokenId ∈ data.tokenIds := by
  rw [createdTokens_selectActions valid] at created
  rcases List.mem_map.mp created with ⟨token, member, rfl⟩
  rcases List.mem_filterMap.mp member with ⟨place, listed, chosen⟩
  have named := List.fst_mem_of_mem_zipIdx listed
  split at chosen
  next => cases chosen
  next =>
    cases chosen
    exact named

end NonFungibleTokenPacketData

/-- Every action redeems or creates. -/
theorem length_redeemedIds_add (actions : List Action) :
    (redeemedIds actions).length + (createdTokens actions).length = actions.length := by
  induction actions with
  | nil => rfl
  | cons action actions ih =>
      simp only [redeemedIds, createdTokens] at ih
      cases action with
      | redemption classId tokenId =>
          simp only [redeemedIds, createdTokens, List.filterMap_cons, Action.redeemed,
            Action.created, List.length_cons]
          omega
      | creation classId token =>
          simp only [redeemedIds, createdTokens, List.filterMap_cons, Action.redeemed,
            Action.created, List.length_cons]
          omega

/-- What the fold over the tokens of a packet leaves behind. -/
theorem selectActions_fst {packet : IbcPacket} {data : NonFungibleTokenPacketData}
    {storage : Storage} (valid : data.validate = .ok ()) :
    (selectActions packet data storage).1 =
      { storage with
        outgoingClassTokenToChannel := fun key =>
          if key.1 = localClass packet data ∧ key.2 ∈ data.redeemed packet storage then none
          else storage.outgoingClassTokenToChannel key
        incomingClassTokenToChannel := fun key =>
          if key.1 = voucherClassId packet.dest data.classId ∧
              key.2 ∈ (data.created packet storage).map (·.id) then
            some packet.dest.channelId
          else storage.incomingClassTokenToChannel key } := by
  have uniform := uniform_selectActions packet data storage
  have kept := sameButTransit_selectFrom packet.dest data.classId
    (tryPopSourcePrefix packet.src data.classId.id) storage data.incoming
  rw [← selectActions_eq] at kept
  have outgoing : (selectActions packet data storage).1.outgoingClassTokenToChannel = fun key =>
      if key.1 = localClass packet data ∧ key.2 ∈ data.redeemed packet storage then none
      else storage.outgoingClassTokenToChannel key := by
    funext key
    have same : Action.redemption key.1 key.2 ∈ (selectActions packet data storage).2 ↔
        key.1 = localClass packet data ∧ key.2 ∈ data.redeemed packet storage := by
      rw [← NonFungibleTokenPacketData.redeemedIds_selectActions valid, mem_redeemedIds uniform]
      constructor
      · intro redeemed
        have equal := uniform.1 _ _ redeemed
        rw [equal] at redeemed
        exact ⟨equal, redeemed⟩
      · intro redeemed
        rw [redeemed.1]
        exact redeemed.2
    split
    next redeemed =>
      have member := same.mpr redeemed
      rw [selectActions_eq] at member ⊢
      exact (redemption_selectFrom member).2.2
    next staying =>
      have absent := mt same.mp staying
      rw [selectActions_eq] at absent ⊢
      exact outgoing_selectFrom_of_not_redeemed absent
  have incoming : (selectActions packet data storage).1.incomingClassTokenToChannel = fun key =>
      if key.1 = voucherClassId packet.dest data.classId ∧
          key.2 ∈ (data.created packet storage).map (·.id) then
        some packet.dest.channelId
      else storage.incomingClassTokenToChannel key := by
    funext key
    rw [← NonFungibleTokenPacketData.createdTokens_selectActions valid, selectActions_eq]
    split
    next written =>
      rcases key with ⟨classId, tokenId⟩
      rcases written with ⟨rfl, member⟩
      rcases List.mem_map.mp member with ⟨token, created, rfl⟩
      exact incoming_selectFrom_created created
    next unwritten => exact incoming_selectFrom_of_not_created unwritten
  rcases storage with ⟨⟩
  rcases after : (selectActions packet data _).1 with ⟨⟩
  rw [after] at kept outgoing incoming
  rcases kept with ⟨rfl, rfl, rfl, rfl, rfl, rfl, rfl, rfl⟩
  simp only at outgoing incoming
  rw [outgoing, incoming]

/-! ## The reference -/

/-- The pseudocode in the comments of `add_action`, which also has to check that the token was
sent out on the channel it arrives on. -/
def referenceActions (packet : IbcPacket) (data : NonFungibleTokenPacketData)
    (initial : Storage) : Storage × List Action := Id.run do
  let mut storage := initial
  let mut actions := []
  for ((tokenId, tokenUri), tokenData) in data.incoming do
    if let some localClassId := tryPopSourcePrefix packet.src data.classId.id then
      let key := (ClassId.mk localClassId, tokenId)
      if storage.outgoingClassTokenToChannel key = some packet.dest.channelId then
        storage := { storage with
          outgoingClassTokenToChannel := storage.outgoingClassTokenToChannel.remove key }
        actions := actions ++ [Action.redemption ⟨localClassId⟩ tokenId]
        continue
    let prefixed := voucherClassId packet.dest data.classId
    storage := { storage with
      incomingClassTokenToChannel :=
        storage.incomingClassTokenToChannel.save (prefixed, tokenId) packet.dest.channelId }
    actions := actions ++ [Action.creation prefixed ⟨tokenId, tokenUri, tokenData⟩]
  return (storage, actions)

/-- The fold is the loop of the pseudocode. -/
theorem selectActions_eq_reference (packet : IbcPacket) (data : NonFungibleTokenPacketData)
    (storage : Storage) :
    selectActions packet data storage = referenceActions packet data storage := by
  simp only [selectActions, referenceActions]
  generalize (storage, ([] : List Action)) = state
  generalize data.incoming = items
  induction items generalizing state with
  | nil => rfl
  | cons item items ih =>
      rw [List.foldl_cons, ih, List.forIn_cons]
      clear ih
      rcases item with ⟨⟨tokenId, tokenUri⟩, tokenData⟩
      cases popped : tryPopSourcePrefix packet.src data.classId.id with
      | none =>
          simp only [chooseAction, returningToSource, selectAction]
          rfl
      | some localClassId =>
          by_cases returning : state.1.outgoingClassTokenToChannel
              (ClassId.mk localClassId, tokenId) = some packet.dest.channelId
          · simp only [chooseAction, returningToSource, returning, selectAction, if_true]
            rfl
          · simp only [chooseAction, returningToSource, returning, selectAction, if_false]
            rfl

/-- Whether a place is redeemed, in the words of the reference. -/
theorem NonFungibleTokenPacketData.redeems_iff {packet : IbcPacket}
    {data : NonFungibleTokenPacketData} {storage : Storage} {index : Nat} {tokenId : TokenId}
    (place : data.tokenIds[index]? = some tokenId) :
    data.redeems packet storage index = true ↔
      ∃ localClass : ClassId,
        data.classId.id = getEndpointPrefix packet.src ++ localClass.id ∧
        storage.outgoingClassTokenToChannel (localClass, tokenId) =
          some packet.dest.channelId ∧
        ∀ earlier, earlier < index → data.tokenIds[earlier]? ≠ some tokenId := by
  have listed : tokenId ∈ data.tokenIds.take index ↔
      ∃ earlier, earlier < index ∧ data.tokenIds[earlier]? = some tokenId := by
    rw [List.mem_iff_getElem?]
    simp only [List.getElem?_take, Option.ite_none_right_eq_some]
  have popped : ∀ localClass : ClassId,
      tryPopSourcePrefix packet.src data.classId.id = some localClass.id ↔
        data.classId.id = getEndpointPrefix packet.src ++ localClass.id :=
    fun localClass => stripPrefix_eq_some
  rw [redeems, redeemsAt_iff]
  simp only [place, Option.some.injEq, popped]
  constructor
  · intro redeemed
    rcases redeemed with ⟨localClass, _, same, rfl, sent, first⟩
    refine ⟨localClass, same, sent, ?_⟩
    intro earlier before present
    exact first (listed.mpr ⟨earlier, before, present⟩)
  · intro redeemed
    rcases redeemed with ⟨localClass, same, sent, first⟩
    refine ⟨localClass, tokenId, same, rfl, sent, ?_⟩
    intro present
    rcases listed.mp present with ⟨earlier, before, found⟩
    exact first earlier before found

/-- The actions of a packet partition its tokens. -/
theorem selection_partitions {packet : IbcPacket} {data : NonFungibleTokenPacketData}
    {storage : Storage} (valid : data.validate = .ok ()) :
    selectActions packet data storage = referenceActions packet data storage ∧
    (selectActions packet data storage).2.length = data.tokenIds.length ∧
    (∀ index tokenId, data.tokenIds[index]? = some tokenId →
      (data.redeems packet storage index = true ↔
        ∃ localClass : ClassId,
          data.classId.id = getEndpointPrefix packet.src ++ localClass.id ∧
          storage.outgoingClassTokenToChannel (localClass, tokenId) =
            some packet.dest.channelId ∧
          ∀ earlier, earlier < index → data.tokenIds[earlier]? ≠ some tokenId) ∧
      (selectActions packet data storage).2[index]? =
        some (data.actionAt packet storage tokenId index)) ∧
    (data.aggregate (selectActions packet data storage).2).redemption =
      (if data.redeemed packet storage = [] then none
        else some ⟨⟨localClass packet data, data.classUri, data.classData⟩,
          data.redeemed packet storage⟩) ∧
    (data.aggregate (selectActions packet data storage).2).creation =
      (if data.created packet storage = [] then none
        else some ⟨⟨voucherClassId packet.dest data.classId, data.classUri, data.classData⟩,
          data.created packet storage⟩) ∧
    (data.redeemed packet storage).length + (data.created packet storage).length =
      data.tokenIds.length ∧
    ((data.aggregate (selectActions packet data storage).2).redemption ≠ none ∨
      (data.aggregate (selectActions packet data storage).2).creation ≠ none) ∧
    (selectActions packet data storage).1 =
      { storage with
        outgoingClassTokenToChannel := fun key =>
          if key.1 = localClass packet data ∧ key.2 ∈ data.redeemed packet storage then none
          else storage.outgoingClassTokenToChannel key
        incomingClassTokenToChannel := fun key =>
          if key.1 = voucherClassId packet.dest data.classId ∧
              key.2 ∈ (data.created packet storage).map (·.id) then
            some packet.dest.channelId
          else storage.incomingClassTokenToChannel key } := by
  have uniform := uniform_selectActions packet data storage
  have actions : (selectActions packet data storage).2 = data.tokenIds.zipIdx.map
      fun place => data.actionAt packet storage place.1 place.2 :=
    NonFungibleTokenPacketData.selectActions_eq_actionAt valid
  have redeemed : redeemedIds (selectActions packet data storage).2 =
      data.redeemed packet storage :=
    NonFungibleTokenPacketData.redeemedIds_selectActions valid
  have created : createdTokens (selectActions packet data storage).2 =
      data.created packet storage :=
    NonFungibleTokenPacketData.createdTokens_selectActions valid
  have long : (selectActions packet data storage).2.length = data.tokenIds.length := by
    simp [actions]
  have total := length_redeemedIds_add (selectActions packet data storage).2
  have redemption := data.aggregate_redemption uniform
  have creation := data.aggregate_creation uniform
  rw [redeemed] at redemption
  rw [created] at creation
  rw [redeemed, created, long] at total
  refine ⟨selectActions_eq_reference packet data storage, long, ?_, redemption, creation, total,
    ?_, selectActions_fst valid⟩
  · intro index tokenId place
    refine ⟨NonFungibleTokenPacketData.redeems_iff place, ?_⟩
    simp [actions, List.getElem?_zipIdx, place]
  · have tokens : 0 < data.tokenIds.length :=
      List.length_pos_iff.mpr (NonFungibleTokenPacketData.validate_eq_ok.mp valid).2.2.2.1
    rw [redemption, creation]
    by_cases none_ : data.redeemed packet storage = []
    · right
      have some_ : data.created packet storage ≠ [] := by
        intro empty
        simp [none_, empty] at total
        omega
      simp [some_]
    · left
      simp [none_]

/-- The first of two copies of a token is redeemed, the second one is created. -/
theorem selection_partitions_of_copies :
    ∃ (packet : IbcPacket) (data : NonFungibleTokenPacketData) (storage : Storage),
      data.validate = .ok () ∧
      (data.aggregate (selectActions packet data storage).2).redemption =
        some ⟨⟨⟨"nft"⟩, none, none⟩, [⟨"1"⟩]⟩ ∧
      (data.aggregate (selectActions packet data storage).2).creation =
        some ⟨⟨⟨"wasm.here/channel-0/wasm.there/channel-7/nft"⟩, none, none⟩,
          [⟨⟨"2"⟩, some "b", none⟩, ⟨⟨"1"⟩, some "c", none⟩]⟩ := by
  refine ⟨⟨[], ⟨"wasm.there", "channel-7"⟩, ⟨"wasm.here", "channel-0"⟩, 0, ⟨none, none⟩⟩,
    ⟨⟨"wasm.there/channel-7/nft"⟩, none, none, [⟨"1"⟩, ⟨"2"⟩, ⟨"1"⟩],
      some ["a", "b", "c"], none, "", "", none⟩,
    ⟨0, none, none, false, .empty, .empty, .empty,
      StoreMap.empty.save (⟨"nft"⟩, ⟨"1"⟩) "channel-0", .empty, .empty⟩, by decide, ?_, ?_⟩
  · rw [(selection_partitions (by decide)).2.2.2.1]
    decide
  · rw [(selection_partitions (by decide)).2.2.2.2.1]
    decide

end Ics721
