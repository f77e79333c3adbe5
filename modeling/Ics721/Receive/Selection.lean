import Ics721.Model.Receive

/-!
# What the fold over incoming tokens does

The fold threads the storage through the tokens of a packet.  This module says what
it does to the two maps it writes and which actions it selects, in terms of the
storage it starts from.
-/

namespace Ics721

open Library

section Selection

variable {dest : IbcEndpoint} {classId : ClassId} {localClassId : Option String}
variable {storage : Storage}

/-- The fold without its accumulator. -/
def selectFrom (dest : IbcEndpoint) (classId : ClassId) (localClassId : Option String) :
    Storage → List Incoming → Storage × List Action
  | storage, [] => (storage, [])
  | storage, incoming :: rest =>
      let chosen := chooseAction dest classId localClassId storage incoming
      let selected := selectFrom dest classId localClassId chosen.1 rest
      (selected.1, chosen.2 :: selected.2)

theorem foldl_selectAction (items : List Incoming) (messages : List Action) :
    items.foldl (selectAction dest classId localClassId) (storage, messages) =
      ((selectFrom dest classId localClassId storage items).1,
        messages ++ (selectFrom dest classId localClassId storage items).2) := by
  induction items generalizing storage messages with
  | nil => simp [selectFrom]
  | cons item items ih =>
      rw [List.foldl_cons]
      simp only [selectAction, selectFrom]
      rw [ih]
      simp

theorem selectActions_eq (packet : IbcPacket) (data : NonFungibleTokenPacketData) :
    selectActions packet data storage =
      selectFrom packet.dest data.classId (tryPopSourcePrefix packet.src data.classId.id)
        storage data.incoming := by
  simp [selectActions, foldl_selectAction]

theorem returningToSource_eq_some {tokenId : TokenId} {localClass : ClassId} :
    returningToSource dest localClassId storage tokenId = some localClass ↔
      localClassId = some localClass.id ∧
        storage.outgoingClassTokenToChannel (localClass, tokenId) = some dest.channelId := by
  cases localClassId with
  | none => simp [returningToSource]
  | some local_ =>
      cases localClass with
      | mk id =>
          simp only [returningToSource, Option.some.injEq]
          split
          next returning =>
            simp only [Option.some.injEq, ClassId.mk.injEq]
            constructor
            · rintro rfl
              exact ⟨rfl, returning⟩
            · exact And.left
          next staying =>
            simp only [reduceCtorEq, false_iff, not_and]
            rintro rfl
            exact staying

/-- The two things that can happen to an incoming token. -/
theorem chooseAction_cases (dest : IbcEndpoint) (classId : ClassId)
    (localClassId : Option String) (storage : Storage) (incoming : Incoming) :
    (∃ localClass : ClassId, localClassId = some localClass.id ∧
      storage.outgoingClassTokenToChannel (localClass, incoming.1.1) = some dest.channelId ∧
      chooseAction dest classId localClassId storage incoming =
        ({ storage with
            outgoingClassTokenToChannel :=
              storage.outgoingClassTokenToChannel.remove (localClass, incoming.1.1) },
          .redemption localClass incoming.1.1)) ∨
    ((∀ localClass : ClassId, localClassId = some localClass.id →
        storage.outgoingClassTokenToChannel (localClass, incoming.1.1) ≠
          some dest.channelId) ∧
      chooseAction dest classId localClassId storage incoming =
        ({ storage with
            incomingClassTokenToChannel :=
              storage.incomingClassTokenToChannel.save
                (voucherClassId dest classId, incoming.1.1) dest.channelId },
          .creation (voucherClassId dest classId)
            ⟨incoming.1.1, incoming.1.2, incoming.2⟩)) := by
  cases returning : returningToSource dest localClassId storage incoming.1.1 with
  | some localClass =>
      obtain ⟨popped, sent⟩ := returningToSource_eq_some.mp returning
      exact .inl ⟨localClass, popped, sent, by simp [chooseAction, returning]⟩
  | none =>
      refine .inr ⟨?_, by simp [chooseAction, returning]⟩
      intro localClass popped sent
      have returned := returningToSource_eq_some.mpr ⟨popped, sent⟩
      simp [returning] at returned

/-- What the fold leaves alone: everything but the outgoing and the incoming map. -/
structure SameButTransit (before after : Storage) : Prop where
  code : after.cw721CodeId = before.cw721CodeId
  proxy : after.proxy = before.proxy
  pauser : after.pauser = before.pauser
  paused : after.paused = before.paused
  contracts : after.classIdToNftContract = before.classIdToNftContract
  classes : after.nftContractToClassId = before.nftContractToClassId
  records : after.classIdToClass = before.classIdToClass
  metadata : after.tokenMetadata = before.tokenMetadata

theorem sameButTransit_selectFrom (dest : IbcEndpoint) (classId : ClassId)
    (localClassId : Option String) (storage : Storage) (items : List Incoming) :
    SameButTransit storage (selectFrom dest classId localClassId storage items).1 := by
  induction items generalizing storage with
  | nil => exact ⟨rfl, rfl, rfl, rfl, rfl, rfl, rfl, rfl⟩
  | cons item items ih =>
      simp only [selectFrom]
      have rest := ih (chooseAction dest classId localClassId storage item).1
      have first : SameButTransit storage
          (chooseAction dest classId localClassId storage item).1 := by
        rcases chooseAction_cases dest classId localClassId storage item with
          ⟨localClass, -, -, chosen⟩ | ⟨-, chosen⟩
        · rw [chosen]
          exact ⟨rfl, rfl, rfl, rfl, rfl, rfl, rfl, rfl⟩
        · rw [chosen]
          exact ⟨rfl, rfl, rfl, rfl, rfl, rfl, rfl, rfl⟩
      exact ⟨rest.code.trans first.code, rest.proxy.trans first.proxy,
        rest.pauser.trans first.pauser, rest.paused.trans first.paused,
        rest.contracts.trans first.contracts, rest.classes.trans first.classes,
        rest.records.trans first.records, rest.metadata.trans first.metadata⟩

/-! ## The outgoing map -/

/-- The fold only removes outgoing entries. -/
theorem of_outgoing_selectFrom {items : List Incoming} {key : ClassId × TokenId}
    {channelId : String}
    (present : (selectFrom dest classId localClassId storage items).1.outgoingClassTokenToChannel
      key = some channelId) :
    storage.outgoingClassTokenToChannel key = some channelId := by
  induction items generalizing storage with
  | nil => exact present
  | cons item items ih =>
      have after := ih present
      rcases chooseAction_cases dest classId localClassId storage item with
        ⟨localClass, -, -, chosen⟩ | ⟨-, chosen⟩
      · rw [chosen] at after
        exact StoreMap.of_remove after
      · rw [chosen] at after
        exact after

/-- An outgoing entry disappears exactly with a redemption, and then it was for the
channel of the packet. -/
theorem outgoing_selectFrom (dest : IbcEndpoint) (classId : ClassId)
    (localClassId : Option String) (storage : Storage) (items : List Incoming)
    (key : ClassId × TokenId) :
    (selectFrom dest classId localClassId storage items).1.outgoingClassTokenToChannel key =
        storage.outgoingClassTokenToChannel key ∨
      (Action.redemption key.1 key.2 ∈
          (selectFrom dest classId localClassId storage items).2 ∧
        localClassId = some key.1.id ∧
        storage.outgoingClassTokenToChannel key = some dest.channelId ∧
        (selectFrom dest classId localClassId storage items).1.outgoingClassTokenToChannel key =
          none) := by
  induction items generalizing storage with
  | nil => exact .inl rfl
  | cons item items ih =>
      simp only [selectFrom, List.mem_cons]
      rcases chooseAction_cases dest classId localClassId storage item with
        ⟨localClass, popped, sent, chosen⟩ | ⟨-, chosen⟩
      · rw [chosen]
        rcases ih { storage with
            outgoingClassTokenToChannel :=
              storage.outgoingClassTokenToChannel.remove (localClass, item.1.1) } with
          same | ⟨later, poppedLater, sentLater, gone⟩
        · by_cases this : key = (localClass, item.1.1)
          · subst key
            refine .inr ⟨.inl rfl, popped, sent, ?_⟩
            rw [same]
            exact StoreMap.remove_self _ _
          · left
            rw [same]
            exact StoreMap.remove_of_ne this
        · exact .inr ⟨.inr later, poppedLater, StoreMap.of_remove sentLater, gone⟩
      · rw [chosen]
        rcases ih { storage with
            incomingClassTokenToChannel :=
              storage.incomingClassTokenToChannel.save
                (voucherClassId dest classId, item.1.1) dest.channelId } with
          same | ⟨later, poppedLater, sentLater, gone⟩
        · exact .inl same
        · exact .inr ⟨.inr later, poppedLater, sentLater, gone⟩

/-- Every redemption was sent out on the channel of the packet, and its outgoing entry
is gone after the fold. -/
theorem redemption_selectFrom {items : List Incoming} {localClass : ClassId}
    {tokenId : TokenId}
    (redeemed : Action.redemption localClass tokenId ∈
      (selectFrom dest classId localClassId storage items).2) :
    localClassId = some localClass.id ∧
      storage.outgoingClassTokenToChannel (localClass, tokenId) = some dest.channelId ∧
      (selectFrom dest classId localClassId storage items).1.outgoingClassTokenToChannel
        (localClass, tokenId) = none := by
  induction items generalizing storage with
  | nil => simp [selectFrom] at redeemed
  | cons item items ih =>
      simp only [selectFrom, List.mem_cons] at redeemed ⊢
      rcases chooseAction_cases dest classId localClassId storage item with
        ⟨other, popped, sent, chosen⟩ | ⟨-, chosen⟩
      · rw [chosen] at redeemed ⊢
        rcases redeemed with first | later
        · cases first
          refine ⟨popped, sent, ?_⟩
          rcases outgoing_selectFrom dest classId localClassId { storage with
              outgoingClassTokenToChannel :=
                storage.outgoingClassTokenToChannel.remove (localClass, item.1.1) }
            items (localClass, item.1.1) with same | removed
          · rw [same]
            exact StoreMap.remove_self _ _
          · exact removed.2.2.2
        · obtain ⟨poppedLater, sentLater, gone⟩ := ih later
          exact ⟨poppedLater, StoreMap.of_remove sentLater, gone⟩
      · rw [chosen] at redeemed ⊢
        rcases redeemed with first | later
        · cases first
        · exact ih later

/-! ## The incoming map -/

/-- Incoming entries change only at vouchers that are created, to the channel of the
packet. -/
theorem incoming_selectFrom (dest : IbcEndpoint) (classId : ClassId)
    (localClassId : Option String) (storage : Storage) (items : List Incoming)
    (key : ClassId × TokenId) :
    (selectFrom dest classId localClassId storage items).1.incomingClassTokenToChannel key =
        storage.incomingClassTokenToChannel key ∨
      (key.1 = voucherClassId dest classId ∧
        (selectFrom dest classId localClassId storage items).1.incomingClassTokenToChannel key =
          some dest.channelId) := by
  induction items generalizing storage with
  | nil => exact .inl rfl
  | cons item items ih =>
      simp only [selectFrom]
      rcases chooseAction_cases dest classId localClassId storage item with
        ⟨localClass, -, -, chosen⟩ | ⟨-, chosen⟩
      · rw [chosen]
        exact ih _
      · rw [chosen]
        rcases ih { storage with
            incomingClassTokenToChannel :=
              storage.incomingClassTokenToChannel.save
                (voucherClassId dest classId, item.1.1) dest.channelId } with
          same | changed
        · by_cases this : key = (voucherClassId dest classId, item.1.1)
          · subst key
            refine .inr ⟨rfl, ?_⟩
            rw [same]
            exact StoreMap.save_self _ _ _
          · left
            rw [same]
            exact StoreMap.save_of_ne this
        · exact .inr changed

/-! ## Tokens of the packet -/

/-- What can be redeemed at the start of the fold has no outgoing entry at its end. -/
theorem outgoing_selectFrom_of_mem {items : List Incoming} {item : Incoming}
    {localClass : ClassId} (member : item ∈ items) (popped : localClassId = some localClass.id)
    (sent : storage.outgoingClassTokenToChannel (localClass, item.1.1) = some dest.channelId) :
    (selectFrom dest classId localClassId storage items).1.outgoingClassTokenToChannel
      (localClass, item.1.1) = none := by
  induction items generalizing storage with
  | nil => cases member
  | cons first rest ih =>
      simp only [selectFrom]
      cases left : (chooseAction dest classId localClassId storage
          first).1.outgoingClassTokenToChannel (localClass, item.1.1) with
      | none =>
          cases final : (selectFrom dest classId localClassId
              (chooseAction dest classId localClassId storage first).1
              rest).1.outgoingClassTokenToChannel (localClass, item.1.1) with
          | none => rfl
          | some channelId => rw [of_outgoing_selectFrom final] at left; cases left
      | some channelId =>
          rcases chooseAction_cases dest classId localClassId storage first with
            ⟨other, poppedFirst, -, chosen⟩ | ⟨staying, chosen⟩
          · rw [chosen] at left
            have kept := StoreMap.of_remove left
            rw [sent] at kept
            cases kept
            rcases List.mem_cons.mp member with same | later
            · have equal : other = localClass := by
                rw [popped] at poppedFirst
                cases other
                cases localClass
                simpa using poppedFirst.symm
              subst equal same
              simp at left
            · rw [chosen]
              exact ih later left
          · rw [chosen] at left ⊢
            rcases List.mem_cons.mp member with same | later
            · subst same
              exact absurd sent (staying localClass popped)
            · exact ih later sent

/-- What can not be redeemed at the start of the fold has an incoming entry at its end. -/
theorem incoming_selectFrom_of_mem {items : List Incoming} {item : Incoming}
    (member : item ∈ items)
    (staying : ∀ localClass : ClassId, localClassId = some localClass.id →
      storage.outgoingClassTokenToChannel (localClass, item.1.1) ≠ some dest.channelId) :
    (selectFrom dest classId localClassId storage items).1.incomingClassTokenToChannel
      (voucherClassId dest classId, item.1.1) = some dest.channelId := by
  induction items generalizing storage with
  | nil => cases member
  | cons first rest ih =>
      simp only [selectFrom]
      rcases chooseAction_cases dest classId localClassId storage first with
        ⟨other, popped, sent, chosen⟩ | ⟨-, chosen⟩
      · rcases List.mem_cons.mp member with same | later
        · subst same
          exact absurd sent (staying other popped)
        · rw [chosen]
          apply ih later
          intro localClass poppedSame present
          exact staying localClass poppedSame (StoreMap.of_remove present)
      · rw [chosen]
        rcases List.mem_cons.mp member with same | later
        · subst same
          rcases incoming_selectFrom dest classId localClassId { storage with
              incomingClassTokenToChannel := storage.incomingClassTokenToChannel.save
                (voucherClassId dest classId, item.1.1) dest.channelId } rest
              (voucherClassId dest classId, item.1.1) with kept | changed
          · rw [kept]
            exact StoreMap.save_self _ _ _
          · exact changed.2
        · exact ih later staying

end Selection

/-- A packet with valid data has the same number of URIs, data and token IDs, so every
token takes part in the fold. -/
theorem NonFungibleTokenPacketData.map_incoming {data : NonFungibleTokenPacketData}
    (valid : data.validate = .ok ()) : data.incoming.map (·.1.1) = data.tokenIds := by
  rcases validate_eq_ok.mp valid with ⟨-, -, -, -, dataLength, uriLength⟩
  have zipped : ∀ {α β : Type} (left : List α) (right : Option (List β)),
      (∀ list, right = some list → list.length = left.length) →
      (zipOptional left right).map Prod.fst = left := by
    intro α β left right same
    cases right with
    | none => simp [zipOptional, Function.comp_def]
    | some list =>
        have long := same list rfl
        simp only [zipOptional, List.map_map]
        change (left.zip list).map Prod.fst = left
        rw [List.map_fst_zip (Nat.le_of_eq long.symm)]
  have inner := zipped data.tokenIds data.tokenUris uriLength
  have outer := zipped (zipOptional data.tokenIds data.tokenUris) data.tokenData (by
    intro datas present
    rw [dataLength datas present]
    simpa using (congrArg List.length inner).symm)
  calc data.incoming.map (·.1.1)
      = ((zipOptional (zipOptional data.tokenIds data.tokenUris) data.tokenData).map
          Prod.fst).map Prod.fst := by simp [incoming, Function.comp_def]
    _ = data.tokenIds := by rw [outer, inner]

end Ics721
