import Mathlib.Data.List.Forall2
import Ics721.Receive.Selection

/-!
# What the aggregator collects

All redemptions of a packet share one class ID and so do all creations, so keeping
the first class ID of each kind loses nothing: the aggregate lists the redeemed
tokens and the created ones, in order.
-/

namespace Ics721

open Library

/-- The token a redemption is about. -/
def Action.redeemed : Action → Option TokenId
  | .redemption _ tokenId => some tokenId
  | .creation _ _ => none

/-- The token a creation is about. -/
def Action.created : Action → Option Token
  | .redemption _ _ => none
  | .creation _ token => some token

/-- The tokens that are redeemed, in order. -/
def redeemedIds (actions : List Action) : List TokenId := actions.filterMap Action.redeemed

/-- The tokens that are created, in order. -/
def createdTokens (actions : List Action) : List Token := actions.filterMap Action.created

/-- All redemptions are of `localClass` and all creations of `voucherClass`. -/
def Uniform (localClass voucherClass : ClassId) (actions : List Action) : Prop :=
  (∀ classId tokenId, Action.redemption classId tokenId ∈ actions → classId = localClass) ∧
    ∀ classId token, Action.creation classId token ∈ actions → classId = voucherClass

theorem mem_redeemedIds {actions : List Action} {localClass voucherClass : ClassId}
    {tokenId : TokenId}
    (uniform : Uniform localClass voucherClass actions) :
    tokenId ∈ redeemedIds actions ↔ Action.redemption localClass tokenId ∈ actions := by
  simp only [redeemedIds, List.mem_filterMap]
  constructor
  · intro redeemed
    rcases redeemed with ⟨action, member, named⟩
    cases action with
    | creation classId token => cases named
    | redemption classId other =>
        have same := uniform.1 classId other member
        cases named
        rw [← same]
        exact member
  · intro member
    exact ⟨_, member, rfl⟩

namespace ActionAggregator

variable {localClass voucherClass : ClassId}

theorem foldl_redemption {actions : List Action}
    (uniform : ∀ classId tokenId, Action.redemption classId tokenId ∈ actions →
      classId = localClass) (self : ActionAggregator) :
    (actions.foldl addAction self).redemption =
      match self.redemption with
      | some redemption =>
          some { redemption with tokenIds := redemption.tokenIds ++ redeemedIds actions }
      | none =>
          if redeemedIds actions = [] then none
          else some ⟨⟨localClass, self.classUri, self.classData⟩, redeemedIds actions⟩ := by
  induction actions generalizing self with
  | nil => cases held : self.redemption <;> simp [held, redeemedIds]
  | cons action actions ih =>
      have rest := ih fun classId tokenId member =>
        uniform classId tokenId (List.mem_cons_of_mem _ member)
      rw [List.foldl_cons, rest]
      cases action with
      | creation classId token => rfl
      | redemption classId tokenId =>
          have same := uniform classId tokenId List.mem_cons_self
          subst classId
          cases held : self.redemption with
          | some redemption => simp [addAction, held, redeemedIds, Action.redeemed]
          | none => simp [addAction, held, redeemedIds, Action.redeemed]

theorem foldl_creation {actions : List Action}
    (uniform : ∀ classId token, Action.creation classId token ∈ actions →
      classId = voucherClass) (self : ActionAggregator) :
    (actions.foldl addAction self).creation =
      match self.creation with
      | some creation => some { creation with tokens := creation.tokens ++ createdTokens actions }
      | none =>
          if createdTokens actions = [] then none
          else some ⟨⟨voucherClass, self.classUri, self.classData⟩, createdTokens actions⟩ := by
  induction actions generalizing self with
  | nil => cases held : self.creation <;> simp [held, createdTokens]
  | cons action actions ih =>
      have rest := ih fun classId token member =>
        uniform classId token (List.mem_cons_of_mem _ member)
      rw [List.foldl_cons, rest]
      cases action with
      | redemption classId tokenId => rfl
      | creation classId token =>
          have same := uniform classId token List.mem_cons_self
          subst classId
          cases held : self.creation with
          | some creation => simp [addAction, held, createdTokens, Action.created]
          | none => simp [addAction, held, createdTokens, Action.created]

end ActionAggregator

namespace NonFungibleTokenPacketData

variable {localClass voucherClass : ClassId} {actions : List Action}

theorem aggregate_redemption (data : NonFungibleTokenPacketData)
    (uniform : Uniform localClass voucherClass actions) :
    (data.aggregate actions).redemption =
      if redeemedIds actions = [] then none
      else some ⟨⟨localClass, data.classUri, data.classData⟩, redeemedIds actions⟩ := by
  rw [aggregate, ActionAggregator.foldl_redemption uniform.1]
  rfl

theorem aggregate_creation (data : NonFungibleTokenPacketData)
    (uniform : Uniform localClass voucherClass actions) :
    (data.aggregate actions).creation =
      if createdTokens actions = [] then none
      else some ⟨⟨voucherClass, data.classUri, data.classData⟩, createdTokens actions⟩ := by
  rw [aggregate, ActionAggregator.foldl_creation uniform.2]
  rfl

end NonFungibleTokenPacketData

/-- The local class that a packet's tokens may be redeemed from; an arbitrary one if
the packet's class ID does not start with the prefix of its source. -/
def localClass (packet : IbcPacket) (data : NonFungibleTokenPacketData) : ClassId :=
  ⟨(tryPopSourcePrefix packet.src data.classId.id).getD ""⟩

theorem creation_selectFrom {dest : IbcEndpoint} {classId voucherClass : ClassId}
    {localClassId : Option String} {storage : Storage} {items : List Incoming} {token : Token}
    (created : Action.creation voucherClass token ∈
      (selectFrom dest classId localClassId storage items).2) :
    voucherClass = voucherClassId dest classId := by
  induction items generalizing storage with
  | nil => simp [selectFrom] at created
  | cons item items ih =>
      simp only [selectFrom, List.mem_cons] at created
      rcases created with first | later
      · rcases chooseAction_cases dest classId localClassId storage item with
          ⟨localClass, -, -, chosen⟩ | ⟨-, chosen⟩
        · rw [chosen] at first
          cases first
        · rw [chosen] at first
          cases first
          rfl
      · exact ih later

/-- The actions selected for a packet are uniform. -/
theorem uniform_selectActions (packet : IbcPacket) (data : NonFungibleTokenPacketData)
    (storage : Storage) :
    Uniform (localClass packet data) (voucherClassId packet.dest data.classId)
      (selectActions packet data storage).2 := by
  rw [selectActions_eq]
  constructor
  · intro classId tokenId redeemed
    have popped := (redemption_selectFrom redeemed).1
    rw [localClass, popped]
    rfl
  · intro classId token created
    exact creation_selectFrom created

/-! ## Every token has one action -/

/-- The action chosen for a token is about that token. -/
def Action.isFor (incoming : Incoming) : Action → Prop
  | .redemption _ tokenId => tokenId = incoming.1.1
  | .creation _ token => token = ⟨incoming.1.1, incoming.1.2, incoming.2⟩

theorem forall₂_selectFrom (dest : IbcEndpoint) (classId : ClassId)
    (localClassId : Option String) (storage : Storage) (items : List Incoming) :
    List.Forall₂ Action.isFor items (selectFrom dest classId localClassId storage items).2 := by
  induction items generalizing storage with
  | nil => exact .nil
  | cons item items ih =>
      refine .cons ?_ (ih _)
      rcases chooseAction_cases dest classId localClassId storage item with
        ⟨localClass, -, -, chosen⟩ | ⟨-, chosen⟩
      · rw [chosen]
        rfl
      · rw [chosen]
        rfl

end Ics721
