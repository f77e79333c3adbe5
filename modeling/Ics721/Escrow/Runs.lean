import Ics721.Escrow.Steps
import Ics721.Escrow.Twins

/-!
# Runs that differ in one NFT

Whatever happens to both worlds, one step at a time: the packet that only one of them has sent
changes the number of every later one, and nothing else.
-/

namespace Ics721

open Library

/-! ## Labels -/

namespace Chain.Label

/-- The label is about a token of a class, which is the one of the contract. -/
def About (api : Api) (contract : Addr) (classId : ClassId) (tokenId : TokenId) :
    Chain.Label → Prop
  | .execute _ (.execute callee (.cw721 msg)) => callee = contract ∧ msg.names = some tokenId
  | .receive packet => ∃ data, api.packetData.fromBinary packet.data = .ok data ∧
      tokenId ∈ data.tokenIds ∧
      (tryPopSourcePrefix packet.src data.classId.id = some classId.id ∨
        voucherClassId packet.dest data.classId = classId)
  | .ack packet _ | .timeout packet => Carries api packet classId tokenId
  | _ => False

/-- The label where the packet with the sequence number was not sent. -/
def without (sequence : Nat) : Chain.Label → Option Chain.Label
  | .ack packet acknowledgement =>
      if packet.sequence = sequence then none
      else some (.ack (packet.without sequence) acknowledgement)
  | .timeout packet =>
      if packet.sequence = sequence then none else some (.timeout (packet.without sequence))
  | label => some label

end Chain.Label

/-! ## Received packets -/

section Received

variable {shipment : Shipment} {known : Prop} {bridge : Addr}

/-- The message of a received packet is a callback that is not about the NFT. -/
theorem Aside.message {aggregator : ActionAggregator} {receiver : Addr}
    (redeem : ∀ redemption, aggregator.redemption = some redemption →
      Aside shipment known bridge (.redeemVouchers receiver.addr redemption))
    (create : ∀ creation, aggregator.creation = some creation →
      Aside shipment known bridge (.createVouchers receiver.addr creation)) :
    ∃ callback, aggregator.message bridge receiver =
        .execute bridge (.bridge (.callback callback)) ∧
      Aside shipment known bridge callback := by
  cases redeeming : aggregator.redemption with
  | none =>
      cases creating : aggregator.creation with
      | none =>
          have none : ∀ callback ∈ ([] : List CallbackMsg),
              Aside shipment known bridge callback := by
            simp
          refine ⟨_, ?_, .conjunction none⟩
          simp [ActionAggregator.message, ActionAggregator.operands, redeeming, creating]
      | some creation =>
          refine ⟨_, ?_, create creation creating⟩
          simp [ActionAggregator.message, ActionAggregator.operands, redeeming, creating,
            VoucherCreation.intoWasmMsg]
  | some redemption =>
      cases creating : aggregator.creation with
      | none =>
          refine ⟨_, ?_, redeem redemption redeeming⟩
          simp [ActionAggregator.message, ActionAggregator.operands, redeeming, creating,
            VoucherRedemption.intoWasmMsg]
      | some creation =>
          have both : ∀ callback ∈ [CallbackMsg.redeemVouchers receiver.addr redemption,
              .createVouchers receiver.addr creation], Aside shipment known bridge callback := by
            intro callback member
            simp only [List.mem_cons, List.not_mem_nil, or_false] at member
            rcases member with rfl | rfl
            · exact redeem redemption redeeming
            · exact create creation creating
          refine ⟨_, ?_, .conjunction both⟩
          simp [ActionAggregator.message, ActionAggregator.operands, redeeming, creating,
            VoucherCreation.intoWasmMsg, VoucherRedemption.intoWasmMsg]

/-- The submessage of a received packet. -/
theorem Aside.packet {received : IbcPacket} {data : NonFungibleTokenPacketData}
    {storage : Storage} {receiver : Addr} (valid : data.validate = .ok ())
    (popped : tryPopSourcePrefix received.src data.classId.id = some shipment.classId.id →
      shipment.tokenId ∉ data.tokenIds)
    (pushed : voucherClassId received.dest data.classId = shipment.classId →
      shipment.tokenId ∉ data.tokenIds)
    (registered : ∀ tokenId, tokenId ≠ shipment.tokenId →
      storage.outgoingClassTokenToChannel (shipment.classId, tokenId) ≠ none → known) :
    ∃ callback, (data.aggregate (selectActions received data storage).2).message bridge
        receiver = .execute bridge (.bridge (.callback callback)) ∧
      Aside shipment known bridge callback := by
  have uniform := uniform_selectActions received data storage
  apply Aside.message
  · intro redemption held
    rw [data.aggregate_redemption uniform] at held
    split at held
    next => cases held
    next some =>
      cases held
      apply Aside.redeem
      intro same
      rcases List.exists_mem_of_ne_nil _ some with ⟨tokenId, redeemed⟩
      have chosen := (mem_redeemedIds uniform).mp redeemed
      rw [selectActions_eq] at chosen
      rcases redemption_selectFrom chosen with ⟨prefixed, sent, -⟩
      simp only at same
      rw [same] at prefixed sent
      have missing := popped prefixed
      constructor
      · apply registered tokenId
        · intro own
          exact missing (own ▸ data.mem_of_redeemed valid redeemed)
        · rw [sent]
          simp
      · intro other
        exact missing (data.mem_of_redeemed valid other)
  · intro creation held
    rw [data.aggregate_creation uniform] at held
    split at held
    next => cases held
    next =>
      cases held
      apply Aside.create
      · exact slash_mem_voucherClassId _ _
      · intro same other
        exact pushed same (data.mem_of_created valid other)

end Received

namespace World.Twins

variable {deployment : Deployment} {shipment : Shipment} {packet : IbcPacket} {known : Prop}
variable {left right : World Ledger} {codeId : Nat}

/-! ## Transactions -/

theorem runMessages (twins : World.Twins deployment shipment packet known left right)
    {messages : List (SubMsg CosmosMsg)} (data : Option ReplyData)
    (unconcerned : ∀ sub ∈ messages,
      Unconcerned shipment known deployment.bridge deployment.bridge sub) :
    Alike (fun first second : World Ledger × Option ReplyData =>
        World.Twins deployment shipment packet known first.1 second.1 ∧ first.2 = second.2)
      (deployment.runMessages deployment.contracts left messages data)
      (deployment.runMessages deployment.contracts right messages data) :=
  (lockstep deployment shipment packet known).dispatch twins unconcerned

theorem isContract_eq (twins : World.Twins deployment shipment packet known left right)
    (address : Addr) :
    deployment.contracts.isContract left.contracts address =
      deployment.contracts.isContract right.contracts address :=
  twins.ledger.isSome_contractAt address

/-- An account executes a message that is not about the NFT. -/
theorem executeTx (twins : World.Twins deployment shipment packet known left right)
    {sender : Addr} {msg : WasmMsg} (account : sender ≠ deployment.bridge)
    (aside : ¬(Chain.Label.execute sender msg).About deployment.api shipment.contract
      shipment.classId shipment.tokenId) :
    Alike (World.Twins deployment shipment packet known)
      (deployment.executeTx deployment.contracts left sender msg)
      (deployment.executeTx deployment.contracts right sender msg) := by
  have avoids : Avoids shipment known deployment.bridge sender (.wasm msg) := by
    cases msg with
    | instantiate admin code msg label => exact .instantiate _ _ _ _
    | execute contract msg =>
        cases msg with
        | cw721 msg => exact .cw721 fun own same => aside ⟨own, same⟩
        | other msg => exact .unknown _ _
        | bridge msg =>
            cases msg with
            | receiveNft msg => exact .receive _ _
            | receiveProxyNft eyeball msg => exact .forward _ _ _
            | pause => exact .pause _
            | callback msg => exact .callback _ fun self => absurd self account
  have unconcerned : ∀ sub ∈ [msg.sub],
      Unconcerned shipment known deployment.bridge sender sub := by
    intro sub member
    rw [List.mem_singleton.mp member]
    exact .plain avoids
  apply Alike.bind
    ((lockstep deployment shipment packet known).dispatch twins unconcerned)
  rintro first second - - ⟨next, -⟩
  exact .ok next

/-- The submessage of a received packet is run and acknowledged. -/
theorem acknowledge (twins : World.Twins deployment shipment packet known left right)
    {messages : List (SubMsg CosmosMsg)} (text : Binary)
    (unconcerned : ∀ sub ∈ messages,
      Unconcerned shipment known deployment.bridge deployment.bridge sub) :
    Alike (fun first second : World Ledger × Binary =>
        World.Twins deployment shipment packet known first.1 second.1)
      (do
        let (world, data) ← deployment.runMessages deployment.contracts left messages
          (some (.binary text))
        match data with
        | some (.binary acknowledgement) => return (world, acknowledgement)
        | _ => return (world, []))
      (do
        let (world, data) ← deployment.runMessages deployment.contracts right messages
          (some (.binary text))
        match data with
        | some (.binary acknowledgement) => return (world, acknowledgement)
        | _ => return (world, [])) := by
  apply Alike.bind (twins.runMessages _ unconcerned)
  rintro ⟨first, data⟩ ⟨second, same⟩ - - ⟨final, rfl⟩
  simp only
  split
  next => exact .ok final
  next => exact .ok final

/-- A packet is received that is not about the NFT. -/
theorem receiveTx (twins : World.Twins deployment shipment packet known left right)
    {received : IbcPacket}
    (aside : ¬(Chain.Label.receive received).About deployment.api shipment.contract
      shipment.classId shipment.tokenId)
    (registered : ∀ tokenId, tokenId ≠ shipment.tokenId →
      left.storage.outgoingClassTokenToChannel (shipment.classId, tokenId) ≠ none → known) :
    Alike (fun first second : World Ledger × Binary =>
        World.Twins deployment shipment packet known first.1 second.1)
      (deployment.receiveTx deployment.contracts left received)
      (deployment.receiveTx deployment.contracts right received) := by
  have checks := twins.storage.checkIbcPacket_eq deployment.api received
  cases checked : checkIbcPacket deployment.api right.storage received with
  | error error =>
      simp only [Chain.receiveTx, ibcPacketReceive, receiveIbcPacket, checks, checked]
      exact twins.acknowledge _ (by simp)
  | ok outcome =>
      rcases outcome with ⟨data, receiver⟩
      rcases checkIbcPacket_eq_ok.mp checked with ⟨-, decoded, valid, -, -⟩
      have other : tryPopSourcePrefix received.src data.classId.id = some shipment.classId.id ∨
          voucherClassId received.dest data.classId = shipment.classId →
          shipment.tokenId ∉ data.tokenIds :=
        fun either member => aside ⟨data, decoded, member, either⟩
      have chosen : Apart shipment known (selectActions received data left.storage).1
            (selectActions received data right.storage).1 ∧
          (selectActions received data left.storage).2 =
            (selectActions received data right.storage).2 := by
        rw [selectActions_eq, selectActions_eq]
        apply twins.storage.selectFrom
        intro popped item member own
        apply other (.inl popped)
        rw [← own, ← data.map_incoming valid]
        exact List.mem_map_of_mem member
      have avoids : Avoids shipment known deployment.bridge deployment.bridge (.wasm
          ((data.aggregate (selectActions received data left.storage).2).message
            deployment.bridge receiver)) := by
        rcases Aside.packet valid (fun popped => other (.inl popped))
          (fun pushed => other (.inr pushed)) registered with ⟨callback, same, quiet⟩
        rw [same]
        exact .callback _ fun _ => quiet
      have next : World.Twins deployment shipment packet known
          { left with storage := (selectActions received data left.storage).1 }
          { right with storage := (selectActions received data right.storage).1 } :=
        { twins with storage := chosen.1 }
      simp only [Chain.receiveTx, ibcPacketReceive, receiveIbcPacket, checks, checked, ok_bind,
        pure, Except.pure, ← chosen.2]
      apply next.acknowledge
      intro sub member
      rw [List.mem_singleton.mp member]
      exact .acked avoids

/-- A packet is settled that does not carry the NFT. -/
theorem settleTx (twins : World.Twins deployment shipment packet known left right)
    {settled : IbcPacket} (different : settled.sequence ≠ packet.sequence)
    {handler : Storage → IbcPacket → Except ContractError (Storage × Response)}
    (unnumbered : ∀ storage, handler storage (settled.without packet.sequence) =
      handler storage settled)
    (handled : settled.without packet.sequence ∈ right.commitments →
      Alike (fun first second => Apart shipment known first.1 second.1 ∧ first.2 = second.2 ∧
          ∀ sub ∈ first.2.messages,
            Unconcerned shipment known deployment.bridge deployment.bridge sub)
        (handler left.storage settled) (handler right.storage settled)) :
    Alike (World.Twins deployment shipment packet known)
      (deployment.settleTx deployment.contracts left settled handler)
      (deployment.settleTx deployment.contracts right (settled.without packet.sequence)
        handler) := by
  have distinct : settled ≠ packet := fun same => different (congrArg IbcPacket.sequence same)
  have shifted := IbcPacket.besides_without different
  have pending : settled ∈ left.commitments ↔
      settled.without packet.sequence ∈ right.commitments := by
    rw [← List.mem_erase_of_ne distinct, twins.commitments]
    constructor
    · intro member
      rcases List.mem_map.mp member with ⟨original, present, same⟩
      rw [← same, IbcPacket.without_besides]
      exact present
    · intro member
      exact List.mem_map.mpr ⟨_, member, shifted⟩
  simp only [Chain.settleTx, pending, unnumbered]
  split
  next present =>
    apply Alike.bind (handled present).mapError
    rintro ⟨first, response⟩ ⟨second, same⟩ - - ⟨next, rfl, permitted⟩
    have reached : World.Twins deployment shipment packet known
        { left with storage := first, commitments := left.commitments.erase settled }
        { right with
          storage := second
          commitments := right.commitments.erase (settled.without packet.sequence) } := by
      refine ⟨next, twins.ledger, ?_, ?_, twins.sequence, twins.earlier⟩
      · exact (List.mem_erase_of_ne (Ne.symm distinct)).mpr twins.pending
      · simp only
        rw [List.erase_comm, twins.commitments,
          List.map_erase (IbcPacket.besides_injective packet.sequence), shifted]
    apply Alike.bind (reached.runMessages _ permitted)
    rintro final last - - ⟨done, -⟩
    exact .ok done
  next => exact .error _

/-! ## Steps and runs -/

/-- What is known about the class may change from one transaction to the next. -/
theorem relearn {other : Prop}
    (twins : World.Twins deployment shipment packet known left right)
    (registered : other → right.storage.classIdToNftContract shipment.classId ≠ none) :
    World.Twins deployment shipment packet other left right :=
  { twins with storage := { twins.storage with registered := registered } }

theorem forget (twins : World.Twins deployment shipment packet known left right) :
    World.Twins deployment shipment packet False left right :=
  twins.relearn False.elim

/-- A packet of a class that the right world knows. -/
theorem settles (sound : Sound deployment.toChain deployment.contracts codeId right)
    {settled : IbcPacket}
    (other : ¬Carries deployment.api settled shipment.classId shipment.tokenId)
    (pending : settled.without packet.sequence ∈ right.commitments) :
    Apart.Settles shipment deployment.api right.storage settled := by
  rcases sound.origin _ pending with ⟨record, -, ⟨origin, encoded, -, -, -, entry⟩, -⟩
  have content : settled.data = deployment.api.packetData.toBinary origin := encoded
  constructor
  · intro data decoded class_ member
    exact other ⟨data, decoded, class_, member⟩
  · intro data decoded
    rw [content, Codec.from_to] at decoded
    cases decoded
    rw [entry]
    simp

/-- One transaction, where nobody has heard of the packet and where it is under way. -/
theorem transaction (twins : World.Twins deployment shipment packet False left right)
    (sound : Sound deployment.toChain deployment.contracts codeId right)
    {label other : Chain.Label}
    (aside : ¬label.About deployment.api shipment.contract shipment.classId shipment.tokenId)
    (kept : label.without packet.sequence = some other) :
    Alike (World.Twins deployment shipment packet False)
      (deployment.transaction deployment.contracts left label)
      (deployment.transaction deployment.contracts right other) := by
  cases label with
  | execute sender msg =>
      cases kept
      simp only [Chain.transaction, twins.isContract_eq]
      split
      next => exact .ok twins
      next account => exact twins.executeTx (fun self => account (.inl self)) aside
  | receive received =>
      cases kept
      simp only [Chain.transaction]
      split
      next =>
        have known : World.Twins deployment shipment packet
            (right.storage.classIdToNftContract shipment.classId ≠ none) left right :=
          twins.relearn id
        have registered : ∀ tokenId, tokenId ≠ shipment.tokenId →
            left.storage.outgoingClassTokenToChannel (shipment.classId, tokenId) ≠ none →
            right.storage.classIdToNftContract shipment.classId ≠ none := by
          intro tokenId other sent
          rw [twins.storage.outgoing _ (by simp [other])] at sent
          rcases Option.ne_none_iff_exists'.mp sent with ⟨channelId, entry⟩
          rcases sound.registry.outgoing_registered entry with ⟨contract, registered⟩
          simp [registered]
        apply Alike.bind (known.receiveTx aside registered)
        intro first second _ _ next
        exact .ok next.forget
      next => exact .ok twins
  | ack settled acknowledgement =>
      simp only [Chain.Label.without] at kept
      split at kept
      next => cases kept
      next different =>
        cases kept
        simp only [Chain.transaction, Chain.ackTx]
        apply twins.settleTx different
        · intro storage
          rfl
        · intro pending
          have settles := settles sound aside pending
          simp only [ibcPacketAck]
          split
          next => exact twins.storage.handlePacketFail settles _
          next => exact twins.storage.handlePacketSuccess settles
  | timeout settled =>
      simp only [Chain.Label.without] at kept
      split at kept
      next => cases kept
      next different =>
        cases kept
        simp only [Chain.transaction, Chain.timeoutTx]
        apply twins.settleTx different
        · intro storage
          rfl
        · intro pending
          exact twins.storage.handlePacketFail (settles sound aside pending) _
  | migrate msg =>
      cases kept
      apply Alike.bind (twins.storage.migrate deployment.api msg).mapError
      rintro ⟨first, _⟩ ⟨second, _⟩ - - next
      exact .ok { twins with storage := next }

/-- A label that is left out does nothing: nothing but the packet itself has its number. -/
theorem step_dropped (twins : World.Twins deployment shipment packet False left right)
    (carries : Carries deployment.api packet shipment.classId shipment.tokenId)
    {label : Chain.Label}
    (aside : ¬label.About deployment.api shipment.contract shipment.classId shipment.tokenId)
    (dropped : label.without packet.sequence = none) :
    deployment.step deployment.contracts left label = left := by
  have absent : ∀ settled : IbcPacket, settled.sequence = packet.sequence →
      ¬Carries deployment.api settled shipment.classId shipment.tokenId →
      settled ∉ left.commitments := by
    intro settled same other pending
    have distinct : settled ≠ packet := fun own => other (own ▸ carries)
    rw [← List.mem_erase_of_ne distinct, twins.commitments] at pending
    rcases List.mem_map.mp pending with ⟨original, -, rfl⟩
    exact IbcPacket.sequence_besides _ _ same
  cases label with
  | execute sender msg => cases dropped
  | receive received => cases dropped
  | migrate msg => cases dropped
  | ack settled acknowledgement =>
      simp only [Chain.Label.without] at dropped
      split at dropped
      next same =>
        simp [Chain.step, Chain.transaction, Chain.ackTx, Chain.settleTx,
          absent settled same aside]
      next => cases dropped
  | timeout settled =>
      simp only [Chain.Label.without] at dropped
      split at dropped
      next same =>
        simp [Chain.step, Chain.transaction, Chain.timeoutTx, Chain.settleTx,
          absent settled same aside]
      next => cases dropped

theorem step (twins : World.Twins deployment shipment packet False left right)
    (sound : Sound deployment.toChain deployment.contracts codeId right)
    {label other : Chain.Label}
    (aside : ¬label.About deployment.api shipment.contract shipment.classId shipment.tokenId)
    (kept : label.without packet.sequence = some other) :
    World.Twins deployment shipment packet False
      (deployment.step deployment.contracts left label)
      (deployment.step deployment.contracts right other) := by
  have done := twins.transaction sound aside kept
  unfold Chain.step
  cases onLeft : deployment.transaction deployment.contracts left label with
  | error err =>
      rw [onLeft] at done
      cases onRight : deployment.transaction deployment.contracts right other with
      | error other => exact twins
      | ok after =>
          rw [onRight] at done
          cases done
  | ok after =>
      rw [onLeft] at done
      rcases done.exists_ok with ⟨final, onRight, next⟩
      rw [onRight]
      exact next

theorem run (twins : World.Twins deployment shipment packet False left right)
    (carries : Carries deployment.api packet shipment.classId shipment.tokenId)
    (sound : Sound deployment.toChain deployment.contracts codeId right)
    {labels : List Chain.Label}
    (aside : ∀ label ∈ labels, ¬label.About deployment.api shipment.contract shipment.classId
      shipment.tokenId) :
    World.Twins deployment shipment packet False
      (labels.foldl (deployment.step deployment.contracts) left)
      ((labels.filterMap (Chain.Label.without packet.sequence)).foldl
        (deployment.step deployment.contracts) right) := by
  induction labels generalizing left right with
  | nil => exact twins
  | cons label labels ih =>
      have first := aside label List.mem_cons_self
      have later : ∀ other ∈ labels, ¬other.About deployment.api shipment.contract
          shipment.classId shipment.tokenId :=
        fun other member => aside other (List.mem_cons_of_mem _ member)
      simp only [List.foldl_cons]
      cases kept : label.without packet.sequence with
      | none =>
          rw [List.filterMap_cons_none kept, twins.step_dropped carries first kept]
          exact ih twins sound later
      | some other =>
          rw [List.filterMap_cons_some kept, List.foldl_cons]
          apply ih (twins.step sound first kept) ?_ later
          exact (sound.step (Deployment.lawful (.refl _) codeId) other).1

end World.Twins

end Ics721
