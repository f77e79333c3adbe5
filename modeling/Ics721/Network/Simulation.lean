import Ics721.Library.Backing
import Ics721.Network.Progress

/-!
# Networks of bridges are voucher networks

Every step of a network of bridges is a step of the voucher network it is viewed as, so its
vouchers are backed.  That a returning voucher is always redeemed, and not refused with the
outgoing entry lost, is itself a consequence of the backing.
-/

namespace Ics721

open Library

namespace Network

variable {ι : Type} [DecidableEq ι] {network : Network ι} {state : State ι} {here : ι}
variable {after : World Ledger} {acks : ι → IbcPacket → Option Binary}

/-! ## Changing one chain -/

theorem undisturbed_update {chain : ι} {classId : ClassId} {tokenId : TokenId}
    (undisturbed : chain = here →
      (network.deployment here).Undisturbed (state.worlds here) after classId tokenId) :
    network.vouchers.Undisturbed (network.view state)
      (network.view ⟨Function.update state.worlds here after, acks⟩) chain classId tokenId := by
  by_cases same : chain = here
  · subst same
    simp only [VoucherNet.Undisturbed, view, Function.update_self]
    constructor
    · exact (undisturbed rfl).held
    · intro channelId ends source _ voucher absent
      apply (undisturbed rfl).absent _ absent
      rw [voucher]
      exact slash_mem_voucherClassId _ _
  · simp only [VoucherNet.Undisturbed, view, Function.update_of_ne same]
    constructor
    · exact id
    · exact fun _ _ _ _ _ => id

theorem sameBut_outgoing {classId : ClassId} {tokenId : TokenId}
    (same : ∀ key, key ≠ (classId, tokenId) → after.storage.outgoingClassTokenToChannel key =
      (state.worlds here).storage.outgoingClassTokenToChannel key) :
    VoucherNet.SameBut here classId tokenId (network.view state).outgoing
      (network.view ⟨Function.update state.worlds here after, acks⟩).outgoing := by
  intro chain otherClass otherToken different
  by_cases equal : chain = here
  · subst equal
    simp only [view, Function.update_self]
    apply same
    intro equal
    cases equal
    exact different ⟨rfl, rfl, rfl⟩
  · simp only [view, Function.update_of_ne equal]

theorem sameBut_incoming {classId : ClassId} {tokenId : TokenId}
    (same : ∀ key, key ≠ (classId, tokenId) → after.storage.incomingClassTokenToChannel key =
      (state.worlds here).storage.incomingClassTokenToChannel key) :
    VoucherNet.SameBut here classId tokenId (network.view state).incoming
      (network.view ⟨Function.update state.worlds here after, acks⟩).incoming := by
  intro chain otherClass otherToken different
  by_cases equal : chain = here
  · subst equal
    simp only [view, Function.update_self]
    apply same
    intro equal
    cases equal
    exact different ⟨rfl, rfl, rfl⟩
  · simp only [view, Function.update_of_ne equal]

theorem view_outgoing
    (same : after.storage.outgoingClassTokenToChannel =
      (state.worlds here).storage.outgoingClassTokenToChannel) :
    (network.view ⟨Function.update state.worlds here after, acks⟩).outgoing =
      (network.view state).outgoing := by
  funext chain classId tokenId
  by_cases equal : chain = here
  · subst equal
    simp only [view, Function.update_self, same]
  · simp only [view, Function.update_of_ne equal]

theorem view_incoming
    (same : after.storage.incomingClassTokenToChannel =
      (state.worlds here).storage.incomingClassTokenToChannel) :
    (network.view ⟨Function.update state.worlds here after, acks⟩).incoming =
      (network.view state).incoming := by
  funext chain classId tokenId
  by_cases equal : chain = here
  · subst equal
    simp only [view, Function.update_self, same]
  · simp only [view, Function.update_of_ne equal]

theorem view_pending (same : after.commitments = (state.worlds here).commitments) :
    (network.view ⟨Function.update state.worlds here after, acks⟩).pending =
      (network.view state).pending := by
  funext chain packet
  by_cases equal : chain = here
  · subst equal
    simp only [view, Function.update_self, same]
  · simp only [view, Function.update_of_ne equal]

theorem settles_erase {packet : IbcPacket} (distinct : (state.worlds here).commitments.Nodup)
    (erased : after.commitments = (state.worlds here).commitments.erase packet) :
    VoucherNet.Settles here packet (network.view state)
      (network.view ⟨Function.update state.worlds here after, acks⟩) := by
  intro chain other
  by_cases equal : chain = here
  · subst equal
    simp only [view, Function.update_self, erased, distinct.mem_erase_iff, true_and]
    exact and_comm
  · simp [view, equal]

/-! ## Accounts -/

/-- A step that concerns no packet. -/
theorem step_idle
    (undisturbed : ∀ classId tokenId,
      (network.deployment here).Undisturbed (state.worlds here) after classId tokenId)
    (outgoing : after.storage.outgoingClassTokenToChannel =
      (state.worlds here).storage.outgoingClassTokenToChannel)
    (incoming : after.storage.incomingClassTokenToChannel =
      (state.worlds here).storage.incomingClassTokenToChannel)
    (commitments : after.commitments = (state.worlds here).commitments) :
    network.vouchers.Step (network.view state)
      (network.view ⟨Function.update state.worlds here after, state.acks⟩) :=
  .idle (fun _ classId tokenId => undisturbed_update fun _ => undisturbed classId tokenId)
    (view_outgoing outgoing) (view_incoming incoming) (view_pending commitments) rfl

theorem step_sent {packet : IbcPacket} {data : NonFungibleTokenPacketData} {tokenId : TokenId}
    (undisturbed : ∀ classId tokenId,
      (network.deployment here).Undisturbed (state.worlds here) after classId tokenId)
    (sent : (network.deployment here).Sent (state.worlds here) after packet data tokenId) :
    network.vouchers.Step (network.view state)
      (network.view ⟨Function.update state.worlds here after, state.acks⟩) := by
  have cls : network.vouchers.cls packet = data.classId := sent.toPosted.cls
  have token : network.vouchers.token packet = tokenId := sent.toPosted.token
  rcases sent.toPosted.opened with ⟨there, far, opened, -⟩
  have channel : network.vouchers.peer here (network.vouchers.channel packet) =
    some (there, far) := opened
  apply VoucherNet.Step.send channel
  · rw [cls, token]
    exact sent.free
  · intro channelId ends source _ voucher
    rw [cls] at voucher
    rw [cls, token]
    apply sent.known
    rw [voucher]
    exact slash_mem_voucherClassId _ _
  · simp only [cls, token, view, Function.update_self]
    exact sent.locked
  · intro chain classId other _
    exact undisturbed_update fun _ => undisturbed classId other
  · simp only [cls, token, view, Function.update_self, sent.outgoing, StoreMap.save_self]
    rfl
  · rw [cls, token]
    apply sameBut_outgoing
    intro key different
    rw [sent.outgoing, StoreMap.save_of_ne different]
  · exact view_incoming sent.incoming
  · intro chain other
    by_cases same : chain = here
    · subst same
      simp [view, sent.commitments]
    · simp [view, same]
  · rfl

/-- Whatever an account does. -/
theorem step_executed {codeId : Nat} {sender : Addr} {msg : WasmMsg}
    (orderly : (network.deployment here).Orderly codeId (state.worlds here))
    (extended : Extends (state.worlds here).storage after.storage)
    (account : sender ≠ (network.deployment here).bridge)
    (noContract : (state.worlds here).contracts.infoAt (network.deployment here).api sender =
      none)
    (executed : (network.deployment here).Executed sender (state.worlds here) msg after) :
    network.vouchers.Step (network.view state)
      (network.view ⟨Function.update state.worlds here after, state.acks⟩) := by
  have registry : ∀ classId : ClassId, '/' ∈ classId.id.toList →
      after.storage.classIdToNftContract classId =
        (state.worlds here).storage.classIdToNftContract classId := by
    intro classId voucher
    exact executed.registry orderly.toHeld orderly.noProxy noContract voucher
  have outside := (executed.custody account orderly.custody).2
  have undisturbed : ∀ classId tokenId,
      (network.deployment here).Undisturbed (state.worlds here) after classId tokenId := by
    intro classId tokenId
    exact Deployment.undisturbed_outside orderly.issues extended (registry classId) outside
  cases executed with
  | called => exact step_idle undisturbed rfl rfl rfl
  | instantiated => exact step_idle undisturbed rfl rfl rfl
  | sent _ call _ _ sends =>
      rcases orderly.sent registry extended account call sends with ⟨packet, data, sent⟩
      exact step_sent undisturbed sent
  | forwarded named _ allowed sends =>
      exact absurd sends
        (Deployment.Executed.no_forward noContract orderly.noProxy named allowed)
  | paused pause =>
      simp only [Storage.pause, bind_eq_ok, ite_error_eq_ok, pure_eq_ok] at pause
      rcases pause with ⟨-, -, -, rfl⟩
      exact step_idle undisturbed rfl rfl rfl

/-! ## Settled packets -/

theorem step_refunded {codeId : Nat} {packet : IbcPacket}
    {data : NonFungibleTokenPacketData} {tokenId : TokenId}
    (orderly : (network.deployment here).Orderly codeId (state.worlds here))
    (posted : (network.deployment here).Posted packet data tokenId)
    (distinct : (state.worlds here).commitments.Nodup)
    (pending : packet ∈ (state.worlds here).commitments)
    (failed : (network.view state).receipt here packet ≠ some true)
    (refunds : (network.deployment here).Refunds packet (state.worlds here) after) :
    network.vouchers.Step (network.view state)
      (network.view ⟨Function.update state.worlds here after, state.acks⟩) := by
  have cls : network.vouchers.cls packet = data.classId := posted.cls
  have token : network.vouchers.token packet = tokenId := posted.token
  have holders : ∀ classId other, ¬(classId = data.classId ∧ other = tokenId) →
      (network.deployment here).Undisturbed (state.worlds here) after classId other := by
    intro classId other different
    apply Deployment.Undisturbed.of_eq
    apply Deployment.Refunds.holder orderly.toHeld refunds
    rw [posted.carries_iff]
    exact different
  rcases refunds with ⟨found, source, ledger, decoded, -, -, -, rfl⟩
  rw [posted.decoded] at decoded
  cases decoded
  have waiting : (network.view state).pending here packet := pending
  apply VoucherNet.Step.refund waiting failed
  · intro chain classId other different
    apply undisturbed_update
    intro same
    apply holders
    intro equal
    rw [cls, token] at different
    exact different ⟨same, equal⟩
  · rw [cls, token]
    apply sameBut_outgoing
    intro key different
    apply StoreMap.foldl_remove_of_not_mem
    intro removed member
    rw [posted.single, List.mem_singleton] at member
    rw [member]
    exact different.symm
  · exact view_incoming rfl
  · exact settles_erase distinct rfl
  · rfl

theorem step_burned {codeId : Nat} {packet : IbcPacket}
    {data : NonFungibleTokenPacketData} {tokenId : TokenId}
    (orderly : (network.deployment here).Orderly codeId (state.worlds here))
    (posted : (network.deployment here).Posted packet data tokenId)
    (distinct : (state.worlds here).commitments.Nodup)
    (pending : packet ∈ (state.worlds here).commitments)
    (arrived : (network.view state).receipt here packet = some true)
    (burns : (network.deployment here).Burns packet (state.worlds here) after) :
    network.vouchers.Step (network.view state)
      (network.view ⟨Function.update state.worlds here after, state.acks⟩) := by
  have cls : network.vouchers.cls packet = data.classId := posted.cls
  have token : network.vouchers.token packet = tokenId := posted.token
  by_cases came : (state.worlds here).storage.incomingClassTokenToChannel
      (data.classId, tokenId) = some packet.src.channelId
  · have holders : ∀ classId other, ¬(classId = data.classId ∧ other = tokenId) →
        (network.deployment here).Undisturbed (state.worlds here) after classId other := by
      intro classId other different
      apply Deployment.Undisturbed.of_eq
      apply Deployment.Burns.holder orderly.toHeld burns
      rw [posted.carries_iff]
      exact fun burned => different burned.1
    rcases burns with ⟨found, source, burned, ledger, decoded, known, list, called, rfl⟩
    rw [posted.decoded] at decoded
    cases decoded
    have burning := Ledger.burned_of_callAll called
    have isBurned : tokenId ∈ burned := by
      rw [list.2, posted.single]
      exact ⟨List.mem_singleton_self _, came⟩
    have onlyToken : ∀ other ∈ burned, other = tokenId := by
      intro other member
      rw [list.2, posted.single] at member
      exact List.mem_singleton.mp member.1
    have waiting : (network.view state).pending here packet := pending
    apply VoucherNet.Step.burn waiting
    · rw [cls, token]
      exact came
    · simp only [cls, token, view, Function.update_self]
      rw [Deployment.holder_eq_none]
      intro contract registered
      have same : contract = source := Option.some.inj (registered.symm.trans known)
      rcases burning.burned tokenId isBurned with ⟨_, _, -, -, -, gone⟩
      rw [same]
      exact gone
    · intro chain classId other different
      apply undisturbed_update
      intro same
      apply holders
      intro equal
      rw [cls, token] at different
      exact different ⟨same, equal⟩
    · exact view_outgoing rfl
    · simp only [cls, token, view, Function.update_self]
      exact StoreMap.foldl_remove_of_mem ⟨tokenId, isBurned, rfl⟩
    · rw [cls, token]
      apply sameBut_incoming
      intro key different
      apply StoreMap.foldl_remove_of_not_mem
      intro removed member
      rw [onlyToken removed member]
      exact different.symm
    · exact settles_erase distinct rfl
    · rfl
  · have holders : ∀ classId other,
        (network.deployment here).Undisturbed (state.worlds here) after classId other := by
      intro classId other
      apply Deployment.Undisturbed.of_eq
      apply Deployment.Burns.holder orderly.toHeld burns
      rw [posted.carries_iff]
      intro burned
      rcases burned with ⟨⟨rfl, rfl⟩, incoming⟩
      exact came incoming
    rcases burns with ⟨found, source, burned, ledger, decoded, known, list, called, rfl⟩
    rw [posted.decoded] at decoded
    cases decoded
    have nothing : burned = [] := by
      rw [List.eq_nil_iff_forall_not_mem]
      intro other member
      rw [list.2, posted.single] at member
      rw [List.mem_singleton.mp member.1] at member
      exact came member.2
    subst nothing
    have waiting : (network.view state).pending here packet := pending
    apply VoucherNet.Step.settle waiting arrived
    · rw [cls, token]
      exact came
    · intro chain classId other
      exact undisturbed_update fun _ => holders classId other
    · exact view_outgoing rfl
    · exact view_incoming rfl
    · exact settles_erase distinct rfl
    · rfl

/-! ## Delivered packets -/

theorem receipts_update {worlds : ι → World Ledger} {packet : IbcPacket} {ack : Binary}
    {accepted : Bool}
    (means : (tryGetAckError (network.deployment here).api ack).isNone = accepted) :
    VoucherNet.Receipts here packet accepted (network.view state)
      (network.view ⟨worlds, Function.update state.acks here
        (Function.update (state.acks here) packet (some ack))⟩) := by
  constructor
  · simp [view, means]
  · intro chain other different
    by_cases same : chain = here
    · subst same
      have notPacket : other ≠ packet := fun equal => different ⟨rfl, equal⟩
      simp [view, notPacket]
    · simp [view, same]

section Delivery

variable {there : ι} {far : String} {codeId : Nat} {packet : IbcPacket}
variable {data : NonFungibleTokenPacketData} {tokenId : TokenId} {receiver : Addr}

theorem step_redeemed {localClass : ClassId} {storage : Storage}
    (held : (network.deployment there).Held codeId (state.worlds there))
    (heldAfter : (network.deployment there).Held codeId after)
    (posted : (network.deployment here).Posted packet data tokenId)
    (pending : (network.view state).pending here packet)
    (unreceived : (network.view state).receipt here packet = none)
    (opened : network.vouchers.peer here (network.vouchers.channel packet) = some (there, far))
    (returns : data.classId = voucherClassId packet.src localClass)
    (selected : selectActions packet data (state.worlds there).storage =
      (storage, [.redemption localClass tokenId]))
    (outgoing : ∀ key, key ≠ (localClass, tokenId) → storage.outgoingClassTokenToChannel key =
      (state.worlds there).storage.outgoingClassTokenToChannel key)
    (incoming : storage.incomingClassTokenToChannel =
      (state.worlds there).storage.incomingClassTokenToChannel)
    (received : (network.deployment there).Received packet data receiver (state.worlds there)
      after) :
    network.vouchers.Step (network.view state)
      (network.view ⟨Function.update state.worlds there after,
        Function.update state.acks here (Function.update (state.acks here) packet
          (some (ackSuccess (network.deployment there).api)))⟩) := by
  have cls : network.vouchers.cls packet = data.classId := posted.cls
  have token : network.vouchers.token packet = tokenId := posted.token
  apply VoucherNet.Step.redeem pending unreceived opened
  · rw [cls, returns, posted.voucher_src]
  · intro chain classId other different
    apply undisturbed_update
    intro same
    apply received.undisturbed held heldAfter
    · intro isLocal member
      rw [selected] at member
      rw [localClass_eq returns] at isLocal
      apply different
      rw [token]
      exact ⟨same, isLocal, List.mem_singleton.mp member⟩
    · intro _ created member
      rw [selected] at member
      cases member
  · rw [token]
    apply sameBut_outgoing
    intro key different
    rw [received.outgoing, selected]
    exact outgoing key different
  · apply view_incoming
    rw [received.incoming, selected]
    exact incoming
  · apply view_pending
    rw [received.same]
  · apply receipts_update
    rw [network.tryGetAckError_eq here there, tryGetAckError_ackSuccess]
    rfl

theorem step_created {storage : Storage} {uri : Option String} {bytes : Option Binary}
    (held : (network.deployment there).Held codeId (state.worlds there))
    (heldAfter : (network.deployment there).Held codeId after)
    (posted : (network.deployment here).Posted packet data tokenId)
    (dest : packet.dest = ⟨(network.deployment there).portId, far⟩)
    (pending : (network.view state).pending here packet)
    (unreceived : (network.view state).receipt here packet = none)
    (opened : network.vouchers.peer here (network.vouchers.channel packet) = some (there, far))
    (staying : ∀ localClass, data.classId = voucherClassId packet.src localClass →
      (state.worlds there).storage.outgoingClassTokenToChannel (localClass, tokenId) ≠
        some packet.dest.channelId)
    (selected : selectActions packet data (state.worlds there).storage =
      (storage, [.creation (voucherClassId packet.dest data.classId) ⟨tokenId, uri, bytes⟩]))
    (outgoing : storage.outgoingClassTokenToChannel =
      (state.worlds there).storage.outgoingClassTokenToChannel)
    (incoming : storage.incomingClassTokenToChannel =
      (state.worlds there).storage.incomingClassTokenToChannel.save
        (voucherClassId packet.dest data.classId, tokenId) packet.dest.channelId)
    (received : (network.deployment there).Received packet data receiver (state.worlds there)
      after) :
    network.vouchers.Step (network.view state)
      (network.view ⟨Function.update state.worlds there after,
        Function.update state.acks here (Function.update (state.acks here) packet
          (some (ackSuccess (network.deployment there).api)))⟩) := by
  have cls : network.vouchers.cls packet = data.classId := posted.cls
  have token : network.vouchers.token packet = tokenId := posted.token
  have channelId : packet.dest.channelId = far := by rw [dest]
  have voucher := Deployment.Posted.voucher_dest dest
  apply VoucherNet.Step.create pending unreceived opened
  · intro source returns
    rw [cls, posted.voucher_src] at returns
    rw [token, ← channelId]
    exact staying source returns
  · rw [cls, token, voucher]
    apply Deployment.holder_eq_none.mpr
    intro contract registered
    have created := received.created
    rw [selected] at created
    rcases created _ (List.mem_singleton_self _) with ⟨found, _, registeredAfter, -, -, free, -⟩
    have same : contract = found :=
      Option.some.inj ((received.contract_kept registered).symm.trans registeredAfter)
    rw [same]
    exact free
  · intro chain classId other different
    apply undisturbed_update
    intro same
    apply received.undisturbed held heldAfter
    · intro _ member
      rw [selected] at member
      cases member
    · intro isVoucher created member equal
      rw [selected] at member
      rw [List.mem_singleton.mp member] at equal
      apply different
      rw [cls, token, voucher]
      exact ⟨same, isVoucher, equal.symm⟩
  · apply view_outgoing
    rw [received.outgoing, selected]
    exact outgoing
  · rw [cls, token, voucher]
    simp only [view, Function.update_self, received.incoming, selected, incoming,
      StoreMap.save_self, channelId]
  · rw [cls, token, voucher]
    apply sameBut_incoming
    intro key different
    rw [received.incoming, selected, incoming, StoreMap.save_of_ne different]
  · apply view_pending
    rw [received.same]
  · apply receipts_update
    rw [network.tryGetAckError_eq here there, tryGetAckError_ackSuccess]
    rfl

/-- Whatever becomes of a packet that is delivered. -/
theorem step_delivered {ack : Binary} (backing : network.vouchers.Backing (network.view state))
    (held : (network.deployment there).Held codeId (state.worlds there))
    (heldAfter : (network.deployment there).Held codeId after)
    (posted : (network.deployment here).Posted packet data tokenId)
    (dest : packet.dest = ⟨(network.deployment there).portId, far⟩)
    (pending : (network.view state).pending here packet)
    (unreceived : (network.view state).receipt here packet = none)
    (opened : network.vouchers.peer here (network.vouchers.channel packet) = some (there, far))
    (received : (network.deployment there).receiveTx (network.deployment there).contracts
      (state.worlds there) packet = .ok (after, ack)) :
    network.vouchers.Step (network.view state)
      (network.view ⟨Function.update state.worlds there after,
        Function.update state.acks here
          (Function.update (state.acks here) packet (some ack))⟩) := by
  have failing : ∀ text, (tryGetAckError (network.deployment here).api
      (ackFail (network.deployment there).api text)).isNone = false := by
    intro text
    rw [network.tryGetAckError_eq here there, tryGetAckError_ackFail]
    rfl
  rcases Deployment.receiveTx_cases (.refl _) held.foreign received with
    ⟨error, -, rfl, rfl⟩ | ⟨found, receiver, checked, outcome⟩
  · apply VoucherNet.Step.refuse unreceived opened
    · intro chain classId other
      exact undisturbed_update fun _ => .of_eq rfl
    · exact view_outgoing rfl
    · exact .inl (view_incoming rfl)
    · exact view_pending rfl
    · exact receipts_update (failing _)
  · rcases checkIbcPacket_eq_ok.mp checked with ⟨-, decoded, valid, -, -⟩
    rw [posted.decodes there] at decoded
    cases decoded
    rcases selectActions_single packet valid posted.single (state.worlds there).storage with
      ⟨localClass, returns, sent, selected⟩ | ⟨staying, uri, bytes, selected⟩
    · rcases outcome with ⟨text, rfl, rfl⟩ | ⟨rfl, applies⟩
      · -- What the voucher stands for is in escrow, so the packet can not fail.
        exfalso
        have returning : network.vouchers.cls packet = network.vouchers.voucher here
            (network.vouchers.channel packet) localClass := by
          rw [posted.voucher_src, posted.cls, returns]
        have backs := backing.returning_backed pending (by simp [unreceived]) opened returning
        have escrow := backs.held
        rw [posted.token] at escrow
        rcases held.receiveTx_redemption (network.deep there) checked selected escrow with
          ⟨reached, redeemed, -⟩
        rw [received] at redeemed
        have ackEqual := congrArg (tryGetAckError (network.deployment there).api)
          (congrArg Prod.snd (Except.ok.inj redeemed))
        rw [tryGetAckError_ackFail, tryGetAckError_ackSuccess] at ackEqual
        cases ackEqual
      · exact step_redeemed held heldAfter posted pending unreceived opened returns selected
          (fun key different => StoreMap.remove_of_ne different) rfl
          (Deployment.received_of_applies applies)
    · rcases outcome with ⟨text, rfl, rfl⟩ | ⟨rfl, applies⟩
      · have voucher := Deployment.Posted.voucher_dest dest data.classId
        have channelId : packet.dest.channelId = far := by rw [dest]
        have folded := sameButTransit_selectFrom packet.dest data.classId
          (tryPopSourcePrefix packet.src data.classId.id) (state.worlds there).storage
          data.incoming
        rw [← selectActions_eq] at folded
        apply VoucherNet.Step.refuse unreceived opened
        · intro chain classId other
          apply undisturbed_update
          intro _
          apply Deployment.Undisturbed.of_eq
          apply Deployment.holder_congr
          · simp only [Deployment.noted, folded.contracts]
          · exact fun _ _ => rfl
        · apply view_outgoing
          simp only [Deployment.noted, selected]
        · right
          rw [posted.cls, posted.token, voucher]
          constructor
          · simp only [view, Function.update_self, Deployment.noted, selected,
              StoreMap.save_self, channelId]
          · apply sameBut_incoming
            intro key different
            simp only [Deployment.noted, selected]
            exact StoreMap.save_of_ne different
        · exact view_pending rfl
        · exact receipts_update (failing _)
      · exact step_created held heldAfter posted dest pending unreceived opened staying selected
          rfl rfl (Deployment.received_of_applies applies)

end Delivery

end Network

end Ics721
