import Ics721.Cw721.Spared
import Ics721.Library.Conserved
import Ics721.Network.Arrival

/-!
# Careful users

What the steps of a network do to its NFTs if users burn none, give none to a bridge except by
sending them, and send none to a bridge.
-/

namespace Ics721

open Library

namespace Deployment

variable {deployment : Deployment} {codeId : Nat} {world after : World Ledger}
variable {classId : ClassId} {tokenId : TokenId} {gets : Addr × TokenId → Prop}

/-! ## One chain -/

/-- What the bridge holds is of classes that it knows. -/
def Tracked (deployment : Deployment) (world : World Ledger) : Prop :=
  ∀ key token, world.contracts.nfts deployment.api key = some token →
    token.owner = deployment.bridge →
    ∃ classId, world.storage.classIdToNftContract classId = some key.1

theorem holder_kept (extended : Extends world.storage after.storage)
    (spared : Ledger.Spared deployment.bridge gets (world.contracts.nfts deployment.api)
      (after.contracts.nfts deployment.api))
    (present : deployment.holder world classId tokenId ≠ none) :
    deployment.holder after classId tokenId ≠ none := by
  intro gone
  apply present
  rw [holder_eq_none] at gone ⊢
  intro contract registered
  by_contra exists_
  exact spared.kept exists_ (gone contract (extended.contract_kept registered))

/-- What the bridge holds now it held before, or it got it. -/
theorem Tracked.locked (tracked : deployment.Tracked world)
    (heldAfter : deployment.Held codeId after) (extended : Extends world.storage after.storage)
    (spared : Ledger.Spared deployment.bridge gets (world.contracts.nfts deployment.api)
      (after.contracts.nfts deployment.api))
    (escrow : deployment.holder after classId tokenId = some .escrow)
    (free : deployment.holder world classId tokenId ≠ some .escrow) :
    ∃ contract, after.storage.classIdToNftContract classId = some contract ∧
      gets (contract, tokenId) := by
  rcases holder_eq_escrow.mp escrow with ⟨contract, token, registered, present, owned⟩
  rcases spared.gained present owned with got | ⟨earlier, before, ownedBefore⟩
  · exact ⟨contract, registered, got⟩
  · rcases tracked _ earlier before ownedBefore with ⟨known, entry⟩
    have same := heldAfter.sound.registry.contract_inj registered
      (extended.contract_kept entry)
    rw [← same] at entry
    exact absurd (holder_eq_escrow.mpr ⟨contract, earlier, entry, before, ownedBefore⟩) free

theorem Tracked.of_gained (tracked : deployment.Tracked world)
    (extended : Extends world.storage after.storage)
    (gained : ∀ {key token}, after.contracts.nfts deployment.api key = some token →
      token.owner = deployment.bridge →
      (∃ classId, after.storage.classIdToNftContract classId = some key.1) ∨
        ∃ earlier, world.contracts.nfts deployment.api key = some earlier ∧
          earlier.owner = deployment.bridge) :
    deployment.Tracked after := by
  intro key token present owned
  rcases gained present owned with known | ⟨earlier, before, ownedBefore⟩
  · exact known
  · rcases tracked key earlier before ownedBefore with ⟨classId, entry⟩
    exact ⟨classId, extended.contract_kept entry⟩

/-- A packet that an account sent, and what the account asked for. -/
structure SentFor (deployment : Deployment) (world after : World Ledger) (sender : Addr)
    (contract : Addr) (wish : IbcOutgoingMsg) (packet : IbcPacket)
    (data : NonFungibleTokenPacketData) (tokenId : TokenId) : Prop
    extends deployment.Sent world after packet data tokenId where
  sender : data.sender = sender.addr
  receiver : data.receiver = wish.receiver
  channelId : packet.src.channelId = wish.channelId
  registered : after.storage.classIdToNftContract data.classId = some contract
  spared : Ledger.Spared deployment.bridge (· = (contract, tokenId))
    (world.contracts.nfts deployment.api) (after.contracts.nfts deployment.api)

theorem Orderly.sent_for {sender contract : Addr} {request : Binary} {ledger : Ledger}
    (orderly : deployment.Orderly codeId world)
    (registry : ∀ classId : ClassId, '/' ∈ classId.id.toList →
      after.storage.classIdToNftContract classId = world.storage.classIdToNftContract classId)
    (extended : Extends world.storage after.storage) (account : sender ≠ deployment.bridge)
    (call : world.contracts.call deployment.api sender contract
      (.sendNft deployment.bridge.addr tokenId request) = .ok ledger)
    (sends : deployment.Sends ⟨contract, tokenId, sender.addr, request⟩
      { world with contracts := ledger } after) :
    ∃ packet data wish, deployment.api.ibcOutgoing.fromBinary request = .ok wish ∧
      deployment.SentFor world after sender contract wish packet data tokenId := by
  rcases sends with ⟨wish, storage, cls, token, dest, -, decoded, selected, -, opened, same⟩
  have spared : Ledger.Spared deployment.bridge (· = (contract, tokenId))
      (world.contracts.nfts deployment.api) (ledger.nfts deployment.api) :=
    Ledger.spared_of_send call
  have found := orderly.sound.registry.classFound selected
  rw [same] at registry extended
  have unregistered : ∀ classId : ClassId, '/' ∈ classId.id.toList →
      storage.classIdToNftContract classId = world.storage.classIdToNftContract classId :=
    registry
  have kept : Extends world.storage storage := ⟨extended.contract_kept, extended.class_kept⟩
  refine ⟨_, _, wish, decoded,
    orderly.sent_packet unregistered kept account call selected opened same, rfl, rfl, rfl,
    ?_, ?_⟩
  · rw [same]
    exact found.registered
  · rw [same]
    exact spared

/-- A voucher that is back at its source is destroyed. -/
theorem Burns.gone {packet : IbcPacket} {data : NonFungibleTokenPacketData}
    (burns : deployment.Burns packet world after)
    (posted : deployment.Posted packet data tokenId)
    (came : world.storage.incomingClassTokenToChannel (data.classId, tokenId) =
      some packet.src.channelId) : deployment.holder after data.classId tokenId = none := by
  rcases burns with ⟨read, contract, tokens, ledger, decoded, known, list, called, rfl⟩
  rw [posted.decoded] at decoded
  cases decoded
  have member : tokenId ∈ tokens := by
    rw [list.2, posted.single]
    exact ⟨List.mem_singleton.mpr rfl, came⟩
  rcases (Ledger.burned_of_callAll called).burned tokenId member with ⟨_, _, -, -, -, gone⟩
  rw [holder_eq_none]
  intro found registered
  rw [Option.some.inj (registered.symm.trans known)]
  exact gone

/-- At most one class is registered in a step. -/
theorem Stepped.registers {label : Chain.Label} (held : deployment.Held codeId world)
    (stepped : deployment.Stepped world label after) :
    ∃ classId, ∀ other, other ≠ classId →
      after.storage.classIdToNftContract other = world.storage.classIdToNftContract other := by
  cases stepped with
  | stayed => exact ⟨⟨""⟩, fun _ _ => rfl⟩
  | executed _ _ executed =>
      cases executed with
      | called => exact ⟨⟨""⟩, fun _ _ => rfl⟩
      | instantiated => exact ⟨⟨""⟩, fun _ _ => rfl⟩
      | sent _ _ _ _ sends =>
          rcases sends with ⟨_, storage, cls, _, _, -, -, selected, -, -, rfl⟩
          exact ⟨cls.id, (held.sound.registry.classFound selected).contracts⟩
      | forwarded _ _ _ sends =>
          rcases sends with ⟨_, storage, cls, _, _, -, -, selected, -, -, rfl⟩
          exact ⟨cls.id, (held.sound.registry.classFound selected).contracts⟩
      | paused pause =>
          simp only [Storage.pause, bind_eq_ok, ite_error_eq_ok, pure_eq_ok] at pause
          rcases pause with ⟨-, -, -, rfl⟩
          exact ⟨⟨""⟩, fun _ _ => rfl⟩
  | received _ _ received => exact ⟨_, received.storage.contracts⟩
  | @failed packet data receiver _ _ =>
      have folded := sameButTransit_selectFrom packet.dest data.classId
        (tryPopSourcePrefix packet.src data.classId.id) world.storage data.incoming
      rw [← selectActions_eq] at folded
      refine ⟨⟨""⟩, fun other _ => ?_⟩
      simp only [noted, folded.contracts]
  | refunded _ _ refunds =>
      rcases refunds with ⟨_, _, _, -, -, -, -, rfl⟩
      exact ⟨⟨""⟩, fun _ _ => rfl⟩
  | burned _ _ burns =>
      rcases burns with ⟨_, _, _, _, -, -, -, -, rfl⟩
      exact ⟨⟨""⟩, fun _ _ => rfl⟩
  | migrated migrated =>
      simp only [migrate, Storage.setPauser, bind_eq_ok, mapError_eq_ok, pure_eq_ok,
        Prod.mk.injEq] at migrated
      rcases migrated with ⟨_, -, _, ⟨_, -, rfl⟩, rfl, -⟩
      exact ⟨⟨""⟩, fun _ _ => rfl⟩

end Deployment

namespace Network

variable {ι : Type} {network : Network ι} {state : State ι} {here : ι} {after : World Ledger}

/-! ## Careful users -/

/-- The message destroys no NFT and gives none to the bridge, except by sending it to somebody
who is no bridge. -/
def CarefulMsg (network : Network ι) (here : ι) : Cw721ExecuteMsg → Prop
  | .sendNft _ _ request =>
      ∀ wish there far, (network.deployment here).api.ibcOutgoing.fromBinary request = .ok wish →
        network.peer here wish.channelId = some (there, far) →
        wish.receiver ≠ (network.deployment there).bridge.addr
  | msg => msg.Spares (network.deployment here).bridge

/-- What happens is no user's carelessness. -/
def CarefulLabel (network : Network ι) : Label ι → Prop
  | .execute chain _ (.execute _ (.cw721 msg)) => network.CarefulMsg chain msg
  | _ => True

/-- The packet is not from or for a bridge. -/
def ForUsers (network : Network ι) (here : ι) (packet : IbcPacket) : Prop :=
  ∀ data tokenId, (network.deployment here).Posted packet data tokenId →
    data.sender ≠ (network.deployment here).bridge.addr ∧
    ∀ there far, network.peer here packet.src.channelId = some (there, far) →
      data.receiver ≠ (network.deployment there).bridge.addr

/-- What an account does carefully. -/
theorem executed_carefully {codeId : Nat} {sender : Addr} {msg : WasmMsg}
    (orderly : (network.deployment here).Orderly codeId (state.worlds here))
    (extended : Extends (state.worlds here).storage after.storage)
    (account : sender ≠ (network.deployment here).bridge)
    (noContract : (state.worlds here).contracts.infoAt (network.deployment here).api sender =
      none)
    (careful : network.CarefulLabel (.execute here sender msg))
    (executed : (network.deployment here).Executed sender (state.worlds here) msg after) :
    (after.commitments = (state.worlds here).commitments ∧
        Ledger.Spared (network.deployment here).bridge (fun _ => False)
          ((state.worlds here).contracts.nfts (network.deployment here).api)
          (after.contracts.nfts (network.deployment here).api)) ∨
      ∃ contract wish packet data tokenId,
        (network.deployment here).SentFor (state.worlds here) after sender contract wish packet
          data tokenId ∧
        network.ForUsers here packet := by
  have registry : ∀ classId : ClassId, '/' ∈ classId.id.toList →
      after.storage.classIdToNftContract classId =
        (state.worlds here).storage.classIdToNftContract classId := by
    intro classId voucher
    exact executed.registry orderly.toHeld orderly.noProxy noContract voucher
  cases executed with
  | @called contract msg ledger different call silent =>
      left
      refine ⟨rfl, ?_⟩
      have spares : msg.Spares (network.deployment here).bridge := by
        cases msg with
        | sendNft => cases silent
        | _ => exact careful
      exact Ledger.spared_of_call spares silent call
  | instantiated instantiation =>
      left
      refine ⟨rfl, ?_⟩
      rcases Deployment.instantiate_eq_ok instantiation with ⟨-, -, -, nfts, -⟩
      simp only [nfts]
      exact .refl _ _ _
  | @sent contract tokenId request ledger after _ call _ _ sends =>
      right
      rcases orderly.sent_for registry extended account call sends with
        ⟨packet, data, wish, decoded, sent⟩
      refine ⟨contract, wish, packet, data, tokenId, sent, ?_⟩
      intro read other posted
      have same : data = read := Except.ok.inj (sent.decoded.symm.trans posted.decoded)
      subst same
      constructor
      · intro isBridge
        rw [sent.sender] at isBridge
        apply account
        cases sender
        exact congrArg Addr.mk isBridge
      · intro there far opened
        rw [sent.receiver]
        rw [sent.channelId] at opened
        exact careful wish there far decoded opened
  | forwarded named _ allowed sends =>
      exact absurd sends (Deployment.Executed.no_forward noContract orderly.noProxy named allowed)
  | paused pause =>
      simp only [Storage.pause, bind_eq_ok, ite_error_eq_ok, pure_eq_ok] at pause
      rcases pause with ⟨-, -, -, rfl⟩
      exact .inl ⟨rfl, .refl _ _ _⟩

/-- What one chain does carefully, other than receiving packets. -/
inductive Carefully (network : Network ι) (state : State ι) (here : ι) (after : World Ledger) :
    Prop where
  | idle (commitments : after.commitments = (state.worlds here).commitments)
      (spared : Ledger.Spared (network.deployment here).bridge (fun _ => False)
        ((state.worlds here).contracts.nfts (network.deployment here).api)
        (after.contracts.nfts (network.deployment here).api))
  | sent {sender contract : Addr} {wish : IbcOutgoingMsg} {packet : IbcPacket}
      {data : NonFungibleTokenPacketData} {tokenId : TokenId}
      (sent : (network.deployment here).SentFor (state.worlds here) after sender contract wish
        packet data tokenId)
      (users : network.ForUsers here packet)
  | refunded {packet : IbcPacket} {data : NonFungibleTokenPacketData} {tokenId : TokenId}
      (posted : (network.deployment here).Posted packet data tokenId)
      (users : data.sender ≠ (network.deployment here).bridge.addr)
      (refunds : (network.deployment here).Refunds packet (state.worlds here) after)
  | burned {packet : IbcPacket} {data : NonFungibleTokenPacketData} {tokenId : TokenId}
      (posted : (network.deployment here).Posted packet data tokenId)
      (pending : packet ∈ (state.worlds here).commitments)
      (arrived : (network.view state).receipt here packet = some true)
      (burns : (network.deployment here).Burns packet (state.worlds here) after)

/-- A step of one chain, as IBC core permits it. -/
theorem stepped_carefully {codeId : Nat} {label : Chain.Label} (linked : network.Linked state)
    (users : ∀ packet ∈ (state.worlds here).commitments, network.ForUsers here packet)
    (orderly : (network.deployment here).Orderly codeId (state.worlds here))
    (extended : Extends (state.worlds here).storage after.storage)
    (careful : ∀ sender msg, label = .execute sender msg →
      network.CarefulLabel (.execute here sender msg))
    (notReceived : ∀ packet, label ≠ .receive packet)
    (acked : ∀ packet ack, label = .ack packet ack → state.acks here packet = some ack)
    (stepped : (network.deployment here).Stepped (state.worlds here) label after) :
    network.Carefully state here after := by
  cases stepped with
  | stayed => exact .idle rfl (.refl _ _ _)
  | executed account noContract executed =>
      rcases executed_carefully orderly extended account noContract (careful _ _ rfl)
        executed with ⟨commitments, spared⟩ | ⟨_, _, _, _, _, sent, forUsers⟩
      · exact .idle commitments spared
      · exact .sent sent forUsers
  | received => exact absurd rfl (notReceived _)
  | failed => exact absurd rfl (notReceived _)
  | @refunded _ packet _ _ pending refunds =>
      rcases linked.posted here packet pending with ⟨data, tokenId, posted⟩
      exact .refunded posted (users packet pending data tokenId posted).1 refunds
  | @burned packet ack _ pending success burns =>
      rcases linked.posted here packet pending with ⟨data, tokenId, posted⟩
      apply Carefully.burned posted pending _ burns
      simp [view, acked packet ack rfl, success]
  | migrated migrated =>
      simp only [migrate, Storage.setPauser, bind_eq_ok, mapError_eq_ok, pure_eq_ok,
        Prod.mk.injEq] at migrated
      rcases migrated with ⟨_, -, _, ⟨_, -, rfl⟩, rfl, -⟩
      exact .idle rfl (.refl _ _ _)

namespace Carefully

theorem tracked (carefully : network.Carefully state here after)
    (tracked : (network.deployment here).Tracked (state.worlds here))
    (extended : Extends (state.worlds here).storage after.storage) :
    (network.deployment here).Tracked after := by
  cases carefully with
  | idle _ spared =>
      apply tracked.of_gained extended
      intro key token present owned
      exact .inr ((spared.gained present owned).resolve_left id)
  | sent sent =>
      apply tracked.of_gained extended
      intro key token present owned
      rcases sent.spared.gained present owned with got | earlier
      · rw [got]
        exact .inl ⟨_, sent.registered⟩
      · exact .inr earlier
  | refunded posted users refunds =>
      apply tracked.of_gained extended
      intro key token present owned
      rcases refunds with ⟨read, contract, ledger, decoded, -, -, called, rfl⟩
      rw [posted.decoded] at decoded
      cases decoded
      have spared : Ledger.Spared (network.deployment here).bridge (fun _ => False)
          ((state.worlds here).contracts.nfts (network.deployment here).api)
          (ledger.nfts (network.deployment here).api) :=
        (Ledger.moved_of_callAll called).spared users
      exact .inr ((spared.gained present owned).resolve_left id)
  | burned posted pending arrived burns =>
      apply tracked.of_gained extended
      intro key token present owned
      rcases burns with ⟨_, contract, tokens, ledger, -, -, -, called, rfl⟩
      have burning := Ledger.burned_of_callAll called
      right
      by_cases touched : key.1 = contract ∧ key.2 ∈ tokens
      · rcases touched with ⟨rfl, member⟩
        rcases burning.burned key.2 member with ⟨_, _, -, -, -, gone⟩
        rw [gone] at present
        cases present
      · rw [burning.kept key fun same member => touched ⟨same, member⟩] at present
        exact ⟨token, present, owned⟩

theorem users (carefully : network.Carefully state here after)
    (users : ∀ packet ∈ (state.worlds here).commitments, network.ForUsers here packet) :
    ∀ packet ∈ after.commitments, network.ForUsers here packet := by
  intro packet member
  cases carefully with
  | idle commitments =>
      rw [commitments] at member
      exact users packet member
  | sent sent forUsers =>
      rw [sent.commitments, List.mem_append, List.mem_singleton] at member
      rcases member with old | rfl
      · exact users packet old
      · exact forUsers
  | refunded _ _ refunds =>
      rcases refunds with ⟨_, _, _, -, -, -, -, rfl⟩
      exact users packet (List.mem_of_mem_erase member)
  | burned _ _ _ burns =>
      rcases burns with ⟨_, _, _, _, -, -, -, -, rfl⟩
      exact users packet (List.mem_of_mem_erase member)

end Carefully

/-! ## Steps lose nothing -/

variable [DecidableEq ι]

/-- One chain takes a step other than a delivery. -/
theorem careful_update
    (kept : ∀ {classId tokenId},
      (network.deployment here).holder (state.worlds here) classId tokenId ≠ none →
      (network.deployment here).holder after classId tokenId = none →
      ∃ packet ∈ (state.worlds here).commitments, network.vouchers.cls packet = classId ∧
        network.vouchers.token packet = tokenId ∧
        (state.worlds here).storage.incomingClassTokenToChannel (classId, tokenId) =
          some packet.src.channelId ∧
        (network.view state).receipt here packet = some true)
    (locked : ∀ {classId tokenId},
      (network.deployment here).holder after classId tokenId = some .escrow →
      (network.deployment here).holder (state.worlds here) classId tokenId ≠ some .escrow →
      ∃ packet ∈ after.commitments, packet ∉ (state.worlds here).commitments ∧
        network.vouchers.cls packet = classId ∧ network.vouchers.token packet = tokenId)
    (fresh : ∀ packet ∈ after.commitments, packet ∉ (state.worlds here).commitments →
      state.acks here packet = none)
    (refunded : ∀ packet ∈ (state.worlds here).commitments,
      (network.view state).receipt here packet ≠ some true → packet ∉ after.commitments →
      (network.deployment here).holder after (network.vouchers.cls packet)
        (network.vouchers.token packet) ≠ some .escrow) :
    network.vouchers.Careful (network.view state)
      (network.view ⟨Function.update state.worlds here after, state.acks⟩) := by
  constructor
  · intro chain classId tokenId present gone
    by_cases same : chain = here
    · subst same
      simp only [view, Function.update_self] at present gone
      exact kept present gone
    · simp only [view, Function.update_of_ne same] at present gone
      exact absurd gone present
  · intro chain classId tokenId escrow free
    by_cases same : chain = here
    · subst same
      simp only [view, Function.update_self] at escrow free ⊢
      exact locked escrow free
    · simp only [view, Function.update_of_ne same] at escrow free
      exact absurd escrow free
  · intro chain packet pending new
    by_cases same : chain = here
    · subst same
      simp only [view, Function.update_self] at pending new ⊢
      rw [fresh packet pending new]
      rfl
    · simp only [view, Function.update_of_ne same] at pending new
      exact absurd pending new
  · intro chain there packet far source unreceived arrived
    rw [show (network.view ⟨Function.update state.worlds here after, state.acks⟩).receipt =
      (network.view state).receipt from rfl, unreceived] at arrived
    cases arrived
  · intro chain there packet far unreceived arrived
    rw [show (network.view ⟨Function.update state.worlds here after, state.acks⟩).receipt =
      (network.view state).receipt from rfl, unreceived] at arrived
    cases arrived
  · intro chain packet pending failed settled
    by_cases same : chain = here
    · subst same
      simp only [view, Function.update_self] at settled ⊢
      exact refunded packet pending failed settled
    · simp only [view, Function.update_of_ne same] at settled
      exact absurd pending settled

/-- A step that concerns no packet. -/
theorem careful_idle {codeId : Nat}
    (tracked : (network.deployment here).Tracked (state.worlds here))
    (heldAfter : (network.deployment here).Held codeId after)
    (extended : Extends (state.worlds here).storage after.storage)
    (commitments : after.commitments = (state.worlds here).commitments)
    (spared : Ledger.Spared (network.deployment here).bridge (fun _ => False)
      ((state.worlds here).contracts.nfts (network.deployment here).api)
      (after.contracts.nfts (network.deployment here).api)) :
    network.vouchers.Careful (network.view state)
      (network.view ⟨Function.update state.worlds here after, state.acks⟩) := by
  apply careful_update
  · intro classId tokenId present gone
    exact absurd gone (Deployment.holder_kept extended spared present)
  · intro classId tokenId escrow free
    rcases tracked.locked heldAfter extended spared escrow free with ⟨_, -, impossible⟩
    exact impossible.elim
  · intro packet pending new
    rw [commitments] at pending
    exact absurd pending new
  · intro packet pending _ settled
    rw [commitments] at settled
    exact absurd pending settled

theorem careful_sent {codeId : Nat} {sender contract : Addr} {wish : IbcOutgoingMsg}
    {packet : IbcPacket} {data : NonFungibleTokenPacketData} {tokenId : TokenId}
    (linked : network.Linked state)
    (tracked : (network.deployment here).Tracked (state.worlds here))
    (heldAfter : (network.deployment here).Held codeId after)
    (extended : Extends (state.worlds here).storage after.storage)
    (sent : (network.deployment here).SentFor (state.worlds here) after sender contract wish
      packet data tokenId) :
    network.vouchers.Careful (network.view state)
      (network.view ⟨Function.update state.worlds here after, state.acks⟩) := by
  have new : packet ∉ (state.worlds here).commitments := by
    intro member
    have earlier := linked.numbered here packet member
    rw [sent.sequence] at earlier
    exact Nat.lt_irrefl _ earlier
  apply careful_update
  · intro classId other present gone
    exact absurd gone (Deployment.holder_kept extended sent.spared present)
  · intro classId other escrow free
    rcases tracked.locked heldAfter extended sent.spared escrow free with
      ⟨found, registered, got⟩
    cases got
    have same := heldAfter.sound.registry.contract_inj registered sent.registered
    refine ⟨packet, ?_, new, sent.toPosted.cls.trans same.symm, sent.toPosted.token⟩
    simp [sent.commitments]
  · intro other pending notOld
    rw [sent.commitments, List.mem_append, List.mem_singleton] at pending
    rcases pending with old | rfl
    · exact absurd old notOld
    · by_contra acked
      have earlier := linked.received here _ acked
      rw [sent.sequence] at earlier
      exact Nat.lt_irrefl _ earlier
  · intro other pending _ settled
    rw [sent.commitments] at settled
    exact absurd (List.mem_append_left _ pending) settled

theorem careful_refunded {codeId : Nat} {packet : IbcPacket}
    {data : NonFungibleTokenPacketData} {tokenId : TokenId}
    (tracked : (network.deployment here).Tracked (state.worlds here))
    (heldAfter : (network.deployment here).Held codeId after)
    (extended : Extends (state.worlds here).storage after.storage)
    (posted : (network.deployment here).Posted packet data tokenId)
    (users : data.sender ≠ (network.deployment here).bridge.addr)
    (refunds : (network.deployment here).Refunds packet (state.worlds here) after) :
    network.vouchers.Careful (network.view state)
      (network.view ⟨Function.update state.worlds here after, state.acks⟩) := by
  rcases refunds with ⟨read, contract, ledger, decoded, known, -, called, rfl⟩
  rw [posted.decoded] at decoded
  cases decoded
  have moves := Ledger.moved_of_callAll called
  have spared : Ledger.Spared (network.deployment here).bridge (fun _ => False)
      ((state.worlds here).contracts.nfts (network.deployment here).api)
      (ledger.nfts (network.deployment here).api) := moves.spared users
  apply careful_update
  · intro classId other present gone
    exact absurd gone (Deployment.holder_kept extended spared present)
  · intro classId other escrow free
    rcases tracked.locked heldAfter extended spared escrow free with ⟨_, -, impossible⟩
    exact impossible.elim
  · intro other pending new
    exact absurd (List.mem_of_mem_erase pending) new
  · intro other pending _ settled
    have same : other = packet := by
      by_contra different
      exact settled ((List.mem_erase_of_ne different).mpr pending)
    subst same
    rw [posted.cls, posted.token]
    intro escrow
    rcases Deployment.holder_eq_escrow.mp escrow with ⟨found, token, registered, present, owned⟩
    have sameContract : found = contract := Option.some.inj (registered.symm.trans known)
    subst sameContract
    rcases moves.moved tokenId (by rw [posted.single]; exact List.mem_singleton.mpr rfl) with
      ⟨_, _, -, -, -, final⟩
    rw [final] at present
    cases present
    exact users (congrArg Addr.addr owned)

theorem careful_burned {codeId : Nat} {packet : IbcPacket}
    {data : NonFungibleTokenPacketData} {tokenId : TokenId}
    (held : (network.deployment here).Held codeId (state.worlds here))
    (posted : (network.deployment here).Posted packet data tokenId)
    (pending : packet ∈ (state.worlds here).commitments)
    (arrived : (network.view state).receipt here packet = some true)
    (burns : (network.deployment here).Burns packet (state.worlds here) after) :
    network.vouchers.Careful (network.view state)
      (network.view ⟨Function.update state.worlds here after, state.acks⟩) := by
  -- Only the voucher of the packet is destroyed.
  have others : ∀ classId other, ¬(classId = data.classId ∧ other = tokenId ∧
      (state.worlds here).storage.incomingClassTokenToChannel (classId, other) =
        some packet.src.channelId) →
      (network.deployment here).holder after classId other =
        (network.deployment here).holder (state.worlds here) classId other := by
    intro classId other different
    apply Deployment.Burns.holder held burns
    rw [posted.carries_iff]
    intro burned
    exact different ⟨burned.1.1, burned.1.2, burned.2⟩
  apply careful_update
  · intro classId other present gone
    by_cases burned : classId = data.classId ∧ other = tokenId ∧
        (state.worlds here).storage.incomingClassTokenToChannel (classId, other) =
          some packet.src.channelId
    · rcases burned with ⟨rfl, rfl, came⟩
      exact ⟨packet, pending, posted.cls, posted.token, came, arrived⟩
    · rw [others classId other burned] at gone
      exact absurd gone present
  · intro classId other escrow free
    by_cases burned : classId = data.classId ∧ other = tokenId ∧
        (state.worlds here).storage.incomingClassTokenToChannel (classId, other) =
          some packet.src.channelId
    · rcases burned with ⟨rfl, rfl, came⟩
      rw [burns.gone posted came] at escrow
      cases escrow
    · rw [others classId other burned] at escrow
      exact absurd escrow free
  · intro other member new
    rcases burns with ⟨_, _, _, _, -, -, -, -, rfl⟩
    exact absurd (List.mem_of_mem_erase member) new
  · intro other member failed settled
    rcases burns with ⟨_, _, _, _, -, -, -, -, rfl⟩
    have same : other = packet := by
      by_contra different
      exact settled ((List.mem_erase_of_ne different).mpr member)
    rw [same] at failed
    exact absurd arrived failed

theorem Carefully.careful {codeId : Nat} (carefully : network.Carefully state here after)
    (linked : network.Linked state)
    (tracked : (network.deployment here).Tracked (state.worlds here))
    (held : (network.deployment here).Held codeId (state.worlds here))
    (heldAfter : (network.deployment here).Held codeId after)
    (extended : Extends (state.worlds here).storage after.storage) :
    network.vouchers.Careful (network.view state)
      (network.view ⟨Function.update state.worlds here after, state.acks⟩) := by
  cases carefully with
  | idle commitments spared => exact careful_idle tracked heldAfter extended commitments spared
  | sent sent => exact careful_sent linked tracked heldAfter extended sent
  | refunded posted users refunds =>
      exact careful_refunded tracked heldAfter extended posted users refunds
  | burned posted pending arrived burns => exact careful_burned held posted pending arrived burns

/-- A packet that is accepted. -/
theorem careful_accepted {there : ι} {far : String} {codeId : Nat} {packet : IbcPacket}
    {data : NonFungibleTokenPacketData} {tokenId : TokenId} {receiver : Addr}
    (tracked : (network.deployment there).Tracked (state.worlds there))
    (heldAfter : (network.deployment there).Held codeId after)
    (extended : Extends (state.worlds there).storage after.storage)
    (posted : (network.deployment here).Posted packet data tokenId)
    (opened : network.peer here packet.src.channelId = some (there, far))
    (dest : packet.dest = ⟨(network.deployment there).portId, far⟩)
    (valid : data.validate = .ok ()) (other : receiver ≠ (network.deployment there).bridge)
    (received : (network.deployment there).Received packet data receiver (state.worlds there)
      after) (acks : ι → IbcPacket → Option Binary)
    (acked : ∀ chain otherPacket, ¬(chain = here ∧ otherPacket = packet) →
      acks chain otherPacket = state.acks chain otherPacket) :
    network.vouchers.Careful (network.view state)
      (network.view ⟨Function.update state.worlds there after, acks⟩) := by
  have spared : Ledger.Spared (network.deployment there).bridge (fun _ => False)
      ((state.worlds there).contracts.nfts (network.deployment there).api)
      (after.contracts.nfts (network.deployment there).api) := received.spared other
  have pending : (network.view ⟨Function.update state.worlds there after, acks⟩).pending =
      (network.view state).pending := view_pending (by rw [received.same])
  -- The packet is the only one that can arrive.
  have only : ∀ {chain otherPacket}, (network.view state).receipt chain otherPacket = none →
      (network.view ⟨Function.update state.worlds there after, acks⟩).receipt chain otherPacket =
        some true → chain = here ∧ otherPacket = packet := by
    intro chain otherPacket unreceived arrived
    by_contra different
    simp only [view, acked _ _ different] at arrived unreceived
    rw [unreceived] at arrived
    cases arrived
  constructor
  · intro chain classId token present gone
    by_cases same : chain = there
    · subst same
      simp only [view, Function.update_self] at present gone
      exact absurd gone (Deployment.holder_kept extended spared present)
    · simp only [view, Function.update_of_ne same] at present gone
      exact absurd gone present
  · intro chain classId token escrow free
    by_cases same : chain = there
    · subst same
      simp only [view, Function.update_self] at escrow free
      rcases tracked.locked heldAfter extended spared escrow free with ⟨_, -, impossible⟩
      exact impossible.elim
    · simp only [view, Function.update_of_ne same] at escrow free
      exact absurd escrow free
  · intro chain otherPacket isPending new
    rw [pending] at isPending
    exact absurd isPending new
  · intro chain peer otherPacket otherFar source unreceived arrived channel returns sent
    rcases only unreceived arrived with ⟨rfl, rfl⟩
    have sameEnd := channel.symm.trans opened
    cases sameEnd
    rw [posted.cls, posted.voucher_src] at returns
    rw [posted.token] at sent ⊢
    rcases selectActions_single otherPacket valid posted.single (state.worlds there).storage with
      ⟨localClass, returnsLocal, -, selected⟩ | ⟨staying, _, _, -⟩
    · have same := localClass_eq returns
      have sameLocal := localClass_eq returnsLocal
      have redeemed := received.redeemed tokenId (by
        rw [selected]
        exact List.mem_singleton.mpr rfl)
      rcases redeemed with ⟨contract, _, token, known, -, -, -, final⟩
      rw [same] at known
      intro escrow
      simp only [view, Function.update_self] at escrow
      rcases Deployment.holder_eq_escrow.mp escrow with ⟨found, _, registered, present, owned⟩
      rw [extended.contract_kept known] at registered
      cases registered
      rw [final] at present
      cases present
      exact absurd owned other
    · have stays := staying source returns
      rw [dest] at stays
      exact absurd sent stays
  · intro chain peer otherPacket otherFar unreceived arrived channel outward
    rcases only unreceived arrived with ⟨rfl, rfl⟩
    have sameEnd := channel.symm.trans opened
    cases sameEnd
    rw [posted.cls, posted.token, Deployment.Posted.voucher_dest dest]
    rcases selectActions_single otherPacket valid posted.single (state.worlds there).storage with
      ⟨localClass, returns, -, -⟩ | ⟨-, uri, bytes, selected⟩
    · exfalso
      apply outward localClass
      rw [posted.cls, posted.voucher_src]
      exact returns
    · rcases received.created ⟨tokenId, uri, bytes⟩ (by
        rw [selected]
        exact List.mem_singleton.mpr rfl) with ⟨contract, _, known, -, -, unused, minted⟩
      simp only [view, Function.update_self]
      constructor
      · rw [Deployment.holder_eq_none]
        intro earlier registered
        rw [extended.contract_kept registered] at known
        cases known
        exact unused
      · intro gone
        rw [Deployment.holder_eq_none.mp gone contract known] at minted
        cases minted
  · intro chain otherPacket isPending _ settled
    rw [pending] at settled
    exact absurd isPending settled

/-- A packet that is refused. -/
theorem careful_refused {there : ι} {packet : IbcPacket}
    (contracts : after.contracts = (state.worlds there).contracts)
    (registry : after.storage.classIdToNftContract =
      (state.worlds there).storage.classIdToNftContract)
    (commitments : after.commitments = (state.worlds there).commitments)
    (acks : ι → IbcPacket → Option Binary)
    (acked : ∀ chain otherPacket, ¬(chain = here ∧ otherPacket = packet) →
      acks chain otherPacket = state.acks chain otherPacket)
    (refused : (network.view ⟨state.worlds, acks⟩).receipt here packet ≠ some true) :
    network.vouchers.Careful (network.view state)
      (network.view ⟨Function.update state.worlds there after, acks⟩) := by
  have holders : (network.view ⟨Function.update state.worlds there after, acks⟩).holder =
      (network.view state).holder := by
    funext chain classId tokenId
    by_cases same : chain = there
    · subst same
      simp only [view, Function.update_self]
      exact Deployment.holder_congr (congrFun registry classId) fun _ _ => by rw [contracts]
    · simp only [view, Function.update_of_ne same]
  have pending : (network.view ⟨Function.update state.worlds there after, acks⟩).pending =
      (network.view state).pending := view_pending commitments
  have none_arrives : ∀ {chain otherPacket},
      (network.view state).receipt chain otherPacket = none →
      (network.view ⟨Function.update state.worlds there after, acks⟩).receipt chain otherPacket ≠
        some true := by
    intro chain otherPacket unreceived arrived
    by_cases same : chain = here ∧ otherPacket = packet
    · rcases same with ⟨rfl, rfl⟩
      exact refused arrived
    · simp only [view, acked _ _ same] at arrived unreceived
      rw [unreceived] at arrived
      cases arrived
  constructor
  · intro chain classId tokenId present gone
    rw [holders] at gone
    exact absurd gone present
  · intro chain classId tokenId escrow free
    rw [holders] at escrow
    exact absurd escrow free
  · intro chain otherPacket isPending new
    rw [pending] at isPending
    exact absurd isPending new
  · intro chain peer otherPacket otherFar source unreceived arrived
    exact absurd arrived (none_arrives unreceived)
  · intro chain peer otherPacket otherFar unreceived arrived
    exact absurd arrived (none_arrives unreceived)
  · intro chain otherPacket isPending _ settled
    rw [pending] at settled
    exact absurd isPending settled

/-- Whatever becomes of a packet that is delivered. -/
theorem careful_delivered {there : ι} {far : String} {codeId : Nat} {packet : IbcPacket}
    {data : NonFungibleTokenPacketData} {tokenId : TokenId} {ack : Binary}
    (tracked : (network.deployment there).Tracked (state.worlds there))
    (held : (network.deployment there).Held codeId (state.worlds there))
    (heldAfter : (network.deployment there).Held codeId after)
    (extended : Extends (state.worlds there).storage after.storage)
    (posted : (network.deployment here).Posted packet data tokenId)
    (opened : network.peer here packet.src.channelId = some (there, far))
    (dest : packet.dest = ⟨(network.deployment there).portId, far⟩)
    (forUser : data.receiver ≠ (network.deployment there).bridge.addr)
    (received : (network.deployment there).receiveTx (network.deployment there).contracts
      (state.worlds there) packet = .ok (after, ack)) :
    network.vouchers.Careful (network.view state)
        (network.view ⟨Function.update state.worlds there after,
          Function.update state.acks here
            (Function.update (state.acks here) packet (some ack))⟩) ∧
      (network.deployment there).Tracked after := by
  have acked : ∀ chain other, ¬(chain = here ∧ other = packet) →
      Function.update state.acks here (Function.update (state.acks here) packet (some ack))
        chain other = state.acks chain other := by
    intro chain other different
    by_cases same : chain = here
    · subst same
      have notPacket : other ≠ packet := fun equal => different ⟨rfl, equal⟩
      simp [notPacket]
    · simp [same]
  have commitments := Deployment.receiveTx_commitments held received
  have failing : ∀ text, tryGetAckError (network.deployment here).api
      (ackFail (network.deployment there).api text) ≠ none := by
    intro text
    rw [network.tryGetAckError_eq here there, tryGetAckError_ackFail]
    simp
  have same : ∀ {error}, ack = ackFail (network.deployment there).api error →
      (network.view ⟨state.worlds, Function.update state.acks here
        (Function.update (state.acks here) packet (some ack))⟩).receipt here packet ≠
          some true := by
    intro error isFail
    subst isFail
    simpa [view] using failing error
  rcases Deployment.receiveTx_cases (.refl _) held.foreign received with
    ⟨error, -, rfl, isFail⟩ | ⟨read, receiver, checked, ⟨text, isFail, rfl⟩ | ⟨-, applies⟩⟩
  · exact ⟨careful_refused rfl rfl rfl _ acked (same isFail), tracked⟩
  · have folded := sameButTransit_selectFrom packet.dest read.classId
      (tryPopSourcePrefix packet.src read.classId.id) (state.worlds there).storage read.incoming
    rw [← selectActions_eq] at folded
    have contracts : (Deployment.noted (state.worlds there) packet read).contracts =
        (state.worlds there).contracts := rfl
    have registry :
        (Deployment.noted (state.worlds there) packet read).storage.classIdToNftContract =
          (state.worlds there).storage.classIdToNftContract := folded.contracts
    refine ⟨careful_refused contracts registry commitments _ acked (same isFail), ?_⟩
    intro key token present owned
    rw [registry]
    exact tracked key token present owned
  · rcases checkIbcPacket_eq_ok.mp checked with ⟨-, decoded, valid, -, rfl⟩
    rw [posted.decodes there] at decoded
    cases decoded
    have done := Deployment.received_of_applies applies
    have other : (⟨data.receiver⟩ : Addr) ≠ (network.deployment there).bridge :=
      fun isBridge => forUser (congrArg Addr.addr isBridge)
    refine ⟨careful_accepted tracked heldAfter extended posted opened dest valid other done _
      acked, ?_⟩
    apply tracked.of_gained extended
    intro key token present owned
    have spared : Ledger.Spared (network.deployment there).bridge (fun _ => False)
        ((state.worlds there).contracts.nfts (network.deployment there).api)
        (after.contracts.nfts (network.deployment there).api) := done.spared other
    exact .inr ((spared.gained present owned).resolve_left id)

end Network

end Ics721
