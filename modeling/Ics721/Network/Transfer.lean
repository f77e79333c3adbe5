import Ics721.Network.Backed
import Ics721.Network.Chains
import Ics721.Receive.Attributes

/-!
# Transfers

An NFT is sent, its packet is delivered, and the acknowledgement comes back.  Nothing that the
bridge does can make this fail: a voucher that goes back is redeemed and destroyed, and
anything else becomes a voucher at the other end, unless an old voucher for it is still to be
destroyed there.
-/

namespace Ics721

open Library

namespace Deployment

variable {deployment : Deployment} {codeId : Nat} {world after : World Ledger}
variable {classId : ClassId} {tokenId other : TokenId} {packet : IbcPacket}
variable {data : NonFungibleTokenPacketData} {contract receiver : Addr}

/-! ## What is left of a voucher -/

/-- A voucher that left no trace: it does not exist and the bridge remembers nothing of it. -/
structure Gone (deployment : Deployment) (world : World Ledger) (classId : ClassId)
    (tokenId : TokenId) : Prop where
  holder : deployment.holder world classId tokenId = none
  incoming : world.storage.incomingClassTokenToChannel (classId, tokenId) = none
  metadata : world.storage.tokenMetadata (classId, tokenId) = none

/-- An NFT that moves is not the one that does not exist. -/
theorem holder_save {token : TokenInfo}
    (contracts : after.storage.classIdToNftContract classId =
      world.storage.classIdToNftContract classId)
    (present : world.contracts.nfts deployment.api (contract, tokenId) ≠ none)
    (nfts : after.contracts.nfts deployment.api =
      (world.contracts.nfts deployment.api).save (contract, tokenId) token)
    (absent : deployment.holder world classId other = none) :
    deployment.holder after classId other = none := by
  rw [holder_eq_none] at absent ⊢
  intro collection registered
  rw [contracts] at registered
  have missing := absent collection registered
  have different : (collection, other) ≠ (contract, tokenId) := by
    intro same
    rw [← same, missing] at present
    exact present rfl
  rw [nfts, StoreMap.save_of_ne different]
  exact missing

theorem SentAs.gone {wish : IbcOutgoingMsg}
    (sent : deployment.SentAs world after contract wish packet data tokenId)
    (registered : world.storage.classIdToNftContract data.classId = some contract)
    (present : world.contracts.nfts deployment.api (contract, tokenId) ≠ none)
    (gone : deployment.Gone world classId other) : deployment.Gone after classId other where
  holder := by
    rcases sent.nfts with ⟨token, nfts, -⟩
    apply holder_save _ present nfts gone.holder
    by_cases same : classId = data.classId
    · rw [same, sent.registered, registered]
    · exact sent.others classId same
  incoming := by
    rw [sent.incoming]
    exact gone.incoming
  metadata := by
    rw [sent.metadata]
    exact gone.metadata

theorem RedeemedOne.gone {localClass : ClassId}
    (redeemed : deployment.RedeemedOne world after localClass tokenId receiver)
    (gone : deployment.Gone world classId other) : deployment.Gone after classId other where
  holder := by
    rcases redeemed.moved with ⟨contract, before, token, -, present, nfts, -⟩
    apply holder_save _ _ nfts gone.holder
    · rw [redeemed.storage]
    · rw [present]
      simp
  incoming := by
    rw [redeemed.storage]
    exact gone.incoming
  metadata := by
    rw [redeemed.storage]
    exact gone.metadata

/-! ## Acknowledgements -/

/-- The one token of a packet that is back at its source. -/
theorem arrived_single {burned : List TokenId} {storage : Storage}
    (single : data.tokenIds = [tokenId]) (arrived : Arrived storage packet data burned) :
    (storage.incomingClassTokenToChannel (data.classId, tokenId) =
        some packet.src.channelId ∧ burned = [tokenId]) ∨
      (storage.incomingClassTokenToChannel (data.classId, tokenId) ≠
        some packet.src.channelId ∧ burned = []) := by
  have only : ∀ other ∈ burned, other = tokenId := by
    intro other member
    have inPacket := ((arrived.2 other).mp member).1
    rw [single] at inPacket
    exact List.mem_singleton.mp inPacket
  by_cases came : storage.incomingClassTokenToChannel (data.classId, tokenId) =
      some packet.src.channelId
  · left
    refine ⟨came, ?_⟩
    have member : tokenId ∈ burned := by
      rw [arrived.2, single]
      exact ⟨List.mem_singleton.mpr rfl, came⟩
    have count : burned = List.replicate burned.length tokenId :=
      List.eq_replicate_of_mem only
    have once := arrived.1
    rw [count, List.nodup_replicate] at once
    have nonempty := List.length_pos_of_mem member
    have length : burned.length = 1 := by omega
    rw [count, length]
    rfl
  · right
    refine ⟨came, ?_⟩
    apply List.eq_nil_iff_forall_not_mem.mpr
    intro other member
    have same := only other member
    subst same
    exact came ((arrived.2 other).mp member).2

/-- A packet was delivered, and its token is destroyed if it is back at its source. -/
structure Acked (deployment : Deployment) (world after : World Ledger) (packet : IbcPacket)
    (classId : ClassId) (tokenId : TokenId) : Prop where
  commitments : after.commitments = world.commitments.erase packet
  paused : after.storage.paused = world.storage.paused
  contracts : after.storage.classIdToNftContract = world.storage.classIdToNftContract
  gone : ∀ {cls other}, deployment.Gone world cls other → deployment.Gone after cls other
  destroyed : world.storage.incomingClassTokenToChannel (classId, tokenId) =
    some packet.src.channelId → deployment.Gone after classId tokenId

/-- The acknowledgement of a packet that was accepted goes through, if the bridge still holds
what it has to destroy. -/
theorem Held.exists_ack (held : deployment.Held codeId world)
    (posted : deployment.Posted packet data tokenId) (pending : packet ∈ world.commitments)
    (registered : world.storage.classIdToNftContract data.classId = some contract)
    {acknowledgement : Binary}
    (success : tryGetAckError deployment.api acknowledgement = none)
    (escrow : world.storage.incomingClassTokenToChannel (data.classId, tokenId) =
        some packet.src.channelId →
      deployment.holder world data.classId tokenId = some .escrow) :
    ∃ after, deployment.step deployment.contracts world (.ack packet acknowledgement) = after ∧
      deployment.Acked world after packet data.classId tokenId := by
  have burnable : ∀ burned, Arrived world.storage packet data burned →
      ∃ ledger, world.contracts.callAll deployment.api deployment.bridge contract
        (burned.map fun tokenId => .burn tokenId) = .ok ledger := by
    intro burned arrived
    rcases arrived_single posted.single arrived with ⟨came, rfl⟩ | ⟨-, rfl⟩
    · rcases holder_eq_escrow.mp (escrow came) with ⟨collection, token, known, present, owned⟩
      rw [registered] at known
      cases known
      rcases Ledger.exists_burn present owned with ⟨ledger, called⟩
      refine ⟨ledger, ?_⟩
      simp only [Ledger.callAll, List.map_cons, List.map_nil, List.foldlM_cons,
        List.foldlM_nil, bind_eq_ok, pure_eq_ok]
      exact ⟨ledger, called, rfl⟩
    · exact ⟨world.contracts, rfl⟩
  rcases settle_of_burns held.foreign pending posted.decoded registered burnable with
    ⟨after, settled⟩
  have acked : deployment.ackTx deployment.contracts world packet acknowledgement =
      .ok after := by
    simp only [Chain.ackTx, ibcPacketAck, success]
    exact settled
  rcases burns_of_settle (.refl _) held.foreign settled with ⟨-, burns⟩
  rcases burns with ⟨read, collection, burned, ledger, decoded, known, arrived, called, rfl⟩
  rw [posted.decoded] at decoded
  cases decoded
  rw [registered] at known
  cases known
  have reached : deployment.step deployment.contracts world
      (.ack packet acknowledgement) = { world with
        storage := world.storage.clearIncoming data.classId burned
        contracts := ledger
        commitments := world.commitments.erase packet } := by
    simp only [Chain.step, Chain.transaction, acked]
  refine ⟨_, reached, rfl, rfl, rfl, ?_, ?_⟩
  · intro cls other gone
    have burning := Ledger.burned_of_callAll called
    constructor
    · have absent := gone.holder
      rw [holder_eq_none] at absent ⊢
      intro query known
      have missing := absent query known
      by_cases touched : query = contract ∧ other ∈ burned
      · rcases touched with ⟨rfl, member⟩
        rcases burning.burned other member with ⟨_, _, -, -, -, final⟩
        exact final
      · have untouched : (query, other).1 = contract → (query, other).2 ∉ burned :=
          fun same member => touched ⟨same, member⟩
        exact (burning.kept (query, other) untouched).trans missing
    · rcases arrived_single posted.single arrived with ⟨-, rfl⟩ | ⟨-, rfl⟩
      · exact StoreMap.remove_eq_none gone.incoming
      · exact gone.incoming
    · rcases arrived_single posted.single arrived with ⟨-, rfl⟩ | ⟨-, rfl⟩
      · exact StoreMap.remove_eq_none gone.metadata
      · exact gone.metadata
  · intro came
    rcases arrived_single posted.single arrived with ⟨-, rfl⟩ | ⟨stays, -⟩
    · rcases (Ledger.burned_of_callAll called).burned tokenId (List.mem_singleton.mpr rfl) with
        ⟨_, _, -, -, -, final⟩
      constructor
      · rw [holder_eq_none]
        intro query known
        have same : query = contract := Option.some.inj (known.symm.trans registered)
        rw [same]
        exact final
      · exact StoreMap.remove_self _ _
      · exact StoreMap.remove_self _ _
    · exact absurd came stays

end Deployment

namespace Network

variable {ι : Type} {network : Network ι} {state after final : State ι} {here there : ι}
variable {sender contract : Addr} {tokenId : TokenId} {wish : IbcOutgoingMsg}
variable {packet : IbcPacket} {data : NonFungibleTokenPacketData} {far : String}

/-! ## What is sent -/

/-- An account is about to send an NFT to somebody at the other end of a channel, with no memo or
one that the host accepts there, and neither bridge is paused. -/
structure Sendable (network : Network ι) (state : State ι) (here there : ι) (far : String)
    (sender contract : Addr) (tokenId : TokenId) (wish : IbcOutgoingMsg) : Prop where
  opened : network.peer here wish.channelId = some (there, far)
  running : (state.worlds here).storage.paused = false
  runningThere : (state.worlds there).storage.paused = false
  account : (network.deployment here).Account (state.worlds here) sender
  owned : ∃ token, (state.worlds here).contracts.nfts (network.deployment here).api
    (contract, tokenId) = some token ∧ token.owner = sender
  receiver : (network.deployment there).api.addrValid wish.receiver = true
  memo : MemoAdmitted wish.memo

/-- What a transfer leaves alone on all chains. -/
structure Quiet (state after : State ι) : Prop where
  commitments : ∀ chain,
    (after.worlds chain).commitments = (state.worlds chain).commitments
  paused : ∀ chain, (after.worlds chain).storage.paused = (state.worlds chain).storage.paused

/-- Somebody at a chain has an NFT of a class. -/
def Owns (network : Network ι) (state : State ι) (chain : ι) (classId : ClassId)
    (contract : Addr) (tokenId : TokenId) (owner : Addr) : Prop :=
  (state.worlds chain).storage.classIdToNftContract classId = some contract ∧
    ∃ token, (state.worlds chain).contracts.nfts (network.deployment chain).api
      (contract, tokenId) = some token ∧ token.owner = owner

/-- The packet that is sent, and what the other end makes of it. -/
structure Underway (network : Network ι) (state : State ι) (here there : ι) (far : String)
    (sender contract : Addr) (tokenId : TokenId) (wish : IbcOutgoingMsg) (world : World Ledger)
    (packet : IbcPacket) (data : NonFungibleTokenPacketData) : Prop where
  reached : (network.deployment here).step (network.deployment here).contracts
    (state.worlds here)
    (.execute sender ((network.deployment here).sendMsg contract tokenId wish)) = world
  sent : (network.deployment here).SentAs (state.worlds here) world contract wish packet data
    tokenId
  dest : packet.dest = ⟨(network.deployment there).portId, far⟩
  checked : checkIbcPacket (network.deployment there).api (state.worlds there).storage packet =
    .ok (data, ⟨wish.receiver⟩)

theorem Secured.exists_underway (secured : network.Secured state)
    (sendable : network.Sendable state here there far sender contract tokenId wish) :
    ∃ world packet data,
      network.Underway state here there far sender contract tokenId wish world packet data := by
  rcases secured.orderly here with ⟨codeId, orderly⟩
  rcases sendable.owned with ⟨token, present, owned⟩
  have opened : (network.deployment here).counterparty wish.channelId =
      some ⟨(network.deployment there).portId, far⟩ := by
    rw [network.counterparty, sendable.opened]
    rfl
  have deep : 2 ≤ (network.deployment here).depth :=
    Nat.le_of_succ_le (network.deep here)
  rcases orderly.exists_send deep sendable.running sendable.account present owned opened with
    ⟨world, packet, data, reached, sent⟩
  have dest := sent.dest
  rw [sent.channelId, opened] at dest
  refine ⟨world, packet, data, reached, sent, (Option.some.inj dest).symm, ?_⟩
  rw [checkIbcPacket_eq_ok]
  refine ⟨sendable.runningThere, sent.toPosted.decodes there, sent.valid, ?_, ?_⟩
  · rw [sent.receiver]
    exact sendable.receiver
  · rw [sent.receiver]

/-- The class that the packet names, as the two ends read it. -/
theorem Underway.src {world : World Ledger}
    (underway : network.Underway state here there far sender contract tokenId wish world packet
      data) : packet.src = ⟨(network.deployment here).portId, wish.channelId⟩ := by
  rw [← underway.sent.port, ← underway.sent.channelId]

/-- The chain that sent the packet can destroy the voucher. -/
theorem Underway.exists_ack {world : World Ledger} (secured : network.Secured state)
    (underway : network.Underway state here there far sender contract tokenId wish world packet
      data) :
    ∃ settled, (network.deployment here).step (network.deployment here).contracts world
        (.ack packet (ackSuccess (network.deployment here).api)) = settled ∧
      (network.deployment here).Acked world settled packet data.classId tokenId := by
  rcases secured.orderly here with ⟨codeId, orderly⟩
  have held := orderly.toHeld.step (.of _
    (.execute sender ((network.deployment here).sendMsg contract tokenId wish)))
  simp only [Deployment.happen, Deployment.Event.of, underway.reached] at held
  have pending : packet ∈ world.commitments := by
    rw [underway.sent.commitments]
    exact List.mem_append_right _ (List.mem_singleton.mpr rfl)
  exact held.exists_ack underway.sent.toPosted pending underway.sent.registered
    (tryGetAckError_ackSuccess _) fun _ => underway.sent.locked

/-- The class of a voucher is registered. -/
theorem Secured.registered_of_slash (secured : network.Secured state) {token : TokenInfo}
    (present : (state.worlds here).contracts.nfts (network.deployment here).api
      (contract, tokenId) = some token)
    (slash : '/' ∈ ((state.worlds here).storage.classOf contract).id.toList) :
    (state.worlds here).storage.classIdToNftContract
      ((state.worlds here).storage.classOf contract) = some contract := by
  rcases secured.orderly here with ⟨codeId, orderly⟩
  cases entry : (state.worlds here).storage.nftContractToClassId contract with
  | some classId =>
      simp only [Storage.classOf, entry, Option.getD_some]
      exact (orderly.sound.registry.inverse classId contract).mpr entry
  | none =>
      simp only [Storage.classOf, entry, Option.getD_none] at slash
      rcases Ledger.nfts_eq_some.mp present with ⟨collection, found, -⟩
      exact absurd slash ((network.deployment here).api.valid_no_slash _
        (Ledger.contractAt_eq_some.mp found).1)

/-- The voucher for an NFT in the hands of a user does not exist, unless it is on its way back
and still has to be destroyed. -/
theorem Secured.voucher_absent (secured : network.Secured state) {channelId : String}
    (opened : network.peer here channelId = some (there, far))
    (live : network.LiveAt state tokenId (here, (state.worlds here).storage.classOf contract))
    (settled : ∀ packet ∈ (state.worlds there).commitments,
      ¬Carries (network.deployment there).api packet
        (voucherClassId ⟨(network.deployment there).portId, far⟩
          ((state.worlds here).storage.classOf contract)) tokenId) :
    (network.deployment there).holder (state.worlds there)
      (voucherClassId ⟨(network.deployment there).portId, far⟩
        ((state.worlds here).storage.classOf contract)) tokenId = none := by
  have unlocked : (network.view state).holder here
      ((state.worlds here).storage.classOf contract) tokenId ≠ some .escrow := by
    rcases secured.live_cases live with held | ⟨-, absent⟩
    · rw [held]
      simp
    · rw [absent]
      simp
  by_contra present
  rcases secured.backing.backed (network.peer_symm opened) present with backs | returning
  · exact unlocked backs.held
  · rcases returning.accepted with ⟨packet, pending, sameCls, sameToken, -⟩
    rcases secured.posted there packet pending with ⟨data, other, posted⟩
    rw [posted.cls] at sameCls
    rw [posted.token] at sameToken
    exact settled packet pending (posted.carries_iff.mpr ⟨sameCls.symm, sameToken.symm⟩)

/-! ## Transfers -/

variable [DecidableEq ι]

/-- An NFT is sent, and its packet is delivered and acknowledged with success.  There is no
result if any of this fails. -/
def transfer (network : Network ι) (state : State ι) (here : ι) (sender contract : Addr)
    (tokenId : TokenId) (wish : IbcOutgoingMsg) : Option (State ι) :=
  let sent := network.step state
    (.execute here sender ((network.deployment here).sendMsg contract tokenId wish))
  match (sent.worlds here).commitments.drop (state.worlds here).commitments.length with
  | [packet] =>
      let delivered := network.step sent (.deliver here packet)
      let settled := network.step delivered (.acknowledge here packet)
      if delivered.acks here packet = some (ackSuccess (network.deployment here).api) ∧
          packet ∉ (settled.worlds here).commitments then
        some settled
      else
        none
  | _ => none

/-- A transfer is three steps of the network. -/
theorem transfer_steps
    (done : network.transfer state here sender contract tokenId wish = some after) :
    ∃ labels : List (Label ι), after = labels.foldl network.step state := by
  unfold transfer at done
  dsimp only at done
  split at done
  next packet _ =>
    split at done
    next =>
      cases done
      exact ⟨[.execute here sender _, .deliver here packet, .acknowledge here packet], rfl⟩
    next => cases done
  next => cases done

/-- What is sent is received and settled. -/
theorem Underway.transfer {world other settled : World Ledger} (secured : network.Secured state)
    (sendable : network.Sendable state here there far sender contract tokenId wish)
    (underway : network.Underway state here there far sender contract tokenId wish world packet
      data)
    (received : (network.deployment there).receiveTx (network.deployment there).contracts
      (state.worlds there) packet = .ok (other, ackSuccess (network.deployment there).api))
    (acked : (network.deployment here).step (network.deployment here).contracts world
      (.ack packet (ackSuccess (network.deployment here).api)) = settled)
    (erased : settled.commitments = world.commitments.erase packet)
    (kept : other.commitments = (state.worlds there).commitments)
    (paused : other.storage.paused = (state.worlds there).storage.paused)
    (pausedHere : settled.storage.paused = world.storage.paused) :
    ∃ final, network.transfer state here sender contract tokenId wish = some final ∧
      final.worlds here = settled ∧ final.worlds there = other ∧
      (∀ chain, chain ≠ here → chain ≠ there → final.worlds chain = state.worlds chain) ∧
      Quiet state final := by
  have sent := underway.sent
  have different : there ≠ here := network.peer_ne sendable.opened
  have pending : packet ∈ world.commitments := by
    rw [sent.commitments]
    exact List.mem_append_right _ (List.mem_singleton.mpr rfl)
  have absent : packet ∉ (state.worlds here).commitments := by
    intro member
    have earlier := secured.numbered here packet member
    rw [sent.sequence] at earlier
    exact Nat.lt_irrefl _ earlier
  have unreceived : state.acks here packet = none := by
    by_contra present
    have earlier := secured.received here packet present
    rw [sent.sequence] at earlier
    exact Nat.lt_irrefl _ earlier
  have success : ackSuccess (network.deployment there).api =
      ackSuccess (network.deployment here).api := by
    simp only [ackSuccess, network.speaks]
  have restored : world.commitments.erase packet = (state.worlds here).commitments := by
    rw [sent.commitments, List.erase_append_right _ absent]
    simp
  have opened : network.peer here packet.src.channelId = some (there, far) := by
    rw [sent.channelId]
    exact sendable.opened
  -- The three states that the transfer goes through.
  have first : network.step state
      (.execute here sender ((network.deployment here).sendMsg contract tokenId wish)) =
        ⟨Function.update state.worlds here world, state.acks⟩ := by
    simp only [Network.step, act, underway.reached]
  have second : network.step ⟨Function.update state.worlds here world, state.acks⟩
      (.deliver here packet) =
        ⟨Function.update (Function.update state.worlds here world) there other,
          Function.update state.acks here (Function.update (state.acks here) packet
            (some (ackSuccess (network.deployment here).api)))⟩ := by
    simp only [Network.step, deliver, Function.update_self, pending, unreceived, and_self,
      if_true, opened, Function.update_of_ne different, received, success]
  have third : network.step
      ⟨Function.update (Function.update state.worlds here world) there other,
        Function.update state.acks here (Function.update (state.acks here) packet
          (some (ackSuccess (network.deployment here).api)))⟩
      (.acknowledge here packet) =
        ⟨Function.update (Function.update (Function.update state.worlds here world) there other)
          here settled, Function.update state.acks here (Function.update (state.acks here)
            packet (some (ackSuccess (network.deployment here).api)))⟩ := by
    simp only [Network.step, Function.update_self, act, Function.update_of_ne different.symm,
      acked]
  have moved : network.transfer state here sender contract tokenId wish =
      some ⟨Function.update (Function.update (Function.update state.worlds here world) there
        other) here settled, Function.update state.acks here (Function.update (state.acks here)
          packet (some (ackSuccess (network.deployment here).api)))⟩ := by
    have left : packet ∉ settled.commitments := by
      rw [erased, restored]
      exact absent
    unfold Network.transfer
    simp only [first, Function.update_self, sent.commitments, List.drop_left, second, third,
      left, not_false_eq_true, and_self, if_true]
  refine ⟨_, moved, ?_, ?_, ?_, ?_⟩
  · simp only [Function.update_self]
  · simp only [Function.update_of_ne different, Function.update_self]
  · intro chain notHere notThere
    simp only [Function.update_of_ne notHere, Function.update_of_ne notThere]
  · constructor
    · intro chain
      by_cases same : chain = here
      · subst same
        simp only [Function.update_self]
        exact erased.trans restored
      · by_cases isThere : chain = there
        · subst isThere
          simp only [Function.update_of_ne same, Function.update_self]
          exact kept
        · simp only [Function.update_of_ne same, Function.update_of_ne isThere]
    · intro chain
      by_cases same : chain = here
      · subst same
        simp only [Function.update_self]
        exact pausedHere.trans sent.paused
      · by_cases isThere : chain = there
        · subst isThere
          simp only [Function.update_of_ne same, Function.update_self]
          exact paused
        · simp only [Function.update_of_ne same, Function.update_of_ne isThere]

/-- What does not go back where it came from becomes a voucher at the other end. -/
theorem Secured.transfer_out (secured : network.Secured state)
    (sendable : network.Sendable state here there far sender contract tokenId wish)
    (onward : ∀ source, (state.worlds here).storage.classOf contract ≠
      voucherClassId ⟨(network.deployment here).portId, wish.channelId⟩ source)
    (unused : (network.deployment there).holder (state.worlds there)
      (voucherClassId ⟨(network.deployment there).portId, far⟩
        ((state.worlds here).storage.classOf contract)) tokenId = none) :
    ∃ final collection,
      network.transfer state here sender contract tokenId wish = some final ∧
      Quiet state final ∧
      (final.worlds here).storage.classIdToNftContract
        ((state.worlds here).storage.classOf contract) = some contract ∧
      network.Owns final there (voucherClassId ⟨(network.deployment there).portId, far⟩
        ((state.worlds here).storage.classOf contract)) collection tokenId ⟨wish.receiver⟩ := by
  rcases secured.exists_underway sendable with ⟨world, packet, data, underway⟩
  have sent := underway.sent
  rcases secured.orderly there with ⟨codeId, orderly⟩
  rw [← sent.classId, ← underway.dest] at unused
  rcases selectActions_single packet sent.valid sent.single (state.worlds there).storage with
    ⟨localClass, returns, -⟩ | ⟨-, uri, bytes, selected⟩
  · rw [sent.classId, underway.src] at returns
    exact absurd returns (onward localClass)
  · have chosen := congrArg Prod.snd selected
    rcases orderly.receiveTx_creation (network.deep there) underway.checked chosen unused with
      ⟨other, collection, token, done, received, registered, minted, owner⟩
    rcases underway.exists_ack secured with ⟨settled, acked, settles⟩
    have kept : other.commitments = (state.worlds there).commitments := by rw [received.same]
    rcases underway.transfer secured sendable done acked settles.commitments kept
      received.storage.paused settles.paused with ⟨final, moved, atHere, atThere, -, quiet⟩
    refine ⟨final, collection, moved, quiet, ?_, ?_⟩
    · rw [atHere, settles.contracts, ← sent.classId]
      exact sent.registered
    · rw [← sent.classId, ← underway.dest, Owns, atThere]
      exact ⟨registered, token, minted, owner⟩

/-- A voucher that goes back is redeemed and leaves no trace. -/
theorem Secured.transfer_home (secured : network.Secured state)
    (sendable : network.Sendable state here there far sender contract tokenId wish)
    {source : ClassId}
    (returns : (state.worlds here).storage.classOf contract =
      voucherClassId ⟨(network.deployment here).portId, wish.channelId⟩ source) :
    ∃ final origin,
      network.transfer state here sender contract tokenId wish = some final ∧
      Quiet state final ∧ network.Owns final there source origin tokenId ⟨wish.receiver⟩ ∧
      (network.deployment here).Gone (final.worlds here)
        ((state.worlds here).storage.classOf contract) tokenId ∧
      ∀ {chain classId other},
        (network.deployment chain).Gone (state.worlds chain) classId other →
        (network.deployment chain).Gone (final.worlds chain) classId other := by
  rcases secured.exists_underway sendable with ⟨world, packet, data, underway⟩
  have sent := underway.sent
  rcases secured.orderly there with ⟨codeId, orderly⟩
  rcases sendable.owned with ⟨token, present, owned⟩
  have slash : '/' ∈ ((state.worlds here).storage.classOf contract).id.toList := by
    rw [returns]
    exact slash_mem_voucherClassId _ _
  have registered := secured.registered_of_slash present slash
  have outsider : token.owner ≠ (network.deployment here).bridge := by
    rw [owned]
    exact sendable.account.outsider
  have live : VoucherNet.Live (network.view state) tokenId
      (here, (state.worlds here).storage.classOf contract) :=
    Deployment.holder_eq_user.mpr ⟨contract, token, registered, present, outsider⟩
  -- The bridge at the other end holds the token for the channel the voucher came on.
  have channel : network.vouchers.peer
      (here, (state.worlds here).storage.classOf contract).1 wish.channelId =
        some ((there, source).1, far) := sendable.opened
  have backs := secured.backing.backs_of_standsFor channel returns (.inl live)
  have noted : (state.worlds here).storage.incomingClassTokenToChannel
      ((state.worlds here).storage.classOf contract, tokenId) = some wish.channelId := by
    have exists_ : (network.view state).holder here
        (network.vouchers.voucher here wish.channelId source) tokenId ≠ none := by
      have held : (network.view state).holder here
          (voucherClassId ⟨(network.deployment here).portId, wish.channelId⟩ source) tokenId =
            some .user := returns ▸ live
      exact ne_of_eq_of_ne held (by simp)
    rw [returns]
    exact secured.backing.noted channel exists_
  have escrow : (network.deployment there).holder (state.worlds there) source tokenId =
      some .escrow := backs.held
  have outgoing : (state.worlds there).storage.outgoingClassTokenToChannel (source, tokenId) =
      some far := backs.sent
  have class_ : data.classId = voucherClassId packet.src source := by
    rw [sent.classId, underway.src]
    exact returns
  have chosen : selectActions packet data (state.worlds there).storage =
      ({ (state.worlds there).storage with
          outgoingClassTokenToChannel :=
            (state.worlds there).storage.outgoingClassTokenToChannel.remove (source, tokenId) },
        [.redemption source tokenId]) := by
    rcases selectActions_single packet sent.valid sent.single (state.worlds there).storage with
      ⟨localClass, same, -, selected⟩ | ⟨staying, -⟩
    · have equal := (localClass_eq same).symm.trans (localClass_eq class_)
      rw [equal] at selected
      exact selected
    · rw [underway.dest] at staying
      exact absurd outgoing (staying source class_)
  rcases orderly.toHeld.receiveTx_redemption (network.deep there) underway.checked chosen escrow
    with ⟨other, done, redeemed⟩
  rcases underway.exists_ack secured with ⟨settled, acked, settles⟩
  have paused : other.storage.paused = (state.worlds there).storage.paused := by
    rw [redeemed.storage]
  rcases underway.transfer secured sendable done acked settles.commitments redeemed.commitments
    paused settles.paused with ⟨final, moved, atHere, atThere, elsewhere, quiet⟩
  rcases redeemed.moved with ⟨origin, before, after, known, -, nfts, owner⟩
  refine ⟨final, origin, moved, quiet, ?_, ?_, ?_⟩
  · rw [Owns, atThere, redeemed.storage, nfts]
    exact ⟨known, after, StoreMap.save_self _ _ _, owner⟩
  · rw [atHere, ← sent.classId]
    apply settles.destroyed
    rw [sent.incoming, sent.classId, sent.channelId]
    exact noted
  · intro chain classId other gone
    by_cases isHere : chain = here
    · subst isHere
      rw [atHere]
      apply settles.gone
      apply sent.gone _ _ gone
      · rw [sent.classId]
        exact registered
      · rw [present]
        simp
    · by_cases isThere : chain = there
      · subst isThere
        rw [atThere]
        exact redeemed.gone gone
      · rw [elsewhere chain isHere isThere]
        exact gone

end Network

end Ics721
