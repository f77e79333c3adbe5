import Ics721.Escrow.Undo
import Ics721.Network.Homecoming
import Ics721.Receive.Truth
import Ics721.Settlement.Emitted

/-!
# What is under way arrives

Relayers alone bring a network to rest.  A packet that is delivered and acknowledged leaves
its NFT with the receiver or gives it back to the sender, and which of the two happens can be
told from the state it arrives in.  A paused bridge refuses packets but settles its own.
-/

namespace Ics721

open Library

namespace Deployment

variable {deployment : Deployment} {codeId : Nat} {world after : World Ledger}
variable {packet : IbcPacket} {data : NonFungibleTokenPacketData} {tokenId : TokenId}
variable {contract : Addr}

/-- A packet that failed goes back to its sender, if the bridge still holds the NFT. -/
theorem Held.exists_refund (held : deployment.Held codeId world)
    (posted : deployment.Posted packet data tokenId) (pending : packet ∈ world.commitments)
    (valid : deployment.api.addrValid data.sender = true)
    (escrow : deployment.holder world data.classId tokenId = some .escrow)
    {label : Chain.Label} (fails : label.Fails deployment.api packet) :
    ∃ after contract token,
      deployment.step deployment.contracts world label = after ∧
      after.commitments = world.commitments.erase packet ∧
      after.storage.classIdToNftContract data.classId = some contract ∧
      after.contracts.nfts deployment.api (contract, tokenId) = some token ∧
      token.owner = ⟨data.sender⟩ := by
  rcases holder_eq_escrow.mp escrow with ⟨contract, token, registered, present, owned⟩
  rcases Ledger.exists_transferNft present owned valid with ⟨ledger, called⟩
  rcases Ledger.call_transferNft called with ⟨_, before, -, -, -, -, became⟩
  have all : world.contracts.callAll deployment.api deployment.bridge contract
      (data.tokenIds.map fun tokenId => .transferNft data.sender tokenId) = .ok ledger := by
    simp only [posted.single, Ledger.callAll, List.map_cons, List.map_nil, List.foldlM_cons,
      List.foldlM_nil, bind_eq_ok, pure_eq_ok]
    exact ⟨ledger, called, rfl⟩
  have refunds : deployment.Refunds packet world { world with
      storage := world.storage.clearOutgoing data.classId data.tokenIds
      contracts := ledger
      commitments := world.commitments.erase packet } :=
    ⟨data, contract, ledger, posted.decoded, registered, valid, all, rfl⟩
  have reached := step_of_refunds fails (fun _ _ => held.foreign _) pending refunds
  have returned : ledger.nfts deployment.api (contract, tokenId) =
      some ⟨⟨data.sender⟩, [], before.tokenUri⟩ := by
    rw [became.nfts, StoreMap.save_self]
  exact ⟨_, contract, _, reached, rfl, registered, returned, rfl⟩

/-- Receiving a packet settles none. -/
theorem receiveTx_commitments {ack : Binary} (held : deployment.Held codeId world)
    (received : deployment.receiveTx deployment.contracts world packet = .ok (after, ack)) :
    after.commitments = world.commitments := by
  rcases receiveTx_cases (.refl _) held.foreign received with
    ⟨error, -, rfl, -⟩ | ⟨data, receiver, -, ⟨text, -, rfl⟩ | ⟨-, applies⟩⟩
  · rfl
  · rfl
  · rw [(received_of_applies applies).same]

end Deployment

namespace Network

variable {ι : Type} {network : Network ι} {state : State ι} {here there : ι} {far : String}
variable {packet : IbcPacket} {data : NonFungibleTokenPacketData} {tokenId : TokenId}

/-- What has to hold where a packet arrives for it to be accepted: the bridge is not paused, the
receiver has a valid address, the memo is not blank, and the NFT comes back or there is no voucher
for it yet. -/
def Acceptable (network : Network ι) (state : State ι) (there : ι) (packet : IbcPacket)
    (data : NonFungibleTokenPacketData) (tokenId : TokenId) : Prop :=
  (state.worlds there).storage.paused = false ∧
    (network.deployment there).api.addrValid data.receiver = true ∧
    MemoAdmitted data.memo ∧
    ((∃ source, data.classId = voucherClassId packet.src source) ∨
      (network.deployment there).holder (state.worlds there)
        (voucherClassId packet.dest data.classId) tokenId = none)

/-- What a bridge knows of a packet that it has sent. -/
theorem Secured.emitted (secured : network.Secured state)
    (pending : packet ∈ (state.worlds here).commitments)
    (posted : (network.deployment here).Posted packet data tokenId) :
    (network.deployment here).api.addrValid data.sender = true ∧
      ∃ contract, (state.worlds here).storage.classIdToNftContract data.classId =
        some contract := by
  rcases secured.orderly here with ⟨codeId, orderly⟩
  have lawful := Deployment.lawful (.refl (network.deployment here).contracts) codeId
  rcases orderly.sound.emitted lawful pending [] with ⟨record, read, -, emitted⟩
  have same : data = read := Except.ok.inj (posted.decoded.symm.trans emitted.decoded)
  subst same
  constructor
  · rw [emitted.sender]
    exact emitted.valid
  · exact ⟨record.contract, emitted.registered⟩

/-- A packet that was not accepted keeps its NFT locked. -/
theorem Secured.locked (secured : network.Secured state)
    (pending : packet ∈ (state.worlds here).commitments)
    (posted : (network.deployment here).Posted packet data tokenId)
    (holds : (network.view state).receipt here packet ≠ some true ∨
      (state.worlds here).storage.incomingClassTokenToChannel (data.classId, tokenId) =
        some packet.src.channelId) :
    (network.deployment here).holder (state.worlds here) data.classId tokenId =
      some .escrow := by
  have holding : network.vouchers.Holding (network.view state) here packet := by
    refine ⟨pending, ?_⟩
    rcases holds with failed | came
    · exact .inl failed
    · right
      rw [posted.cls]
      exact secured.backing.came came
  have held := (secured.backing.held holding).1
  rw [posted.cls, posted.token] at held
  exact held

/-- What comes back can be redeemed. -/
theorem Secured.redeems (secured : network.Secured state)
    (pending : packet ∈ (state.worlds here).commitments)
    (undelivered : state.acks here packet = none)
    (posted : (network.deployment here).Posted packet data tokenId)
    (opened : network.peer here packet.src.channelId = some (there, far)) {source : ClassId}
    (returns : data.classId = voucherClassId packet.src source) :
    network.vouchers.Backs (network.view state) there source tokenId far := by
  have unreceived : (network.view state).receipt here packet ≠ some true := by
    simp [view, undelivered]
  have voucher : network.vouchers.cls packet = network.vouchers.voucher here
      (network.vouchers.channel packet) source := by
    rw [posted.voucher_src, posted.cls, returns]
  have backs := secured.backing.returning_backed pending unreceived opened voucher
  rw [posted.token] at backs
  exact backs

/-- What is acceptable is accepted. -/
theorem Secured.accepts (secured : network.Secured state)
    (presentable : Presentable (network.deployment here).api (state.worlds here))
    (pending : packet ∈ (state.worlds here).commitments)
    (undelivered : state.acks here packet = none)
    (posted : (network.deployment here).Posted packet data tokenId)
    (opened : network.peer here packet.src.channelId = some (there, far))
    (dest : packet.dest = ⟨(network.deployment there).portId, far⟩)
    (acceptable : network.Acceptable state there packet data tokenId) :
    ∃ world arrived collection token,
      (network.deployment there).receiveTx (network.deployment there).contracts
        (state.worlds there) packet =
          .ok (world, ackSuccess (network.deployment there).api) ∧
      network.ArrivesAs here there packet.src.channelId far data.classId arrived ∧
      world.storage.classIdToNftContract arrived = some collection ∧
      world.contracts.nfts (network.deployment there).api (collection, tokenId) = some token ∧
      token.owner = ⟨data.receiver⟩ := by
  rcases acceptable with ⟨running, addressed, -, room⟩
  rcases secured.orderly there with ⟨codeId, orderly⟩
  have valid : data.validate = .ok () := by
    rcases presentable.packets packet pending with ⟨written, _, same, -, valid⟩
    have read := posted.decoded
    rw [same, Codec.from_to] at read
    cases read
    exact valid
  have checked : checkIbcPacket (network.deployment there).api (state.worlds there).storage
      packet = .ok (data, ⟨data.receiver⟩) :=
    checkIbcPacket_eq_ok.mpr ⟨running, posted.decodes there, valid, addressed, rfl⟩
  have src : packet.src = ⟨(network.deployment here).portId, packet.src.channelId⟩ := by
    rw [← posted.port]
  rcases selectActions_single packet valid posted.single (state.worlds there).storage with
    ⟨localClass, returns, -, selected⟩ | ⟨staying, uri, bytes, selected⟩
  · have backs := secured.redeems pending undelivered posted opened returns
    have escrow : (network.deployment there).holder (state.worlds there) localClass tokenId =
        some .escrow := backs.held
    rcases orderly.toHeld.receiveTx_redemption (network.deep there) checked selected escrow with
      ⟨world, done, redeemed⟩
    rcases redeemed.moved with ⟨origin, -, token, known, -, nfts, owner⟩
    refine ⟨world, localClass, origin, token, done, .inl ?_, ?_, ?_, owner⟩
    · rw [← src]
      exact returns
    · rw [redeemed.storage]
      exact known
    · rw [nfts]
      exact StoreMap.save_self _ _ _
  · have outward : ∀ source, data.classId ≠ voucherClassId packet.src source := by
      intro source returns
      have backs := secured.redeems pending undelivered posted opened returns
      have sent : (state.worlds there).storage.outgoingClassTokenToChannel (source, tokenId) =
          some far := backs.sent
      rw [dest] at staying
      exact staying source returns sent
    rcases room with ⟨source, returns⟩ | unused
    · exact absurd returns (outward source)
    · rcases orderly.receiveTx_creation (network.deep there) checked
        (congrArg Prod.snd selected) unused with
        ⟨world, collection, token, done, -, known, minted, owner⟩
      refine ⟨world, _, collection, token, done, .inr ⟨?_, ?_⟩, known, minted, owner⟩
      · rw [← src]
        exact outward
      · rw [dest]

/-- What is accepted was acceptable, if the memo was. -/
theorem Secured.acceptable (secured : network.Secured state)
    (posted : (network.deployment here).Posted packet data tokenId)
    (memo : MemoAdmitted data.memo) {world : World Ledger} {ack : Binary}
    (received : (network.deployment there).receiveTx (network.deployment there).contracts
      (state.worlds there) packet = .ok (world, ack))
    (success : tryGetAckError (network.deployment there).api ack = none) :
    network.Acceptable state there packet data tokenId := by
  rcases secured.orderly there with ⟨codeId, orderly⟩
  rcases Deployment.receiveTx_cases (.refl _) orderly.foreign received with
    ⟨error, -, -, rfl⟩ | ⟨read, receiver, checked, ⟨text, rfl, -⟩ | ⟨rfl, applies⟩⟩
  · rw [tryGetAckError_ackFail] at success
    cases success
  · rw [tryGetAckError_ackFail] at success
    cases success
  · rcases checkIbcPacket_eq_ok.mp checked with ⟨running, decoded, valid, addressed, rfl⟩
    rw [posted.decodes there] at decoded
    cases decoded
    refine ⟨running, addressed, memo, ?_⟩
    rcases selectActions_single packet valid posted.single (state.worlds there).storage with
      ⟨localClass, returns, -, -⟩ | ⟨-, uri, bytes, selected⟩
    · exact .inl ⟨localClass, returns⟩
    · right
      have done := Deployment.received_of_applies applies
      have created : ⟨tokenId, uri, bytes⟩ ∈
          createdTokens (selectActions packet data (state.worlds there).storage).2 := by
        rw [selected]
        exact List.mem_singleton.mpr rfl
      rcases done.created _ created with ⟨collection, _, known, -, -, unused, -⟩
      rw [Deployment.holder_eq_none]
      intro earlier registered
      have same := done.contract_kept registered
      rw [known] at same
      cases same
      exact unused

/-! ## Relaying -/

variable [DecidableEq ι]

/-- A relayer delivers a packet and brings back the acknowledgement. -/
def relay (network : Network ι) (state : State ι) (here : ι) (packet : IbcPacket) : State ι :=
  network.step (network.step state (.deliver here packet)) (.acknowledge here packet)

/-- What the delivery of a packet does. -/
theorem exists_delivered (pending : packet ∈ (state.worlds here).commitments)
    (undelivered : state.acks here packet = none)
    (opened : network.peer here packet.src.channelId = some (there, far)) :
    ∃ world ack, (network.deployment there).receiveTx (network.deployment there).contracts
        (state.worlds there) packet = .ok (world, ack) ∧
      network.step state (.deliver here packet) =
        ⟨Function.update state.worlds there world, Function.update state.acks here
          (Function.update (state.acks here) packet (some ack))⟩ := by
  rcases (network.deployment there).toChain.exists_receiveTx
    (network.deployment there).contracts (state.worlds there) packet with
    ⟨world, ack, received⟩
  refine ⟨world, ack, received, ?_⟩
  simp only [Network.step, Network.deliver, pending, undelivered, and_self, if_true, opened,
    received]

/-- What the acknowledgement of a packet does. -/
theorem Secured.acknowledged (secured : network.Secured state)
    (pending : packet ∈ (state.worlds here).commitments)
    (posted : (network.deployment here).Posted packet data tokenId) {ack : Binary}
    (acked : state.acks here packet = some ack) :
    ∃ world, network.step state (.acknowledge here packet) =
        ⟨Function.update state.worlds here world, state.acks⟩ ∧
      world.commitments = (state.worlds here).commitments.erase packet ∧
      (tryGetAckError (network.deployment here).api ack ≠ none →
        ∃ contract token,
          world.storage.classIdToNftContract data.classId = some contract ∧
          world.contracts.nfts (network.deployment here).api (contract, tokenId) = some token ∧
          token.owner = ⟨data.sender⟩) := by
  rcases secured.orderly here with ⟨codeId, orderly⟩
  rcases secured.emitted pending posted with ⟨valid, contract, registered⟩
  cases read : tryGetAckError (network.deployment here).api ack with
  | none =>
      have escrow : (state.worlds here).storage.incomingClassTokenToChannel
          (data.classId, tokenId) = some packet.src.channelId →
          (network.deployment here).holder (state.worlds here) data.classId tokenId =
            some .escrow := fun came => secured.locked pending posted (.inr came)
      rcases orderly.toHeld.exists_ack posted pending registered read escrow with
        ⟨world, reached, settled⟩
      refine ⟨world, ?_, settled.commitments, fun failed => absurd rfl failed⟩
      simp only [Network.step, acked, Network.act, reached]
  | some error =>
      have failed : (network.view state).receipt here packet ≠ some true := by
        simp [view, acked, read]
      have escrow := secured.locked pending posted (.inl failed)
      have fails : (Chain.Label.ack packet ack).Fails (network.deployment here).api packet :=
        .inr ⟨ack, rfl, by simp [read]⟩
      rcases orderly.toHeld.exists_refund posted pending valid escrow fails with
        ⟨world, origin, token, reached, settled, known, returned, owner⟩
      refine ⟨world, ?_, settled, fun _ => ⟨origin, token, known, returned, owner⟩⟩
      simp only [Network.step, acked, Network.act, reached]

/-- The packet settles, and no other does. -/
theorem Secured.relayed (secured : network.Secured state)
    (pending : packet ∈ (state.worlds here).commitments) :
    network.Secured (network.relay state here packet) ∧
      ∀ chain, ((network.relay state here packet).worlds chain).commitments =
        if chain = here then (state.worlds here).commitments.erase packet
        else (state.worlds chain).commitments := by
  refine ⟨(secured.step _).step _, ?_⟩
  rcases secured.posted here packet pending with ⟨data, tokenId, posted⟩
  rcases posted.opened with ⟨there, far, opened, -⟩
  have different := network.peer_ne opened
  have settles : ∀ (middle : State ι) ack, network.Secured middle →
      network.step state (.deliver here packet) = middle →
      (middle.worlds here).commitments = (state.worlds here).commitments →
      (∀ chain, (middle.worlds chain).commitments = (state.worlds chain).commitments) →
      middle.acks here packet = some ack →
      ∀ chain, ((network.relay state here packet).worlds chain).commitments =
        if chain = here then (state.worlds here).commitments.erase packet
        else (state.worlds chain).commitments := by
    intro middle ack securedMiddle reached sameHere same acked chain
    have pendingMiddle : packet ∈ (middle.worlds here).commitments := by
      rw [sameHere]
      exact pending
    rcases securedMiddle.acknowledged pendingMiddle posted acked with ⟨world, last, erased, -⟩
    unfold relay
    rw [reached, last]
    split
    next isHere =>
      subst isHere
      simp only [Function.update_self]
      rw [erased, sameHere]
    next notHere =>
      simp only [Function.update_of_ne notHere]
      exact same chain
  cases acked : state.acks here packet with
  | some ack =>
      have idle : network.step state (.deliver here packet) = state := by
        simp [Network.step, Network.deliver, acked]
      exact settles state ack secured idle rfl (fun _ => rfl) acked
  | none =>
      rcases exists_delivered pending acked opened with ⟨world, ack, received, reached⟩
      rcases secured.orderly there with ⟨codeId, orderly⟩
      have kept := Deployment.receiveTx_commitments orderly.toHeld received
      have same : ∀ chain, (Function.update state.worlds there world chain).commitments =
          (state.worlds chain).commitments := by
        intro chain
        by_cases isThere : chain = there
        · subst isThere
          rw [Function.update_self]
          exact kept
        · rw [Function.update_of_ne isThere]
      apply settles _ ack (reached ▸ secured.step _) reached (same here) same
      simp only [Function.update_self]

/-- Who has the NFT of a packet in the end. -/
structure Resolved (network : Network ι) (state after : State ι) (here there : ι)
    (far : String) (packet : IbcPacket) (data : NonFungibleTokenPacketData)
    (tokenId : TokenId) : Prop where
  settled : (after.worlds here).commitments = (state.worlds here).commitments.erase packet
  accepted : network.Acceptable state there packet data tokenId →
    ∃ arrived collection,
      network.ArrivesAs here there packet.src.channelId far data.classId arrived ∧
      network.Owns after there arrived collection tokenId ⟨data.receiver⟩
  refused : ¬network.Acceptable state there packet data tokenId →
    ∃ contract, network.Owns after here data.classId contract tokenId ⟨data.sender⟩

theorem Secured.resolved (secured : network.Secured state)
    (presentable : Presentable (network.deployment here).api (state.worlds here))
    (pending : packet ∈ (state.worlds here).commitments)
    (undelivered : state.acks here packet = none)
    (posted : (network.deployment here).Posted packet data tokenId)
    (opened : network.peer here packet.src.channelId = some (there, far))
    (dest : packet.dest = ⟨(network.deployment there).portId, far⟩)
    (memo : MemoAdmitted data.memo) :
    network.Resolved state (network.relay state here packet) here there far packet data
      tokenId := by
  have different : here ≠ there := (network.peer_ne opened).symm
  have same := network.tryGetAckError_eq here there
  rcases exists_delivered pending undelivered opened with ⟨world, ack, received, reached⟩
  have securedMiddle := secured.step (.deliver here packet)
  rw [reached] at securedMiddle
  have pendingMiddle : packet ∈
      (Function.update state.worlds there world here).commitments := by
    rw [Function.update_of_ne different]
    exact pending
  have acked : Function.update state.acks here
      (Function.update (state.acks here) packet (some ack)) here packet = some ack := by
    simp only [Function.update_self]
  rcases securedMiddle.acknowledged pendingMiddle posted acked with
    ⟨settled, last, erased, refunded⟩
  have atHere : (network.relay state here packet).worlds here = settled := by
    unfold relay
    rw [reached, last]
    exact Function.update_self _ _ _
  have atThere : (network.relay state here packet).worlds there = world := by
    unfold relay
    rw [reached, last]
    simp only [Function.update_of_ne different.symm, Function.update_self]
  constructor
  · have commitments := (secured.relayed pending).2 here
    rw [if_pos rfl] at commitments
    exact commitments
  · intro acceptable
    rcases secured.accepts presentable pending undelivered posted opened dest acceptable with
      ⟨other, arrived, collection, token, accepted, arrives, known, minted, owner⟩
    rw [received] at accepted
    cases accepted
    refine ⟨arrived, collection, arrives, ?_⟩
    rw [Owns, atThere]
    exact ⟨known, token, minted, owner⟩
  · intro unacceptable
    have failed : tryGetAckError (network.deployment here).api ack ≠ none := by
      intro success
      rw [same] at success
      exact unacceptable (secured.acceptable posted memo received success)
    rcases refunded failed with ⟨contract, token, known, returned, owner⟩
    refine ⟨contract, ?_⟩
    rw [Owns, atHere]
    exact ⟨known, token, returned, owner⟩

/-! ## Coming to rest -/

/-- Relayers bring all packets of some chains to an end. -/
def drain (network : Network ι) (chains : List ι) (state : State ι) : State ι :=
  chains.foldl (fun state chain =>
    (state.worlds chain).commitments.foldl (fun state packet => network.relay state chain packet)
      state) state

/-- One chain is drained, packet by packet. -/
theorem Secured.drain_chain (secured : network.Secured state) {packets : List IbcPacket}
    (waiting : (state.worlds here).commitments = packets) :
    network.Secured (packets.foldl (fun state packet => network.relay state here packet) state) ∧
      ∀ chain, ((packets.foldl (fun state packet => network.relay state here packet)
        state).worlds chain).commitments =
          if chain = here then [] else (state.worlds chain).commitments := by
  induction packets generalizing state with
  | nil =>
      refine ⟨secured, ?_⟩
      intro chain
      split
      next isHere =>
        rw [isHere]
        exact waiting
      next => rfl
  | cons packet packets ih =>
      have pending : packet ∈ (state.worlds here).commitments := by
        rw [waiting]
        exact List.mem_cons_self
      rcases secured.relayed pending with ⟨securedAfter, commitments⟩
      have rest : ((network.relay state here packet).worlds here).commitments = packets := by
        rw [commitments, if_pos rfl, waiting, List.erase_cons_head]
      rcases ih securedAfter rest with ⟨securedLast, drained⟩
      refine ⟨securedLast, ?_⟩
      intro chain
      rw [List.foldl_cons, drained chain]
      split
      next => rfl
      next notHere => rw [commitments, if_neg notHere]

theorem Secured.drained (secured : network.Secured state) (chains : List ι) :
    network.Secured (network.drain chains state) ∧
      ∀ chain, ((network.drain chains state).worlds chain).commitments =
        if chain ∈ chains then [] else (state.worlds chain).commitments := by
  induction chains generalizing state with
  | nil => exact ⟨secured, by simp [drain]⟩
  | cons here chains ih =>
      rcases secured.drain_chain rfl with ⟨securedAfter, commitments⟩
      rcases ih securedAfter with ⟨securedLast, drained⟩
      refine ⟨securedLast, ?_⟩
      intro chain
      have last := drained chain
      rw [commitments] at last
      refine last.trans ?_
      by_cases isHere : chain = here <;> by_cases member : chain ∈ chains <;>
        simp [isHere, member]

end Network

/-- In every state of every run, whether or not bridges are paused, a packet without a blank memo
that was not delivered yet settles when it is delivered and acknowledged.  If it is acceptable
where it arrives, its receiver owns the NFT then, or a voucher for it, and otherwise its sender
has the NFT back. -/
theorem packet_resolves {ι : Type} [DecidableEq ι] {network : Network ι}
    {start : Network.State ι} (genesis : network.Genesis start)
    (labels : List (Network.Label ι)) {state : Network.State ι}
    (reached : labels.foldl network.step start = state) {here : ι} {packet : IbcPacket}
    (pending : packet ∈ (state.worlds here).commitments)
    (undelivered : state.acks here packet = none) :
    ∃ data tokenId there far,
      (network.deployment here).Posted packet data tokenId ∧
      network.peer here packet.src.channelId = some (there, far) ∧
      (MemoAdmitted data.memo →
        network.Resolved state (network.relay state here packet) here there far packet data
          tokenId) := by
  subst reached
  have secured := genesis.run labels
  have presentable := genesis.presentable labels here
  rcases secured.posted here packet pending with ⟨data, tokenId, posted⟩
  rcases posted.opened with ⟨there, far, opened, dest⟩
  exact ⟨data, tokenId, there, far, posted, opened,
    secured.resolved presentable pending undelivered posted opened dest⟩

/-- Nobody delivered Alice's packet yet. -/
theorem packet_resolves_of_sample :
    ∃ data tokenId there far,
      (Sample.bridgeAt .home).Posted Sample.outward data tokenId ∧
      Sample.peer .home "channel-0" = some (there, far) ∧
      Sample.network.Resolved (Sample.networkRun (Sample.crossed.take 3))
        (Sample.network.relay (Sample.networkRun (Sample.crossed.take 3)) .home Sample.outward)
        .home there far Sample.outward data tokenId := by
  have waiting : ((Sample.networkRun (Sample.crossed.take 3)).worlds .home).commitments =
        [Sample.outward] ∧
      (Sample.networkRun (Sample.crossed.take 3)).acks .home Sample.outward = none := by
    decide +kernel
  rcases waiting with ⟨commitments, undelivered⟩
  have pending : Sample.outward ∈
      ((Sample.networkRun (Sample.crossed.take 3)).worlds .home).commitments := by
    rw [commitments]
    exact List.mem_singleton.mpr rfl
  have reached : (Sample.crossed.take 3).foldl Sample.network.step Sample.fresh =
      Sample.networkRun (Sample.crossed.take 3) := rfl
  rcases packet_resolves Sample.genesis_fresh (Sample.crossed.take 3) reached pending undelivered
    with ⟨data, tokenId, there, far, posted, opened, resolved⟩
  refine ⟨data, tokenId, there, far, posted, opened, resolved ?_⟩
  have same : (Sample.network.deployment .home).api = Sample.api := rfl
  have read := posted.decoded
  simp only [same, Sample.outward, Codec.from_to, Except.ok.injEq] at read
  rw [← read]
  exact memoAdmitted_none

/-- In every state of every run, whether or not bridges are paused, relayers alone can settle
all packets of any chains, and they settle no others. -/
theorem network_drains {ι : Type} [DecidableEq ι] {network : Network ι}
    {start : Network.State ι} (genesis : network.Genesis start)
    (labels : List (Network.Label ι)) (chains : List ι) (chain : ι) :
    ((network.drain chains (labels.foldl network.step start)).worlds chain).commitments =
      if chain ∈ chains then []
      else ((labels.foldl network.step start).worlds chain).commitments :=
  ((genesis.run labels).drained chains).2 chain

/-- Relayers settle Alice's packet. -/
theorem network_drains_of_sample :
    ((Sample.network.drain [.away, .home]
      (Sample.networkRun (Sample.crossed.take 3))).worlds .home).commitments = [] := by
  have drained := network_drains Sample.genesis_fresh (Sample.crossed.take 3) [.away, .home] .home
  rw [if_pos (by decide)] at drained
  unfold Sample.networkRun
  exact drained

end Ics721
