import Ics721.Cw721.Messages
import Ics721.Settlement.Handlers

/-!
# Transactions on a chain with cw721-base collections

What can happen in one transaction, for contracts that conform to cw721-base: a packet
is received, a packet of the bridge is settled, or an account executes a message.
-/

namespace Ics721

open Library

namespace Storage

/-- Forget that tokens were sent out. -/
def clearOutgoing (storage : Storage) (classId : ClassId) (tokenIds : List TokenId) : Storage :=
  { storage with
    outgoingClassTokenToChannel := tokenIds.foldl
      (fun outgoing tokenId => outgoing.remove (classId, tokenId))
      storage.outgoingClassTokenToChannel }

/-- Forget vouchers that are burned. -/
def clearIncoming (storage : Storage) (classId : ClassId) (tokenIds : List TokenId) : Storage :=
  { storage with
    incomingClassTokenToChannel := tokenIds.foldl
      (fun incoming tokenId => incoming.remove (classId, tokenId))
      storage.incomingClassTokenToChannel
    tokenMetadata := tokenIds.foldl
      (fun metadata tokenId => metadata.remove (classId, tokenId)) storage.tokenMetadata }

end Storage

namespace Deployment

variable {deployment : Deployment} {contracts : Contracts Ledger}
variable {world after : World Ledger}

/-! ## Receiving a packet -/

/-- With conforming contracts a packet that goes through does what cw721-base does. -/
theorem applies_of_deliver (conforms : Conforms deployment.contracts contracts)
    (foreign : deployment.Foreign world.storage) {receiver : Addr}
    (valid : deployment.api.addrValid receiver.addr = true) {aggregator : ActionAggregator}
    {data : Option ReplyData}
    (delivered : deployment.deliver contracts world
      (aggregator.message deployment.bridge receiver) = .ok (after, data)) :
    deployment.Applies receiver aggregator world after := by
  have ran := Chain.deliver_iff.mp ⟨data, delivered⟩
  have refines := conforms.refines deployment.toChain
  have deeper := refines.runOne deployment.aborting
    (fun uncaught below => refines.dispatch deployment.aborting
      (Nat.le_add_right deployment.depth 3) uncaught below) rfl ran
  rcases ((runOne_message valid foreign).mp deeper).2 with ⟨reached, applies, same⟩
  cases same
  exact applies

/-- Where calls may nest deep enough, cw721-base itself goes through. -/
theorem deliver_of_applies (deep : 3 ≤ deployment.depth)
    (running : world.storage.paused = false) (foreign : deployment.Foreign world.storage)
    {receiver : Addr} (valid : deployment.api.addrValid receiver.addr = true)
    {aggregator : ActionAggregator}
    (applies : deployment.Applies receiver aggregator world after) :
    ∃ data, deployment.deliver deployment.contracts world
      (aggregator.message deployment.bridge receiver) = .ok (after, data) := by
  rw [Chain.deliver_iff]
  rcases Nat.exists_eq_add_of_le' deep with ⟨depth, same⟩
  rw [same]
  exact (runOne_message valid foreign).mpr ⟨running, after, applies, rfl⟩

/-- The world in which the submessage of a packet is run. -/
def noted (world : World Ledger) (packet : IbcPacket) (data : NonFungibleTokenPacketData) :
    World Ledger :=
  { world with storage := (selectActions packet data world.storage).1 }

theorem foreign_noted (foreign : deployment.Foreign world.storage) (packet : IbcPacket)
    (data : NonFungibleTokenPacketData) :
    deployment.Foreign (noted world packet data).storage := by
  intro classId
  have same := sameButTransit_selectFrom packet.dest data.classId
    (tryPopSourcePrefix packet.src data.classId.id) world.storage data.incoming
  simp only [noted, selectActions_eq, same.contracts]
  exact foreign classId

/-- The three ways in which a received packet ends. -/
theorem receiveTx_cases (conforms : Conforms deployment.contracts contracts)
    (foreign : deployment.Foreign world.storage) {packet : IbcPacket} {ack : Binary}
    (received : deployment.receiveTx contracts world packet = .ok (after, ack)) :
    (∃ error, checkIbcPacket deployment.api world.storage packet = .error error ∧
      after = world ∧ ack = ackFail deployment.api error.toString) ∨
    ∃ data receiver,
      checkIbcPacket deployment.api world.storage packet = .ok (data, receiver) ∧
      ((∃ text, ack = ackFail deployment.api text ∧ after = noted world packet data) ∨
        (ack = ackSuccess deployment.api ∧
          deployment.Applies receiver
            (data.aggregate (selectActions packet data world.storage).2)
            (noted world packet data) after)) := by
  rw [Chain.receiveTx_eq] at received
  cases checked : checkIbcPacket deployment.api world.storage packet with
  | error error =>
      simp only [checked, Except.ok.injEq, Prod.mk.injEq] at received
      exact .inl ⟨error, rfl, received.1.symm, received.2.symm⟩
  | ok outcome =>
      rcases outcome with ⟨data, receiver⟩
      refine .inr ⟨data, receiver, rfl, ?_⟩
      simp only [checked] at received
      split at received
      next reached reply delivered =>
        simp only [Except.ok.injEq, Prod.mk.injEq] at received
        rcases received with ⟨rfl, rfl⟩
        have valid : deployment.api.addrValid receiver.addr = true := by
          rcases checkIbcPacket_eq_ok.mp checked with ⟨-, -, -, known, rfl⟩
          exact known
        exact .inr ⟨rfl,
          applies_of_deliver conforms (foreign_noted foreign packet data) valid delivered⟩
      next err failed =>
        simp only [Except.ok.injEq, Prod.mk.injEq] at received
        exact .inl ⟨_, received.2.symm, received.1.symm⟩

/-- A packet whose actions can be applied is received with success. -/
theorem receiveTx_of_applies (deep : 3 ≤ deployment.depth)
    (foreign : deployment.Foreign world.storage) {packet : IbcPacket}
    {data : NonFungibleTokenPacketData} {receiver : Addr}
    (checked : checkIbcPacket deployment.api world.storage packet = .ok (data, receiver))
    (applies : deployment.Applies receiver
      (data.aggregate (selectActions packet data world.storage).2)
      (noted world packet data) after) :
    deployment.receiveTx deployment.contracts world packet =
      .ok (after, ackSuccess deployment.api) := by
  rcases checkIbcPacket_eq_ok.mp checked with ⟨running, -, -, known, rfl⟩
  have unpaused : (noted world packet data).storage.paused = false := by
    have same := sameButTransit_selectFrom packet.dest data.classId
      (tryPopSourcePrefix packet.src data.classId.id) world.storage data.incoming
    simp only [noted, selectActions_eq, same.paused, running]
  rcases deliver_of_applies deep unpaused (foreign_noted foreign packet data) known applies with
    ⟨reply, delivered⟩
  simp only [noted] at delivered
  rw [Chain.receiveTx_eq]
  simp only [checked, Chain.packetMessage, delivered]

/-! ## Settling a packet -/

/-- A packet failed: its tokens go back to the sender. -/
def Refunds (deployment : Deployment) (packet : IbcPacket) (before after : World Ledger) :
    Prop :=
  ∃ data contract ledger,
    deployment.api.packetData.fromBinary packet.data = .ok data ∧
    before.storage.classIdToNftContract data.classId = some contract ∧
    deployment.api.addrValid data.sender = true ∧
    before.contracts.callAll deployment.api deployment.bridge contract
      (data.tokenIds.map fun tokenId => .transferNft data.sender tokenId) = .ok ledger ∧
    after = { before with
      storage := before.storage.clearOutgoing data.classId data.tokenIds
      contracts := ledger
      commitments := before.commitments.erase packet }

/-- The tokens of a packet that are back at their source. -/
def Arrived (storage : Storage) (packet : IbcPacket) (data : NonFungibleTokenPacketData)
    (burned : List TokenId) : Prop :=
  burned.Nodup ∧ ∀ tokenId, tokenId ∈ burned ↔ tokenId ∈ data.tokenIds ∧
    storage.incomingClassTokenToChannel (data.classId, tokenId) = some packet.src.channelId

/-- A packet arrived: those of its tokens that are back at their source are burned. -/
def Burns (deployment : Deployment) (packet : IbcPacket) (before after : World Ledger) : Prop :=
  ∃ data contract burned ledger,
    deployment.api.packetData.fromBinary packet.data = .ok data ∧
    before.storage.classIdToNftContract data.classId = some contract ∧
    Arrived before.storage packet data burned ∧
    before.contracts.callAll deployment.api deployment.bridge contract
      (burned.map fun tokenId => .burn tokenId) = .ok ledger ∧
    after = { before with
      storage := before.storage.clearIncoming data.classId burned
      contracts := ledger
      commitments := before.commitments.erase packet }

section Settling

variable {packet : IbcPacket} {error : String}

theorem runMessages_conforms (conforms : Conforms deployment.contracts contracts)
    {messages : List (SubMsg CosmosMsg)} {data : Option ReplyData}
    {result : World Ledger × Option ReplyData} (uncaught : Machine.Uncaught messages)
    (ran : deployment.runMessages contracts world messages data = .ok result) :
    deployment.runMessages deployment.contracts world messages data = .ok result :=
  (conforms.refines deployment.toChain).dispatch deployment.aborting (Nat.le_refl _) uncaught ran

/-- A settlement as a refund. -/
theorem refunds_of_settle (conforms : Conforms deployment.contracts contracts)
    (foreign : deployment.Foreign world.storage)
    (settled : deployment.settleTx contracts world packet
      (fun storage packet => handlePacketFail deployment.api storage packet error) =
        .ok after) :
    packet ∈ world.commitments ∧ deployment.Refunds packet world after := by
  unfold Chain.settleTx at settled
  split at settled
  next pending =>
    refine ⟨pending, ?_⟩
    simp only [handlePacketFail, bind_eq_ok, mapError_eq_ok, Storage.loadNftContract_eq_ok,
      Api.addrValidate_eq_ok, pure_eq_ok] at settled
    rcases settled with
      ⟨_, ⟨data, decoded, contract, known, _, ⟨valid, rfl⟩, rfl⟩, result, ran, rfl⟩
    have different : contract ≠ deployment.bridge := fun same => foreign _ (same ▸ known)
    have ranBase := runMessages_conforms conforms (uncaught_map_sub _) ran
    rcases (dispatch_calls different fun _ => rfl).mp ranBase with ⟨ledger, called, rfl⟩
    exact ⟨data, contract, ledger, decoded, known, valid, called, rfl⟩
  next => cases settled

theorem settle_of_refunds
    (foreign : ∀ data, deployment.api.packetData.fromBinary packet.data = .ok data →
      world.storage.classIdToNftContract data.classId ≠ some deployment.bridge)
    (pending : packet ∈ world.commitments) (refunds : deployment.Refunds packet world after) :
    deployment.settleTx deployment.contracts world packet
      (fun storage packet => handlePacketFail deployment.api storage packet error) =
        .ok after := by
  rcases refunds with ⟨data, contract, ledger, decoded, known, valid, called, rfl⟩
  have different : contract ≠ deployment.bridge :=
    fun same => foreign data decoded (same ▸ known)
  simp only [Chain.settleTx, pending, if_true, handlePacketFail, bind_eq_ok, mapError_eq_ok,
    Storage.loadNftContract_eq_ok, Api.addrValidate_eq_ok, pure_eq_ok]
  exact ⟨_, ⟨data, decoded, contract, known, _, ⟨valid, rfl⟩, rfl⟩, _,
    (dispatch_calls different fun _ => rfl).mpr ⟨ledger, called, rfl⟩, rfl⟩

/-- A settlement as a burn. -/
theorem burns_of_settle (conforms : Conforms deployment.contracts contracts)
    (foreign : deployment.Foreign world.storage)
    (settled : deployment.settleTx contracts world packet
      (handlePacketSuccess deployment.api) = .ok after) :
    packet ∈ world.commitments ∧ deployment.Burns packet world after := by
  unfold Chain.settleTx at settled
  split at settled
  next pending =>
    refine ⟨pending, ?_⟩
    simp only [handlePacketSuccess, bind_eq_ok, mapError_eq_ok, Storage.loadNftContract_eq_ok,
      pure_eq_ok] at settled
    rcases settled with ⟨_, ⟨data, decoded, contract, known, rfl⟩, result, ran, rfl⟩
    rcases foldl_burnNotice data.classId packet.src.channelId contract data.tokenIds
      world.storage [] with ⟨burned, once, came, folded⟩
    rw [folded, List.nil_append] at ran
    have different : contract ≠ deployment.bridge := fun same => foreign _ (same ▸ known)
    have ranBase := runMessages_conforms conforms (uncaught_map_sub _) ran
    rcases (dispatch_calls different fun _ => rfl).mp ranBase with ⟨ledger, called, rfl⟩
    exact ⟨data, contract, burned, ledger, decoded, known, ⟨once, came⟩, called, rfl⟩
  next => cases settled

theorem settle_of_burns (foreign : deployment.Foreign world.storage)
    (pending : packet ∈ world.commitments) {data : NonFungibleTokenPacketData}
    {contract : Addr} (decoded : deployment.api.packetData.fromBinary packet.data = .ok data)
    (known : world.storage.classIdToNftContract data.classId = some contract)
    (burnable : ∀ burned, Arrived world.storage packet data burned →
      ∃ ledger, world.contracts.callAll deployment.api deployment.bridge contract
        (burned.map fun tokenId => .burn tokenId) = .ok ledger) :
    ∃ after, deployment.settleTx deployment.contracts world packet
      (handlePacketSuccess deployment.api) = .ok after := by
  have different : contract ≠ deployment.bridge := fun same => foreign _ (same ▸ known)
  rcases foldl_burnNotice data.classId packet.src.channelId contract data.tokenIds
    world.storage [] with ⟨burned, once, came, folded⟩
  rcases burnable burned ⟨once, came⟩ with ⟨ledger, called⟩
  simp only [Chain.settleTx, pending, if_true, handlePacketSuccess, bind_eq_ok, mapError_eq_ok,
    Storage.loadNftContract_eq_ok, pure_eq_ok]
  refine ⟨{ world with
    storage := world.storage.clearIncoming data.classId burned
    contracts := ledger
    commitments := world.commitments.erase packet }, _, ⟨data, decoded, contract, known, rfl⟩,
    (_, none), ?_, rfl⟩
  rw [folded, List.nil_append]
  exact (dispatch_calls different fun _ => rfl).mpr ⟨ledger, called, rfl⟩

/-- An acknowledgement refunds or burns. -/
theorem ackTx_cases (conforms : Conforms deployment.contracts contracts)
    (foreign : deployment.Foreign world.storage) {acknowledgement : Binary}
    (acked : deployment.ackTx contracts world packet acknowledgement = .ok after) :
    packet ∈ world.commitments ∧
      ((tryGetAckError deployment.api acknowledgement ≠ none ∧
          deployment.Refunds packet world after) ∨
        (tryGetAckError deployment.api acknowledgement = none ∧
          deployment.Burns packet world after)) := by
  unfold Chain.ackTx at acked
  cases read : tryGetAckError deployment.api acknowledgement with
  | some error =>
      simp only [ibcPacketAck, read] at acked
      rcases refunds_of_settle conforms foreign acked with ⟨pending, refunds⟩
      exact ⟨pending, .inl ⟨by simp, refunds⟩⟩
  | none =>
      simp only [ibcPacketAck, read] at acked
      rcases burns_of_settle conforms foreign acked with ⟨pending, burns⟩
      exact ⟨pending, .inr ⟨rfl, burns⟩⟩

theorem timeoutTx_refunds (conforms : Conforms deployment.contracts contracts)
    (foreign : deployment.Foreign world.storage)
    (timedOut : deployment.timeoutTx contracts world packet = .ok after) :
    packet ∈ world.commitments ∧ deployment.Refunds packet world after :=
  refunds_of_settle conforms foreign timedOut

end Settling

/-! ## Executing a message -/

/-- The packet that a request sends for a token of a class. -/
def outgoingPacket (deployment : Deployment) (world : World Ledger) (storage : Storage)
    (cls : Class) (tokenId : TokenId) (uri : Option String) (sender : String)
    (outgoing : IbcOutgoingMsg) (dest : IbcEndpoint) : IbcPacket :=
  ⟨deployment.api.packetData.toBinary
      (outgoingPacketData storage cls tokenId uri ⟨sender⟩ outgoing),
    ⟨deployment.portId, outgoing.channelId⟩, dest, world.nextSequence, outgoing.timeout⟩

/-- The bridge sends an NFT away. -/
def Sends (deployment : Deployment) (record : SendRecord)
    (before after : World Ledger) : Prop :=
  ∃ outgoing storage cls token dest,
    deployment.api.addrValid record.sender = true ∧
    deployment.api.ibcOutgoing.fromBinary record.msg = .ok outgoing ∧
    classForContract before.storage record.contract = .ok (storage, cls) ∧
    before.contracts.nfts deployment.api (record.contract, record.tokenId) = some token ∧
    deployment.counterparty outgoing.channelId = some dest ∧
    after = { before with
      storage := { storage with
        outgoingClassTokenToChannel := storage.outgoingClassTokenToChannel.save
          (cls.id, record.tokenId) outgoing.channelId }
      commitments := before.commitments ++ [deployment.outgoingPacket before storage cls
        record.tokenId token.tokenUri record.sender outgoing dest]
      nextSequence := before.nextSequence + 1
      sends := before.sends ++ [record] }

section Executing

variable {depth : Nat} {data : Option ReplyData} {result : World Ledger × Option ReplyData}

/-- A call of `receive_nft` and the packet it sends. -/
theorem sends_iff {record : SendRecord} :
    (∃ storage response inner,
        receiveNft deployment.api (deployment.contracts.querier world.contracts) world.storage
          record.contract record.tokenId record.sender record.msg = .ok (storage, response) ∧
        (deployment.machine deployment.contracts).dispatch (depth + 1)
          { world with storage := storage, sends := world.sends ++ [record] }
          deployment.bridge response.messages (response.data.map .binary) = .ok inner ∧
        result = (inner.1, data)) ↔
      ∃ after, deployment.Sends record world after ∧ result = (after, data) := by
  have queried : ∀ uri, deployment.contracts.nftInfo world.contracts record.contract
      record.tokenId = .ok uri ↔
      ∃ token, world.contracts.nfts deployment.api (record.contract, record.tokenId) =
        some token ∧ token.tokenUri = uri := by
    intro uri
    simp only [Deployment.contracts]
    split
    next token present => simp [present]
    next missing => simp [missing]
  have sent : ∀ (reached : World Ledger) (channelId : String) (bytes : Binary)
      (timeout : IbcTimeout) (held : Option ReplyData) (final : World Ledger × Option ReplyData),
      (deployment.machine deployment.contracts).dispatch (depth + 1) reached deployment.bridge
          [(CosmosMsg.ibc (.sendPacket channelId bytes timeout)).sub] held = .ok final ↔
        ∃ dest, deployment.counterparty channelId = some dest ∧
          final = ({ reached with
            commitments := reached.commitments ++
              [⟨bytes, ⟨deployment.portId, channelId⟩, dest, reached.nextSequence, timeout⟩]
            nextSequence := reached.nextSequence + 1 }, held) := by
    intro reached channelId bytes timeout held final
    rw [Machine.dispatch_succ_cons, Machine.runOne_never rfl]
    simp only [Chain.machine, CosmosMsg.sub, Chain.executeMsg, if_true, Chain.sendPacket]
    cases opened : deployment.counterparty channelId with
    | none => simp
    | some dest => simp [pure, Except.pure, @eq_comm _ _ final]
  simp only [receiveNft, bind_eq_ok, mapError_eq_ok, Api.addrValidate_eq_ok, pure_eq_ok,
    Prod.mk.injEq, Contracts.querier, queried]
  constructor
  · rintro ⟨_, _, inner, ⟨_, ⟨valid, rfl⟩, outgoing, decoded, ⟨storage, cls⟩, selected, uri,
      ⟨token, present, rfl⟩, rfl, rfl⟩, ran, rfl⟩
    rcases (sent _ _ _ _ _ _).mp ran with ⟨dest, opened, rfl⟩
    exact ⟨_, ⟨outgoing, storage, cls, token, dest, valid, decoded, selected, present, opened, rfl⟩,
      rfl⟩
  · rintro ⟨_, ⟨outgoing, storage, cls, token, dest, valid, decoded, selected, present, opened,
      rfl⟩, rfl⟩
    exact ⟨_, _, _, ⟨_, ⟨valid, rfl⟩, outgoing, decoded, (storage, cls), selected, _,
      ⟨token, present, rfl⟩, rfl, rfl⟩, (sent _ _ _ _ _ _).mpr ⟨dest, opened, rfl⟩, rfl⟩

/-- A message to the bridge from someone else: it sends an NFT or pauses. -/
theorem runOne_bridge {sender : Addr} {msg : ExecuteMsg}
    (outsider : sender ≠ deployment.bridge) :
    (deployment.machine deployment.contracts).runOne
        ((deployment.machine deployment.contracts).dispatch (depth + 1)) sender (world, data)
        (WasmMsg.execute deployment.bridge (.bridge msg)).sub = .ok result →
      (∃ record after, msg.sendRecord sender = some record ∧
          world.storage.paused = false ∧ MaySend world.storage sender msg ∧
          deployment.Sends record world after ∧ result = (after, data)) ∨
        (∃ storage, msg = .pause ∧ world.storage.pause sender = .ok storage ∧
          result = ({ world with storage := storage }, data)) := by
  rw [Machine.runOne_never rfl]
  simp only [Chain.machine, WasmMsg.sub, CosmosMsg.sub, Chain.executeMsg, if_true, bind_eq_ok,
    mapError_eq_ok, pure_eq_ok, World.react]
  rintro ⟨_, ⟨⟨storage, response⟩, executed, rfl⟩, inner, ran, rfl⟩
  rcases execute_cases executed with ⟨running, ⟨record, sends, origin, received⟩ |
    ⟨rfl, paused, silent⟩ | ⟨callback, -, self, -⟩⟩
  · simp only [sends, Option.toList_some] at ran
    rcases sends_iff.mp ⟨storage, response, inner, received, ran, rfl⟩ with ⟨after, sent, same⟩
    exact .inl ⟨record, after, sends, running, origin, sent, same⟩
  · simp only [silent, ExecuteMsg.sendRecord, Option.toList_none, List.append_nil,
      Machine.dispatch_nil, Except.ok.injEq] at ran
    subst inner
    exact .inr ⟨storage, rfl, paused, rfl⟩
  · exact absurd self outsider

/-- What an account can do in one transaction. -/
inductive Executed (deployment : Deployment) (sender : Addr) (world : World Ledger) :
    WasmMsg → World Ledger → Prop where
  | called {contract : Addr} {msg : Cw721ExecuteMsg} {ledger : Ledger}
      (different : contract ≠ deployment.bridge)
      (call : world.contracts.call deployment.api sender contract msg = .ok ledger)
      (silent : msg.callbacks sender = []) :
      Executed deployment sender world (.execute contract (.cw721 msg))
        { world with contracts := ledger }
  | instantiated {admin : Option String} {code : Nat} {msg : Cw721InstantiateMsg}
      {label : String} {contract : Addr} {ledger : Ledger}
      (instantiation : deployment.instantiate world.contracts msg = .ok (contract, ledger)) :
      Executed deployment sender world (.instantiate admin code (.cw721 msg) label)
        { world with contracts := ledger }
  | sent {contract : Addr} {tokenId : TokenId} {request : Binary} {ledger : Ledger}
      {after : World Ledger} (different : contract ≠ deployment.bridge)
      (call : world.contracts.call deployment.api sender contract
        (.sendNft deployment.bridge.addr tokenId request) = .ok ledger)
      (running : world.storage.paused = false) (noProxy : world.storage.proxy = none)
      (sends : deployment.Sends ⟨contract, tokenId, sender.addr, request⟩
        { world with contracts := ledger } after) :
      Executed deployment sender world
        (.execute contract (.cw721 (.sendNft deployment.bridge.addr tokenId request))) after
  | forwarded {msg : ExecuteMsg} {record : SendRecord} {after : World Ledger}
      (named : msg.sendRecord sender = some record)
      (running : world.storage.paused = false) (allowed : MaySend world.storage sender msg)
      (sends : deployment.Sends record world after) :
      Executed deployment sender world (.execute deployment.bridge (.bridge msg)) after
  | paused {storage : Storage} (pause : world.storage.pause sender = .ok storage) :
      Executed deployment sender world (.execute deployment.bridge (.bridge .pause))
        { world with storage := storage }

/-- The call that `SendNft` makes reaches a bridge or fails. -/
theorem executed_of_callbacks {sender contract : Addr} {msg : Cw721ExecuteMsg}
    {ledger : Ledger} (different : contract ≠ deployment.bridge)
    (call : world.contracts.call deployment.api sender contract msg = .ok ledger)
    (ran : (deployment.machine deployment.contracts).dispatch (depth + 2)
      { world with contracts := ledger } contract (msg.callbacks sender) data = .ok result) :
    deployment.Executed sender world (.execute contract (.cw721 msg)) result.1 := by
  cases msg with
  | sendNft target tokenId request =>
      simp only [Cw721ExecuteMsg.callbacks] at ran
      rw [Machine.dispatch_succ_cons, bind_eq_ok] at ran
      rcases ran with ⟨reached, receive, last⟩
      simp only [Machine.dispatch_nil, Except.ok.injEq] at last
      subst last
      by_cases toBridge : (⟨target⟩ : Addr) = deployment.bridge
      · rw [toBridge] at receive
        have named : target = deployment.bridge.addr := congrArg Addr.addr toBridge
        subst named
        rcases runOne_bridge different receive with
          ⟨record, after, recorded, running, allowed, sends, rfl⟩ | ⟨_, isPause, -⟩
        · cases recorded
          rcases allowed with ⟨_, -, noProxy⟩ | ⟨_, _, isProxied, -⟩
          · exact .sent different call running noProxy sends
          · cases isProxied
        · cases isPause
      · rw [Machine.runOne_never rfl] at receive
        simp [Chain.machine, WasmMsg.sub, CosmosMsg.sub, Chain.executeMsg, toBridge,
          Deployment.contracts] at receive
  | _ =>
      simp only [Cw721ExecuteMsg.callbacks, Machine.dispatch_nil, Except.ok.injEq] at ran
      subst ran
      exact .called different call rfl

/-- A message of an account to a collection. -/
theorem executed_of_collection {sender contract : Addr} {msg : ExecMsg}
    (different : contract ≠ deployment.bridge)
    (ran : (deployment.machine deployment.contracts).runOne
      ((deployment.machine deployment.contracts).dispatch (depth + 2)) sender (world, data)
      (WasmMsg.execute contract msg).sub = .ok result) :
    deployment.Executed sender world (.execute contract msg) result.1 := by
  rw [Machine.runOne_never rfl] at ran
  simp only [Chain.machine, WasmMsg.sub, CosmosMsg.sub, Chain.executeMsg, different, if_false,
    bind_eq_ok, mapError_eq_ok, pure_eq_ok] at ran
  rcases ran with ⟨_, ⟨reaction, reacted, rfl⟩, inner, rest, rfl⟩
  cases msg with
  | bridge msg => cases reacted
  | other msg => cases reacted
  | cw721 msg =>
      simp only [Deployment.contracts, bind_eq_ok, pure_eq_ok] at reacted
      rcases reacted with ⟨ledger, call, rfl⟩
      have executed := executed_of_callbacks different call rest
      exact executed

/-- A message of an account to the bridge. -/
theorem executed_of_bridge {sender : Addr} {msg : ExecMsg}
    (account : sender ≠ deployment.bridge)
    (ran : (deployment.machine deployment.contracts).runOne
      ((deployment.machine deployment.contracts).dispatch (depth + 1)) sender (world, data)
      (WasmMsg.execute deployment.bridge msg).sub = .ok result) :
    deployment.Executed sender world (.execute deployment.bridge msg) result.1 := by
  cases msg with
  | bridge msg =>
      rcases runOne_bridge account ran with
        ⟨record, after, named, running, allowed, sends, rfl⟩ | ⟨storage, rfl, pause, rfl⟩
      · exact .forwarded named running allowed sends
      · exact .paused pause
  | cw721 msg =>
      rw [Machine.runOne_never rfl] at ran
      simp [Chain.machine, WasmMsg.sub, CosmosMsg.sub, Chain.executeMsg] at ran
  | other msg =>
      rw [Machine.runOne_never rfl] at ran
      simp [Chain.machine, WasmMsg.sub, CosmosMsg.sub, Chain.executeMsg] at ran

/-- An account instantiates a contract. -/
theorem executed_of_instantiate {sender : Addr} {admin : Option String} {code : Nat}
    {msg : InitMsg} {label : String}
    (ran : (deployment.machine deployment.contracts).runOne
      ((deployment.machine deployment.contracts).dispatch depth) sender (world, data)
      (WasmMsg.instantiate admin code msg label).sub = .ok result) :
    deployment.Executed sender world (.instantiate admin code msg label) result.1 := by
  rw [Machine.runOne_never rfl] at ran
  simp only [Chain.machine, WasmMsg.sub, CosmosMsg.sub, Chain.executeMsg, bind_eq_ok,
    mapError_eq_ok, pure_eq_ok] at ran
  rcases ran with ⟨_, ⟨⟨contract, reaction⟩, reacted, rfl⟩, inner, rest, rfl⟩
  cases msg with
  | other msg => cases reacted
  | cw721 msg =>
      simp only [Deployment.contracts, bind_eq_ok, pure_eq_ok, Prod.mk.injEq] at reacted
      rcases reacted with ⟨⟨fresh, ledger⟩, instantiation, rfl, rfl⟩
      simp only [World.reactContract, Machine.dispatch_nil, Except.ok.injEq] at rest
      subst inner
      exact .instantiated instantiation

theorem executeTx_cases (conforms : Conforms deployment.contracts contracts) {sender : Addr}
    {msg : WasmMsg} (account : sender ≠ deployment.bridge)
    (executed : deployment.executeTx contracts world sender msg = .ok after) :
    deployment.Executed sender world msg after := by
  simp only [Chain.executeTx, bind_eq_ok, pure_eq_ok] at executed
  rcases executed with ⟨reached, ran, rfl⟩
  have deeper := (conforms.refines deployment.toChain).dispatch deployment.aborting
    (Nat.le_add_right (deployment.depth + 1) 3) (uncaught_singleton rfl) ran
  rw [Machine.dispatch_succ_cons, bind_eq_ok] at deeper
  rcases deeper with ⟨middle, first, last⟩
  simp only [Machine.dispatch_nil, Except.ok.injEq] at last
  subst last
  cases msg with
  | execute contract msg =>
      by_cases isBridge : contract = deployment.bridge
      · subst isBridge
        exact executed_of_bridge account first
      · exact executed_of_collection isBridge first
  | instantiate admin code msg label => exact executed_of_instantiate first

end Executing

end Deployment

end Ics721
