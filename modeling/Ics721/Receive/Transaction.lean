import Ics721.Chain.Host
import Ics721.Receive.Aggregate

/-!
# The transaction of a received packet

Whatever the other contracts do, a received packet ends in one of three ways: it is
rejected by the checks and nothing happens, its submessage fails and only what the fold
over its tokens wrote is kept, or its submessage succeeds.
-/

namespace Ics721

open Library

theorem checkIbcPacket_eq_ok {api : Api} {storage : Storage} {packet : IbcPacket}
    {data : NonFungibleTokenPacketData} {receiver : Addr} :
    checkIbcPacket api storage packet = .ok (data, receiver) ↔
      storage.paused = false ∧ api.packetData.fromBinary packet.data = .ok data ∧
        data.validate = .ok () ∧ api.addrValid data.receiver = true ∧
        receiver = ⟨data.receiver⟩ := by
  simp only [checkIbcPacket, bind_eq_ok, mapError_eq_ok, Storage.errorIfPaused_eq_ok,
    Api.addrValidate_eq_ok, pure_eq_ok, Prod.mk.injEq]
  constructor
  · rintro ⟨_, running, found, decoded, _, valid, _, ⟨known, rfl⟩, rfl, rfl⟩
    exact ⟨running, decoded, valid, known, rfl⟩
  · rintro ⟨running, decoded, valid, known, rfl⟩
    exact ⟨(), running, data, decoded, (), valid, _, ⟨known, rfl⟩, rfl, rfl⟩

namespace Chain

variable {σ : Type} (chain : Chain) (contracts : Contracts σ)

/-- Run the submessage of a received packet, with everything below it. -/
def deliver (world : World σ) (msg : WasmMsg) :
    Except ChainError (World σ × Option ReplyData) := do
  let (callee, reaction) ← chain.executeMsg contracts world chain.bridge (.wasm msg)
  (chain.machine contracts).dispatch chain.depth reaction.world callee reaction.messages
    reaction.data

/-- The message that a packet with checked contents amounts to. -/
def packetMessage (storage : Storage) (packet : IbcPacket)
    (data : NonFungibleTokenPacketData) (receiver : Addr) : WasmMsg :=
  (data.aggregate (selectActions packet data storage).2).message chain.bridge receiver

variable {chain contracts}

/-- The bridge calls back into itself. -/
theorem runOne_callback {world : World σ} {callback : CallbackMsg}
    {data : Option ReplyData} {result : World σ × Option ReplyData}
    {run : World σ → Addr → List (SubMsg CosmosMsg) → Option ReplyData →
      Except ChainError (World σ × Option ReplyData)} :
    (chain.machine contracts).runOne run chain.bridge (world, data)
        (WasmMsg.execute chain.bridge (.bridge (.callback callback))).sub = .ok result ↔
      world.storage.paused = false ∧
        ∃ storage response inner,
          executeCallback chain.api chain.bridge world.storage chain.bridge
            callback = .ok (storage, response) ∧
          run { world with storage := storage } chain.bridge response.messages
            (response.data.map .binary) = .ok inner ∧
          result = (inner.1, data) := by
  rw [Machine.runOne_never rfl]
  simp only [Chain.machine, WasmMsg.sub, CosmosMsg.sub, Chain.executeMsg, if_true, bind_eq_ok,
    mapError_eq_ok, pure_eq_ok, execute, Storage.errorIfPaused_eq_ok, ExecuteMsg.sendRecord,
    Option.toList_none, List.append_nil, World.react]
  constructor
  · rintro ⟨_, ⟨⟨storage, response⟩, ⟨_, running, called⟩, rfl⟩, inner, ran, rfl⟩
    exact ⟨running, storage, response, inner, called, ran, rfl⟩
  · rintro ⟨running, storage, response, inner, called, ran, rfl⟩
    exact ⟨_, ⟨(storage, response), ⟨(), running, called⟩, rfl⟩, inner, ran, rfl⟩

/-- The submessage of a packet, run for its effect on the world. -/
theorem deliver_iff {world after : World σ}
    {msg : WasmMsg} :
    (∃ data, chain.deliver contracts world msg = .ok (after, data)) ↔
      (chain.machine contracts).runOne ((chain.machine contracts).dispatch chain.depth) chain.bridge
        (world, none) msg.sub = .ok (after, none) := by
  rw [Machine.runOne_never rfl]
  simp only [Chain.deliver, bind_eq_ok, pure_eq_ok, Prod.mk.injEq, and_true]
  constructor
  · rintro ⟨data, outcome, executed, ran⟩
    exact ⟨outcome, executed, (after, data), ran, rfl⟩
  · rintro ⟨outcome, executed, ⟨reached, data⟩, ran, rfl⟩
    exact ⟨data, outcome, executed, ran⟩

/-- The submessage of a received packet is run and its result becomes the
acknowledgement. -/
theorem runMessages_acked (world : World σ) (msg : WasmMsg) (data : Option ReplyData) :
    chain.runMessages contracts world [⟨.wasm msg, .always, ackAndDoNothing⟩] data =
      match chain.deliver contracts world msg with
      | .ok (after, _) => .ok (after, some (.binary (ackSuccess chain.api)))
      | .error err => .ok (world, some (.binary (ackFail chain.api (chain.errorText err)))) := by
  have replies : ∀ (result : Except ChainError (Option ReplyData)) (reached : World σ),
      chain.replyMsg contracts reached chain.bridge ackAndDoNothing result =
        .ok ⟨reached, [], some (.binary (match result with
          | .ok _ => ackSuccess chain.api
          | .error err => ackFail chain.api (chain.errorText err)))⟩ := by
    intro result reached
    cases result with
    | ok data =>
        simp only [replyMsg, if_true, mapError_ok]
        rw [reply_ackSuccess]
        rfl
    | error err =>
        simp only [replyMsg, if_true, mapError_error]
        rw [reply_ackFail]
        rfl
  simp only [runMessages, Machine.dispatch_succ_cons, Machine.dispatch_nil]
  simp only [Machine.runOne, machine, ReplyOn.onSuccess, ReplyOn.onError, if_true, replies]
  simp only [deliver, machine]
  generalize (chain.executeMsg contracts world chain.bridge (.wasm msg) >>= fun outcome =>
    Machine.dispatch _ chain.depth outcome.2.world outcome.1 outcome.2.messages
      outcome.2.data) = delivered
  cases delivered with
  | ok result => simp
  | error err => simp

/-- How a received packet ends. -/
theorem receiveTx_eq (world : World σ) (packet : IbcPacket) :
    chain.receiveTx contracts world packet =
      match checkIbcPacket chain.api world.storage packet with
      | .error error => .ok (world, ackFail chain.api error.toString)
      | .ok (data, receiver) =>
          let noted := { world with storage := (selectActions packet data world.storage).1 }
          match chain.deliver contracts noted
              (chain.packetMessage world.storage packet data receiver) with
          | .ok (after, _) => .ok (after, ackSuccess chain.api)
          | .error err => .ok (noted, ackFail chain.api (chain.errorText err)) := by
  cases checked : checkIbcPacket chain.api world.storage packet with
  | error error =>
      simp [receiveTx, ibcPacketReceive, receiveIbcPacket, checked, runMessages, pure, Except.pure]
  | ok outcome =>
      obtain ⟨data, receiver⟩ := outcome
      simp only [receiveTx, ibcPacketReceive, receiveIbcPacket, checked, ok_bind, pure, Except.pure,
        ActionAggregator.intoSubmessage, runMessages_acked, packetMessage]
      cases chain.deliver contracts
          { world with storage := (selectActions packet data world.storage).1 }
          ((data.aggregate (selectActions packet data world.storage).2).message chain.bridge
            receiver) with
      | ok result => simp
      | error err => simp

end Chain

end Ics721
