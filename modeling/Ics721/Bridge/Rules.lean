import Ics721.Registry.Runs

/-!
# The bridge among arbitrary contracts

The other contracts of the chain do as they like, and may call the bridge while it waits for
them.  What can happen to the bridge in the course of a transaction is nevertheless a short
list.  `BridgeRules` has one rule for each item of it, and an invariant that follows all of
them survives every transaction.
-/

namespace Ics721

open Library

variable {σ : Type}

/-- The bridge instantiated a contract.  If that made no calls, the bridge is replied to at
once. -/
def Answers (chain : Chain) (contracts : Contracts σ) (world : World σ) (msg : CosmosMsg)
    (after : World σ) (data : Option ReplyData) : Prop :=
  ∀ admin code init label, msg = .wasm (.instantiate admin code init label) →
    ∃ contract outcome,
      contracts.instantiate world.storage world.contracts chain.bridge code init =
        .ok (contract, outcome) ∧
      (outcome.messages = [] → after = { world with contracts := outcome.world } ∧
        data = some (.instantiated contract.addr))

/-- How an invariant of the bridge survives whatever contracts do.  `own world sub` says that
`sub` is one of the messages the bridge emits on its own behalf, and `grows` how the world
may change in between. -/
structure BridgeRules (chain : Chain) (contracts : Contracts σ) where
  holds : World σ → Prop
  grows : World σ → World σ → Prop
  own : World σ → SubMsg CosmosMsg → Prop
  refl : ∀ world, grows world world
  trans : ∀ {first second third}, grows first second → grows second third → grows first third
  own_kept : ∀ {world after sub}, own world sub → grows world after → own after sub
  /-- Another contract is called. -/
  called : ∀ {world : World σ} {caller contract : Addr} {msg : ExecMsg} {sub outcome},
    holds world → (caller = chain.bridge → own world sub) →
    sub.msg = .wasm (.execute contract msg) → contract ≠ chain.bridge →
    contracts.execute world.storage world.contracts caller contract msg = .ok outcome →
    holds { world with contracts := outcome.world } ∧
      grows world { world with contracts := outcome.world }
  /-- Another contract is instantiated. -/
  instantiated : ∀ {world : World σ} {caller contract : Addr} {admin code msg label sub outcome},
    holds world → (caller = chain.bridge → own world sub) →
    sub.msg = .wasm (.instantiate admin code msg label) →
    contracts.instantiate world.storage world.contracts caller code msg =
      .ok (contract, outcome) →
    holds { world with contracts := outcome.world } ∧
      grows world { world with contracts := outcome.world }
  /-- Another contract is replied to. -/
  answered : ∀ {world : World σ} {caller : Addr} {id result outcome},
    holds world → caller ≠ chain.bridge →
    contracts.reply world.storage world.contracts caller id result = .ok outcome →
    holds { world with contracts := outcome.world } ∧
      grows world { world with contracts := outcome.world }
  /-- An NFT is sent to the bridge. -/
  sent : ∀ {world : World σ} {caller : Addr} {msg : ExecuteMsg} {record storage response},
    holds world → world.storage.paused = false → msg.sendRecord caller = some record →
    MaySend world.storage caller msg →
    receiveNft chain.api (contracts.querier world.contracts) world.storage record.contract
      record.tokenId record.sender record.msg = .ok (storage, response) →
    holds { world with storage := storage, sends := world.sends ++ [record] } ∧
      grows world { world with storage := storage, sends := world.sends ++ [record] } ∧
      ∀ sub ∈ response.messages,
        own { world with storage := storage, sends := world.sends ++ [record] } sub
  /-- The bridge hands a packet to IBC core. -/
  packet : ∀ {world after : World σ} {sub channelId data timeout},
    holds world → own world sub → sub.msg = .ibc (.sendPacket channelId data timeout) →
    chain.sendPacket world channelId data timeout = .ok after →
    holds after ∧ grows world after
  /-- The bridge is paused. -/
  paused : ∀ {world : World σ} {caller : Addr} {storage},
    holds world → world.storage.paused = false → world.storage.pause caller = .ok storage →
    holds { world with storage := storage } ∧ grows world { world with storage := storage }
  /-- The bridge calls itself. -/
  callback : ∀ {world : World σ} {sub callback storage response},
    holds world → world.storage.paused = false → own world sub →
    sub.msg = .wasm (.execute chain.bridge (.bridge (.callback callback))) →
    executeCallback chain.api chain.bridge world.storage chain.bridge callback =
      .ok (storage, response) →
    holds { world with storage := storage } ∧ grows world { world with storage := storage } ∧
      ∀ sub ∈ response.messages, own { world with storage := storage } sub
  /-- A message of the bridge went through and the bridge is replied to. -/
  replied : ∀ {world after : World σ} {sub data storage response},
    holds world → own world sub → holds after → grows world after →
    Answers chain contracts world sub.msg after data → sub.replyOn.onSuccess = true →
    reply chain.api (contracts.querier after.contracts) after.storage ⟨sub.id, .ok data⟩ =
      .ok (storage, response) →
    holds { after with storage := storage } ∧ grows after { after with storage := storage } ∧
      ∀ sub ∈ response.messages, own { after with storage := storage } sub
  /-- A message of the bridge failed and the bridge is replied to. -/
  caught : ∀ {world : World σ} {sub error storage response},
    own world sub → holds world → sub.replyOn.onError = true →
    reply chain.api (contracts.querier world.contracts) world.storage ⟨sub.id, .error error⟩ =
      .ok (storage, response) →
    holds { world with storage := storage } ∧ grows world { world with storage := storage } ∧
      ∀ sub ∈ response.messages, own { world with storage := storage } sub

/-! ## Transactions -/

/-- What a step can be.  A packet is settled with an error or with a success, whether it was
acknowledged or timed out. -/
inductive Transacted (chain : Chain) (contracts : Contracts σ) (world : World σ) :
    Chain.Label → World σ → Prop where
  | stayed (label : Chain.Label) : Transacted chain contracts world label world
  | executed {sender : Addr} {msg : WasmMsg} {after : World σ}
      (account : sender ≠ chain.bridge)
      (done : chain.executeTx contracts world sender msg = .ok after) :
      Transacted chain contracts world (.execute sender msg) after
  | received {packet : IbcPacket} {ack : Binary} {after : World σ}
      (port : packet.dest.portId = chain.portId)
      (done : chain.receiveTx contracts world packet = .ok (after, ack)) :
      Transacted chain contracts world (.receive packet) after
  | refused {packet : IbcPacket} {ack : Binary} {error : String} {after : World σ}
      (read : tryGetAckError chain.api ack = some error)
      (done : chain.settleTx contracts world packet
        (fun storage packet => handlePacketFail chain.api storage packet error) = .ok after) :
      Transacted chain contracts world (.ack packet ack) after
  | accepted {packet : IbcPacket} {ack : Binary} {after : World σ}
      (read : tryGetAckError chain.api ack = none)
      (done : chain.settleTx contracts world packet (handlePacketSuccess chain.api) =
        .ok after) :
      Transacted chain contracts world (.ack packet ack) after
  | timedOut {packet : IbcPacket} {after : World σ}
      (done : chain.settleTx contracts world packet
        (fun storage packet => handlePacketFail chain.api storage packet "timeout") =
          .ok after) :
      Transacted chain contracts world (.timeout packet) after
  | migrated {msg : MigrateMsg} {after : World σ}
      (done : chain.migrateTx world msg = .ok after) :
      Transacted chain contracts world (.migrate msg) after

theorem transacted (chain : Chain) (contracts : Contracts σ) (world : World σ)
    (label : Chain.Label) :
    Transacted chain contracts world label (chain.step contracts world label) := by
  unfold Chain.step
  split
  next after done =>
    cases label with
    | execute sender msg =>
        simp only [Chain.transaction] at done
        split at done
        next =>
          cases done
          exact .stayed _
        next account => exact .executed (fun self => account (.inl self)) done
    | receive packet =>
        simp only [Chain.transaction] at done
        split at done
        next port =>
          simp only [map_eq_ok] at done
          rcases done with ⟨⟨final, ack⟩, received, rfl⟩
          exact .received port received
        next =>
          cases done
          exact .stayed _
    | ack packet ack =>
        simp only [Chain.transaction, Chain.ackTx, ibcPacketAck] at done
        cases read : tryGetAckError chain.api ack with
        | none =>
            rw [read] at done
            exact .accepted read done
        | some error =>
            rw [read] at done
            exact .refused read done
    | timeout packet => exact .timedOut done
    | migrate msg => exact .migrated done
  next => exact .stayed label

/-- How a transaction starts: in which world, what is run on whose behalf, and with which data.
Migrations, what fails at once and what is nobody's business run nothing. -/
def Chain.begins (chain : Chain) (contracts : Contracts σ) (world : World σ) :
    Chain.Label → Option (World σ × Addr × List (SubMsg CosmosMsg) × Option ReplyData)
  | .execute sender msg =>
      if sender = chain.bridge ∨ contracts.isContract world.contracts sender = true then none
      else some (world, sender, [msg.sub], none)
  | .receive packet =>
      if packet.dest.portId = chain.portId then
        (receiveIbcPacket chain.api chain.bridge world.storage packet).toOption.map
          fun outcome => ({ world with storage := outcome.1 }, chain.bridge, outcome.2.messages,
            some (.binary outcome.2.acknowledgement))
      else none
  | .ack packet ack =>
      if packet ∈ world.commitments then
        (ibcPacketAck chain.api world.storage packet ack).toOption.map fun outcome =>
          ({ world with
              storage := outcome.1
              commitments := world.commitments.erase packet }, chain.bridge,
            outcome.2.messages, none)
      else none
  | .timeout packet =>
      if packet ∈ world.commitments then
        (ibcPacketTimeout chain.api world.storage packet).toOption.map fun outcome =>
          ({ world with
              storage := outcome.1
              commitments := world.commitments.erase packet }, chain.bridge,
            outcome.2.messages, none)
      else none
  | .migrate _ => none

/-- The ways in which a transaction starts. -/
inductive Started (chain : Chain) (contracts : Contracts σ) (world : World σ) :
    Chain.Label → World σ → Addr → List (SubMsg CosmosMsg) → Prop where
  | executed {sender : Addr} {msg : WasmMsg} (account : sender ≠ chain.bridge) :
      Started chain contracts world (.execute sender msg) world sender [msg.sub]
  | received {packet : IbcPacket} {data : NonFungibleTokenPacketData} {receiver : Addr}
      (port : packet.dest.portId = chain.portId)
      (checked : checkIbcPacket chain.api world.storage packet = .ok (data, receiver)) :
      Started chain contracts world (.receive packet)
        { world with storage := (selectActions packet data world.storage).1 } chain.bridge
        [(data.aggregate (selectActions packet data world.storage).2).intoSubmessage
          chain.bridge receiver]
  | acked {packet : IbcPacket} {ack : Binary} {storage : Storage} {response : Response}
      (pending : packet ∈ world.commitments)
      (handled : ibcPacketAck chain.api world.storage packet ack = .ok (storage, response)) :
      Started chain contracts world (.ack packet ack)
        { world with storage := storage, commitments := world.commitments.erase packet }
        chain.bridge response.messages
  | timedOut {packet : IbcPacket} {storage : Storage} {response : Response}
      (pending : packet ∈ world.commitments)
      (handled : ibcPacketTimeout chain.api world.storage packet = .ok (storage, response)) :
      Started chain contracts world (.timeout packet)
        { world with storage := storage, commitments := world.commitments.erase packet }
        chain.bridge response.messages

theorem toOption_eq_some {ε α : Type} {outcome : Except ε α} {value : α} :
    outcome.toOption = some value ↔ outcome = .ok value := by
  cases outcome with
  | error err => simp [Except.toOption]
  | ok found => simp [Except.toOption]

theorem started_of_begins {chain : Chain} {contracts : Contracts σ} {world start : World σ}
    {label : Chain.Label} {caller : Addr} {subs : List (SubMsg CosmosMsg)}
    {data : Option ReplyData}
    (begun : chain.begins contracts world label = some (start, caller, subs, data)) :
    Started chain contracts world label start caller subs := by
  cases label with
  | execute sender msg =>
      simp only [Chain.begins, Option.ite_none_left_eq_some, Option.some.injEq,
        Prod.mk.injEq] at begun
      rcases begun with ⟨account, rfl, rfl, rfl, -⟩
      exact .executed fun self => account (.inl self)
  | receive packet =>
      simp only [Chain.begins, Option.ite_none_right_eq_some, Option.map_eq_some_iff,
        toOption_eq_some, Prod.mk.injEq] at begun
      rcases begun with ⟨port, outcome, handled, rfl, rfl, rfl, -⟩
      simp only [receiveIbcPacket, bind_eq_ok, pure_eq_ok] at handled
      rcases handled with ⟨⟨payload, receiver⟩, checked, rfl⟩
      exact .received port checked
  | ack packet ack =>
      simp only [Chain.begins, Option.ite_none_right_eq_some, Option.map_eq_some_iff,
        toOption_eq_some, Prod.mk.injEq] at begun
      rcases begun with ⟨pending, outcome, handled, rfl, rfl, rfl, -⟩
      exact .acked pending handled
  | timeout packet =>
      simp only [Chain.begins, Option.ite_none_right_eq_some, Option.map_eq_some_iff,
        toOption_eq_some, Prod.mk.injEq] at begun
      rcases begun with ⟨pending, outcome, handled, rfl, rfl, rfl, -⟩
      exact .timedOut pending handled
  | migrate msg => cases begun

theorem settle_eq_begins (chain : Chain) (contracts : Contracts σ) (world : World σ)
    (packet : IbcPacket)
    (handler : Storage → IbcPacket → Except ContractError (Storage × Response)) :
    (match chain.settleTx contracts world packet handler with
      | .ok after => after
      | .error _ => world) =
      match (if packet ∈ world.commitments then
          (handler world.storage packet).toOption.map fun outcome =>
            (({ world with
              storage := outcome.1
              commitments := world.commitments.erase packet } : World σ), chain.bridge,
            outcome.2.messages, (none : Option ReplyData))
        else none) with
      | none => world
      | some (start, caller, subs, data) =>
          match (chain.machine contracts).dispatch (chain.depth + 1) start caller subs data with
          | .ok result => result.1
          | .error _ => world := by
  unfold Chain.settleTx
  by_cases pending : packet ∈ world.commitments
  · simp only [pending, if_true]
    cases handler world.storage packet with
    | error err => rfl
    | ok outcome =>
        simp only [mapError_ok, ok_bind, Except.toOption, Option.map_some, Chain.runMessages]
        cases (chain.machine contracts).dispatch (chain.depth + 1) _ chain.bridge
            outcome.2.messages none with
        | error err => rfl
        | ok result => rfl
  · simp only [pending, if_false]

/-- A step that is not a migration runs what its transaction starts with. -/
theorem step_eq_begins (chain : Chain) (contracts : Contracts σ) (world : World σ)
    {label : Chain.Label} (ordinary : ∀ msg, label ≠ .migrate msg) :
    chain.step contracts world label =
      match chain.begins contracts world label with
      | none => world
      | some (start, caller, subs, data) =>
          match (chain.machine contracts).dispatch (chain.depth + 1) start caller subs data with
          | .ok result => result.1
          | .error _ => world := by
  cases label with
  | execute sender msg =>
      simp only [Chain.step, Chain.transaction, Chain.begins]
      by_cases nobody : sender = chain.bridge ∨
          contracts.isContract world.contracts sender = true
      · simp only [nobody, if_true]
      · simp only [nobody, if_false, Chain.executeTx]
        cases (chain.machine contracts).dispatch (chain.depth + 1) world sender [msg.sub]
            none with
        | error err => rfl
        | ok result => rfl
  | receive packet => 
      simp only [Chain.step, Chain.transaction, Chain.begins]
      by_cases port : packet.dest.portId = chain.portId
      · simp only [port, if_true, Chain.receiveTx, ibcPacketReceive]
        cases receiveIbcPacket chain.api chain.bridge world.storage packet with
        | error err => simp [Chain.runMessages, pure, Except.pure, Except.map, Except.toOption]
        | ok outcome =>
            simp only [Chain.runMessages, Except.toOption, Option.map_some]
            cases (chain.machine contracts).dispatch (chain.depth + 1) _ chain.bridge
                outcome.2.messages _ with
            | error err => rfl
            | ok result =>
                rcases result with ⟨after, data⟩
                rcases data with _ | ⟨data | data⟩ <;> rfl
      · simp only [port, if_false]
  | ack packet ack =>
      exact settle_eq_begins chain contracts world packet
        fun storage packet => ibcPacketAck chain.api storage packet ack
  | timeout packet =>
      exact settle_eq_begins chain contracts world packet (ibcPacketTimeout chain.api)
  | migrate msg => exact absurd rfl (ordinary msg)

/-- A packet is settled by a handler of the bridge. -/
theorem dispatched_of_settleTx {chain : Chain} {contracts : Contracts σ}
    {world after : World σ} {packet : IbcPacket}
    {handler : Storage → IbcPacket → Except ContractError (Storage × Response)}
    (done : chain.settleTx contracts world packet handler = .ok after) :
    ∃ storage response result, packet ∈ world.commitments ∧
      handler world.storage packet = .ok (storage, response) ∧
      chain.runMessages contracts
        { world with storage := storage, commitments := world.commitments.erase packet }
        response.messages none = .ok result ∧ result.1 = after := by
  unfold Chain.settleTx at done
  split at done
  next pending =>
    simp only [bind_eq_ok, mapError_eq_ok, pure_eq_ok] at done
    rcases done with ⟨⟨storage, response⟩, handled, result, ran, reached⟩
    exact ⟨storage, response, result, pending, handled, ran, reached⟩
  next => cases done

/-! ## Calls -/

/-- What a successful call can be: of another contract, which may be new, of the bridge, by
whoever sends it an NFT, by its pauser or by itself, or of IBC core. -/
inductive Executed (chain : Chain) (contracts : Contracts σ) (world : World σ) (caller : Addr) :
    CosmosMsg → Addr → Reaction (World σ) CosmosMsg ReplyData → Prop where
  | called {contract : Addr} {msg : ExecMsg} {outcome : Reaction σ CosmosMsg ReplyData}
      (different : contract ≠ chain.bridge)
      (ran : contracts.execute world.storage world.contracts caller contract msg =
        .ok outcome) :
      Executed chain contracts world caller (.wasm (.execute contract msg)) contract
        ⟨{ world with contracts := outcome.world }, outcome.messages, outcome.data⟩
  | instantiated {admin : Option String} {code : Nat} {msg : InitMsg} {label : String}
      {contract : Addr} {outcome : Reaction σ CosmosMsg ReplyData}
      (ran : contracts.instantiate world.storage world.contracts caller code msg =
        .ok (contract, outcome)) :
      Executed chain contracts world caller (.wasm (.instantiate admin code msg label)) contract
        ⟨{ world with contracts := outcome.world }, outcome.messages,
          some (.instantiated contract.addr)⟩
  | sent {msg : ExecuteMsg} {record : SendRecord} {storage : Storage} {response : Response}
      (running : world.storage.paused = false) (sends : msg.sendRecord caller = some record)
      (may : MaySend world.storage caller msg)
      (received : receiveNft chain.api (contracts.querier world.contracts) world.storage
        record.contract record.tokenId record.sender record.msg = .ok (storage, response)) :
      Executed chain contracts world caller (.wasm (.execute chain.bridge (.bridge msg)))
        chain.bridge
        ⟨{ world with storage := storage, sends := world.sends ++ [record] },
          response.messages, response.data.map .binary⟩
  | paused {storage : Storage} {data : Option ReplyData}
      (running : world.storage.paused = false)
      (done : world.storage.pause caller = .ok storage) :
      Executed chain contracts world caller (.wasm (.execute chain.bridge (.bridge .pause)))
        chain.bridge ⟨{ world with storage := storage }, [], data⟩
  | callback {msg : CallbackMsg} {storage : Storage} {response : Response}
      (running : world.storage.paused = false) (self : caller = chain.bridge)
      (handled : executeCallback chain.api chain.bridge world.storage chain.bridge msg =
        .ok (storage, response)) :
      Executed chain contracts world caller
        (.wasm (.execute chain.bridge (.bridge (.callback msg)))) chain.bridge
        ⟨{ world with storage := storage }, response.messages, response.data.map .binary⟩
  | packet {channelId : String} {data : Binary} {timeout : IbcTimeout} {after : World σ}
      (self : caller = chain.bridge)
      (accepted : chain.sendPacket world channelId data timeout = .ok after) :
      Executed chain contracts world caller (.ibc (.sendPacket channelId data timeout)) caller
        ⟨after, [], none⟩
  | foreign {msg : IbcMsg} (outsider : caller ≠ chain.bridge) :
      Executed chain contracts world caller (.ibc msg) caller ⟨world, [], none⟩

theorem executed_of_bridge {chain : Chain} {contracts : Contracts σ} {world : World σ}
    {caller callee : Addr} {msg : ExecMsg} {reaction : Reaction (World σ) CosmosMsg ReplyData}
    (executed : chain.executeMsg contracts world caller (.wasm (.execute chain.bridge msg)) =
      .ok (callee, reaction)) :
    Executed chain contracts world caller (.wasm (.execute chain.bridge msg)) callee
      reaction := by
  cases msg with
  | cw721 msg => simp [Chain.executeMsg] at executed
  | other msg => simp [Chain.executeMsg] at executed
  | bridge msg =>
      simp only [Chain.executeMsg, if_true, bind_eq_ok, mapError_eq_ok, pure_eq_ok,
        Prod.mk.injEq] at executed
      rcases executed with ⟨⟨storage, response⟩, ran, rfl, rfl⟩
      rcases execute_cases ran with ⟨running, cases_⟩
      rcases cases_ with ⟨record, sends, may, received⟩ | ⟨rfl, paused, silent⟩ |
        ⟨callback, rfl, self, called⟩
      · simp only [World.react, sends, Option.toList_some]
        exact .sent running sends may received
      · simp only [World.react, silent, ExecuteMsg.sendRecord, Option.toList_none,
          List.append_nil]
        exact .paused running paused
      · rw [self] at called
        simp only [World.react, ExecuteMsg.sendRecord, Option.toList_none, List.append_nil]
        exact .callback running self called

theorem executed_of_executeMsg {chain : Chain} {contracts : Contracts σ} {world : World σ}
    {caller callee : Addr} {msg : CosmosMsg}
    {reaction : Reaction (World σ) CosmosMsg ReplyData}
    (executed : chain.executeMsg contracts world caller msg = .ok (callee, reaction)) :
    Executed chain contracts world caller msg callee reaction := by
  cases msg with
  | wasm msg =>
      cases msg with
      | execute contract msg =>
          by_cases same : contract = chain.bridge
          · subst same
            exact executed_of_bridge executed
          · simp only [Chain.executeMsg, same, if_false, bind_eq_ok, mapError_eq_ok, pure_eq_ok,
              Prod.mk.injEq] at executed
            rcases executed with ⟨outcome, ran, rfl, rfl⟩
            exact .called same ran
      | instantiate admin code msg label =>
          simp only [Chain.executeMsg, bind_eq_ok, mapError_eq_ok, pure_eq_ok,
            Prod.mk.injEq] at executed
          rcases executed with ⟨⟨contract, outcome⟩, ran, rfl, rfl⟩
          exact .instantiated ran
  | ibc msg =>
      cases msg with
      | sendPacket channelId data timeout =>
          simp only [Chain.executeMsg] at executed
          split at executed
          next self =>
            simp only [bind_eq_ok, pure_eq_ok, Prod.mk.injEq] at executed
            rcases executed with ⟨after, accepted, rfl, rfl⟩
            exact .packet self accepted
          next outsider =>
            simp only [Except.ok.injEq, Prod.mk.injEq] at executed
            rcases executed with ⟨rfl, rfl⟩
            exact .foreign outsider

namespace BridgeRules

variable {chain : Chain} {contracts : Contracts σ} {codeId : Nat}
variable (rules : BridgeRules chain contracts) {caller : Addr} {world : World σ}

/-- What may run: anything if it is not the bridge that asks for it. -/
def Ready (caller : Addr) (world : World σ) (subs : List (SubMsg CosmosMsg)) : Prop :=
  rules.holds world ∧ (caller = chain.bridge → ∀ sub ∈ subs, rules.own world sub)

theorem ready_nil (holds : rules.holds world) : rules.Ready caller world [] :=
  ⟨holds, by simp⟩

variable {rules}

theorem Ready.execute (lawful : Lawful chain contracts codeId) {sub : SubMsg CosmosMsg}
    {subs : List (SubMsg CosmosMsg)} {callee : Addr}
    {reaction : Reaction (World σ) CosmosMsg ReplyData}
    (ready : rules.Ready caller world (sub :: subs))
    (executed : chain.executeMsg contracts world caller sub.msg = .ok (callee, reaction)) :
    rules.Ready callee reaction.world reaction.messages ∧
      rules.grows world reaction.world := by
  rcases ready with ⟨holds, all⟩
  have own : caller = chain.bridge → rules.own world sub :=
    fun self => all self sub List.mem_cons_self
  have kind := executed_of_executeMsg executed
  generalize content : sub.msg = msg at kind
  cases kind with
  | called different ran =>
      rcases rules.called holds own content different ran with ⟨after, grown⟩
      exact ⟨⟨after, fun self => absurd self different⟩, grown⟩
  | instantiated ran =>
      rcases rules.instantiated holds own content ran with ⟨after, grown⟩
      exact ⟨⟨after, fun self => absurd self (lawful.instantiate_fresh ran).2.2⟩, grown⟩
  | sent running sends may received =>
      rcases rules.sent holds running sends may received with ⟨after, grown, messages⟩
      exact ⟨⟨after, fun _ => messages⟩, grown⟩
  | paused running done =>
      rcases rules.paused holds running done with ⟨after, grown⟩
      exact ⟨rules.ready_nil after, grown⟩
  | callback running self handled =>
      rcases rules.callback holds running (own self) content handled with
        ⟨after, grown, messages⟩
      exact ⟨⟨after, fun _ => messages⟩, grown⟩
  | packet self accepted =>
      rcases rules.packet holds (own self) content accepted with ⟨kept, grown⟩
      exact ⟨rules.ready_nil kept, grown⟩
  | foreign outsider => exact ⟨rules.ready_nil holds, rules.refl _⟩

/-- The reply handler is called with what the message came to. -/
theorem answers_of_executeMsg {msg : CosmosMsg} {callee : Addr}
    {reaction : Reaction (World σ) CosmosMsg ReplyData} {after : World σ}
    {data : Option ReplyData}
    (executed : chain.executeMsg contracts world chain.bridge msg = .ok (callee, reaction))
    (silent : reaction.messages = [] → after = reaction.world ∧ data = reaction.data) :
    Answers chain contracts world msg after data := by
  intro admin code init label content
  subst content
  simp only [Chain.executeMsg, bind_eq_ok, mapError_eq_ok, pure_eq_ok, Prod.mk.injEq] at executed
  rcases executed with ⟨⟨contract, outcome⟩, ran, rfl, rfl⟩
  exact ⟨contract, outcome, ran, silent⟩

theorem Ready.replySuccess {sub : SubMsg CosmosMsg} {subs : List (SubMsg CosmosMsg)}
    {callee : Addr} {reaction : Reaction (World σ) CosmosMsg ReplyData}
    {after : World σ} {data : Option ReplyData}
    {response : Reaction (World σ) CosmosMsg ReplyData}
    (ready : rules.Ready caller world (sub :: subs))
    (executed : chain.executeMsg contracts world caller sub.msg = .ok (callee, reaction))
    (holds : rules.holds after) (grown : rules.grows world after)
    (silent : reaction.messages = [] → after = reaction.world ∧ data = reaction.data)
    (called : sub.replyOn.onSuccess = true)
    (replied : chain.replyMsg contracts after caller sub.id (.ok data) = .ok response) :
    rules.Ready caller response.world response.messages ∧
      rules.grows after response.world := by
  simp only [Chain.replyMsg, mapError_ok] at replied
  split at replied
  next self =>
    simp only [bind_eq_ok, mapError_eq_ok, pure_eq_ok] at replied
    rcases replied with ⟨⟨storage, answer⟩, ran, rfl⟩
    have own := ready.2 self sub List.mem_cons_self
    rw [self] at executed
    rcases rules.replied ready.1 own holds grown (answers_of_executeMsg executed silent) called
      ran with ⟨kept, more, messages⟩
    exact ⟨⟨kept, fun _ => messages⟩, more⟩
  next outsider =>
    simp only [bind_eq_ok, mapError_eq_ok, pure_eq_ok] at replied
    rcases replied with ⟨outcome, ran, rfl⟩
    rcases rules.answered holds outsider ran with ⟨kept, more⟩
    exact ⟨⟨kept, fun self => absurd self outsider⟩, more⟩

theorem Ready.replyError {sub : SubMsg CosmosMsg} {subs : List (SubMsg CosmosMsg)}
    {err : ChainError} {response : Reaction (World σ) CosmosMsg ReplyData}
    (ready : rules.Ready caller world (sub :: subs)) (called : sub.replyOn.onError = true)
    (replied : chain.replyMsg contracts world caller sub.id (.error err) = .ok response) :
    rules.Ready caller response.world response.messages ∧
      rules.grows world response.world := by
  simp only [Chain.replyMsg] at replied
  split at replied
  next self =>
    simp only [bind_eq_ok, mapError_eq_ok, pure_eq_ok] at replied
    rcases replied with ⟨⟨storage, answer⟩, ran, rfl⟩
    rcases rules.caught (ready.2 self sub List.mem_cons_self) ready.1 called ran with
      ⟨kept, more, messages⟩
    exact ⟨⟨kept, fun _ => messages⟩, more⟩
  next outsider =>
    simp only [bind_eq_ok, mapError_eq_ok, pure_eq_ok] at replied
    rcases replied with ⟨outcome, ran, rfl⟩
    rcases rules.answered ready.1 outsider ran with ⟨kept, more⟩
    exact ⟨⟨kept, fun self => absurd self outsider⟩, more⟩

variable (rules)

/-- The rules of the bridge are rules of the chain. -/
def toRules (lawful : Lawful chain contracts codeId) : (chain.machine contracts).Rules where
  holds := rules.holds
  ready := rules.Ready
  grows := rules.grows
  refl := rules.refl
  trans := rules.trans
  done ready := ready.1
  execute ready executed := ready.execute lawful executed
  next ready holds grown :=
    ⟨holds, fun self sub member =>
      rules.own_kept (ready.2 self sub (List.mem_cons_of_mem _ member)) grown⟩
  replySuccess ready executed holds grown silent called replied :=
    ready.replySuccess executed holds grown silent called replied
  replyError ready called replied := ready.replyError called replied

/-! ## Transactions -/

variable {after : World σ}

theorem runMessages (lawful : Lawful chain contracts codeId)
    {messages : List (SubMsg CosmosMsg)} {data : Option ReplyData}
    {result : World σ × Option ReplyData} (holds : rules.holds world)
    (own : ∀ sub ∈ messages, rules.own world sub)
    (ran : chain.runMessages contracts world messages data = .ok result) :
    rules.holds result.1 ∧ rules.grows world result.1 :=
  (rules.toRules lawful).dispatch ⟨holds, fun _ => own⟩ ran

theorem executeTx (lawful : Lawful chain contracts codeId) {msg : WasmMsg}
    (account : caller ≠ chain.bridge) (holds : rules.holds world)
    (executed : chain.executeTx contracts world caller msg = .ok after) :
    rules.holds after ∧ rules.grows world after := by
  simp only [Chain.executeTx, bind_eq_ok, pure_eq_ok] at executed
  rcases executed with ⟨result, ran, rfl⟩
  exact (rules.toRules lawful).dispatch ⟨holds, fun self => absurd self account⟩ ran

/-- A packet is delivered. -/
theorem receiveTx (lawful : Lawful chain contracts codeId) {packet : IbcPacket} {ack : Binary}
    (holds : rules.holds world)
    (noted : ∀ data receiver,
      checkIbcPacket chain.api world.storage packet = .ok (data, receiver) →
      rules.holds { world with storage := (selectActions packet data world.storage).1 } ∧
        rules.own { world with storage := (selectActions packet data world.storage).1 }
          ((data.aggregate (selectActions packet data world.storage).2).intoSubmessage
            chain.bridge receiver))
    (received : chain.receiveTx contracts world packet = .ok (after, ack)) :
    rules.holds after := by
  simp only [Chain.receiveTx, bind_eq_ok] at received
  rcases received with ⟨result, ran, final⟩
  have reached : result.1 = after := by
    split at final
    next =>
      simp only [pure_eq_ok, Prod.mk.injEq] at final
      exact final.1
    next =>
      simp only [pure_eq_ok, Prod.mk.injEq] at final
      exact final.1
  subst reached
  unfold ibcPacketReceive at ran
  split at ran
  next outcome handled =>
    simp only [receiveIbcPacket, bind_eq_ok, pure_eq_ok] at handled
    rcases handled with ⟨⟨data, receiver⟩, checked, rfl⟩
    rcases noted data receiver checked with ⟨start, own⟩
    refine (rules.runMessages lawful start ?_ ran).1
    intro sub member
    rw [List.mem_singleton.mp member]
    exact own
  next error failed => exact (rules.runMessages lawful holds (by simp) ran).1

/-- A packet is settled. -/
theorem settleTx (lawful : Lawful chain contracts codeId) {packet : IbcPacket}
    {handler : Storage → IbcPacket → Except ContractError (Storage × Response)}
    (settled : ∀ storage response, packet ∈ world.commitments →
      handler world.storage packet = .ok (storage, response) →
      rules.holds
          { world with storage := storage, commitments := world.commitments.erase packet } ∧
        ∀ sub ∈ response.messages, rules.own
          { world with storage := storage, commitments := world.commitments.erase packet } sub)
    (done : chain.settleTx contracts world packet handler = .ok after) : rules.holds after := by
  rcases dispatched_of_settleTx done with ⟨storage, response, result, pending, handled, ran, rfl⟩
  rcases settled storage response pending handled with ⟨start, own⟩
  exact (rules.runMessages lawful start own ran).1

end BridgeRules

/-! ## What the bridge emits -/

/-- The calls that the bridge makes in the course of a transaction in which it calls itself
only with what `built` permits. -/
inductive Own (bridge : Addr) (built : CallbackMsg → Prop) : SubMsg CosmosMsg → Prop where
  | cw721 (contract : Addr) (msg : Cw721ExecuteMsg) :
      Own bridge built (WasmMsg.execute contract (.cw721 msg)).sub
  | callback {msg : CallbackMsg} (permitted : built msg) :
      Own bridge built (WasmMsg.execute bridge (.bridge (.callback msg))).sub
  | acked {msg : CallbackMsg} (permitted : built msg) :
      Own bridge built
        ⟨.wasm (.execute bridge (.bridge (.callback msg))), .always, ackAndDoNothing⟩
  | collection (code : Nat) (msg : Cw721InstantiateMsg) (label : String) :
      Own bridge built ⟨.wasm (.instantiate none code (.cw721 msg) label), .success,
        instantiateCw721ReplyId⟩
  | proxy (admin : Option String) (code : Nat) (msg : Binary) (label : String) :
      Own bridge built
        ⟨.wasm (.instantiate admin code (.other msg) label), .success, instantiateProxyReplyId⟩

/-- What the bridge calls itself with in the course of receiving a packet. -/
inductive Built (bridge receiver : Addr) (aggregator : ActionAggregator) : CallbackMsg → Prop where
  | redeem {redemption : VoucherRedemption} (present : aggregator.redemption = some redemption) :
      Built bridge receiver aggregator (.redeemVouchers receiver.addr redemption)
  | create {creation : VoucherCreation} (present : aggregator.creation = some creation) :
      Built bridge receiver aggregator (.createVouchers receiver.addr creation)
  | mint {creation : VoucherCreation} (present : aggregator.creation = some creation) :
      Built bridge receiver aggregator (.mint creation.cls.id receiver.addr creation.tokens)
  | conjunction :
      Built bridge receiver aggregator (.conjunction (aggregator.operands bridge receiver))

/-- The bridge only ever emits what `built` permits. -/
def Closed (api : Api) (bridge : Addr) (built : CallbackMsg → Prop) : Prop :=
  ∀ callback storage after response, built callback →
    executeCallback api bridge storage bridge callback = .ok (after, response) →
    ∀ sub ∈ response.messages, Own bridge built sub

/-- The bridge does not call itself. -/
def Never (_ : CallbackMsg) : Prop := False

theorem closed_never {api : Api} {bridge : Addr} : Closed api bridge Never :=
  fun _ _ _ _ never => False.elim never

namespace Own

variable {api : Api} {bridge receiver : Addr} {built : CallbackMsg → Prop}
variable {aggregator : ActionAggregator}

theorem of_callback {sub : SubMsg CosmosMsg} {callback : CallbackMsg}
    (own : Own bridge built sub)
    (content : sub.msg = .wasm (.execute bridge (.bridge (.callback callback)))) :
    built callback := by
  cases own with
  | cw721 => cases content
  | callback permitted =>
      cases content
      exact permitted
  | acked permitted =>
      cases content
      exact permitted
  | collection => cases content
  | proxy => cases content

theorem mono {more : CallbackMsg → Prop} {sub : SubMsg CosmosMsg}
    (implies : ∀ callback, built callback → more callback) (own : Own bridge built sub) :
    Own bridge more sub := by
  cases own with
  | cw721 => exact .cw721 _ _
  | callback permitted => exact .callback (implies _ permitted)
  | acked permitted => exact .acked (implies _ permitted)
  | collection => exact .collection _ _ _
  | proxy => exact .proxy _ _ _ _

theorem map_sub {α : Type} {contract : Addr} {msg : α → Cw721ExecuteMsg} {items : List α}
    {sub : SubMsg CosmosMsg}
    (member : sub ∈ (items.map fun item =>
      WasmMsg.execute contract (.cw721 (msg item))).map (·.sub)) : Own bridge built sub := by
  simp only [List.map_map, List.mem_map, Function.comp_apply] at member
  rcases member with ⟨item, -, rfl⟩
  exact .cw721 _ _

theorem of_operand {msg : WasmMsg} (member : msg ∈ aggregator.operands bridge receiver) :
    ∃ callback, msg = .execute bridge (.bridge (.callback callback)) ∧
      Built bridge receiver aggregator callback := by
  simp only [ActionAggregator.operands, List.mem_append, Option.mem_toList,
    Option.map_eq_some_iff] at member
  rcases member with ⟨redemption, present, rfl⟩ | ⟨creation, present, rfl⟩
  · exact ⟨_, rfl, .redeem present⟩
  · exact ⟨_, rfl, .create present⟩

/-- The message of a received packet is a callback. -/
theorem of_message (aggregator : ActionAggregator) (bridge receiver : Addr) :
    ∃ callback, aggregator.message bridge receiver =
        .execute bridge (.bridge (.callback callback)) ∧
      Built bridge receiver aggregator callback := by
  unfold ActionAggregator.message
  split
  next msg single =>
    have member : msg ∈ aggregator.operands bridge receiver := by simp [single]
    exact of_operand member
  next => exact ⟨_, rfl, .conjunction⟩

/-- The submessage of a received packet. -/
theorem intoSubmessage (aggregator : ActionAggregator) (bridge receiver : Addr) :
    Own bridge (Built bridge receiver aggregator)
      (aggregator.intoSubmessage bridge receiver) := by
  unfold ActionAggregator.intoSubmessage
  rcases of_message aggregator bridge receiver with ⟨callback, message, permitted⟩
  rw [message]
  exact .acked permitted

/-- What the bridge emits when it calls itself is permitted again. -/
theorem closed_built : Closed api bridge (Built bridge receiver aggregator) := by
  intro callback storage after response permitted executed sub member
  simp only [Ics721.executeCallback, ne_eq, not_true_eq_false, if_false] at executed
  cases permitted with
  | redeem present =>
      simp only [callbackRedeemVouchers, bind_eq_ok, mapError_eq_ok, pure_eq_ok,
        Prod.mk.injEq] at executed
      rcases executed with ⟨contract, -, owner, -, -, rfl⟩
      exact map_sub member
  | create present =>
      simp only [callbackCreateVouchers, Except.ok.injEq, Prod.mk.injEq] at executed
      rcases executed with ⟨-, rfl⟩
      simp only [List.mem_append, List.mem_singleton] at member
      rcases member with instantiation | rfl
      · split at instantiation
        next => cases instantiation
        next =>
          rw [List.mem_singleton.mp instantiation]
          exact .collection _ _ _
      · exact .callback (.mint present)
  | mint present =>
      simp only [callbackMint, bind_eq_ok, mapError_eq_ok, pure_eq_ok,
        Prod.mk.injEq] at executed
      rcases executed with ⟨owner, -, contract, -, -, rfl⟩
      exact map_sub member
  | conjunction =>
      simp only [Except.ok.injEq, Prod.mk.injEq] at executed
      rcases executed with ⟨-, rfl⟩
      rcases List.mem_map.mp member with ⟨msg, operand, rfl⟩
      rcases of_operand operand with ⟨called, rfl, allowed⟩
      exact .callback allowed

/-- What the bridge emits when it settles a packet. -/
theorem handlePacketFail {storage after : Storage} {packet : IbcPacket}
    {error : String} {response : Response}
    (handled : Ics721.handlePacketFail api storage packet error = .ok (after, response)) :
    ∀ sub ∈ response.messages, Own bridge built sub := by
  intro sub member
  simp only [Ics721.handlePacketFail, bind_eq_ok, pure_eq_ok, Prod.mk.injEq] at handled
  rcases handled with ⟨message, -, contract, -, sender, -, -, rfl⟩
  exact map_sub member

theorem handlePacketSuccess {storage after : Storage} {packet : IbcPacket}
    {response : Response}
    (handled : Ics721.handlePacketSuccess api storage packet = .ok (after, response)) :
    ∀ sub ∈ response.messages, Own bridge built sub := by
  intro sub member
  simp only [Ics721.handlePacketSuccess, bind_eq_ok, pure_eq_ok, Prod.mk.injEq] at handled
  rcases handled with ⟨message, -, contract, -, -, rfl⟩
  rcases foldl_burnNotice message.classId packet.src.channelId contract message.tokenIds storage
    [] with ⟨burned, -, -, folded⟩
  simp only [folded, List.nil_append] at member
  exact map_sub member

end Own

/-- A call of `receive_nft` leaves a packet to be sent. -/
theorem receiveNft_messages {api : Api} {querier : Querier} {storage after : Storage}
    {info : Addr} {tokenId : TokenId} {sender : String} {msg : Binary} {response : Response}
    (received : receiveNft api querier storage info tokenId sender msg =
      .ok (after, response)) :
    ∃ channelId data timeout,
      response.messages = [(CosmosMsg.ibc (.sendPacket channelId data timeout)).sub] := by
  simp only [receiveNft, bind_eq_ok, pure_eq_ok, Prod.mk.injEq] at received
  rcases received with ⟨_, -, _, -, _, -, _, -, -, rfl⟩
  exact ⟨_, _, _, rfl⟩

/-- What the bridge does when it is replied to: nothing, register a collection, or note its
proxy. -/
inductive Replied (storage : Storage) : Storage → Prop where
  | same : Replied storage storage
  | registered (classId : ClassId) (contract : Addr) :
      Replied storage { storage with
        classIdToNftContract := storage.classIdToNftContract.save classId contract
        nftContractToClassId := storage.nftContractToClassId.save contract classId }
  | proxied (proxy : Addr) : Replied storage { storage with proxy := some proxy }

theorem reply_cases {api : Api} {querier : Querier} {storage after : Storage} {answer : Reply}
    {response : Response}
    (replied : reply api querier storage answer = .ok (after, response)) :
    Replied storage after ∧ response.messages = [] := by
  unfold reply at replied
  split at replied
  next =>
    simp only [replyInstantiateCw721, bind_eq_ok, pure_eq_ok, Prod.mk.injEq] at replied
    rcases replied with ⟨_, -, _, -, _, -, rfl, rfl⟩
    exact ⟨.registered _ _, rfl⟩
  next =>
    split at replied
    next =>
      simp only [replyInstantiateProxy, bind_eq_ok, pure_eq_ok, Prod.mk.injEq] at replied
      rcases replied with ⟨_, -, _, -, rfl, rfl⟩
      exact ⟨.proxied _, rfl⟩
    next =>
      split at replied
      next =>
        split at replied
        next =>
          cases replied
          exact ⟨.same, rfl⟩
        next =>
          cases replied
          exact ⟨.same, rfl⟩
      next => cases replied

/-- The bridge emits nothing when it is replied to. -/
theorem reply_messages {api : Api} {querier : Querier} {storage after : Storage}
    {answer : Reply} {response : Response}
    (replied : reply api querier storage answer = .ok (after, response)) :
    response.messages = [] :=
  (reply_cases replied).2

end Ics721
