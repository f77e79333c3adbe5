import Ics721.Bridge.Pause
import Ics721.Chain.Virus

/-!
# Settling a packet while contracts call back

The refund of a packet that failed is a call of an NFT contract, and the bridge takes NFTs
from contracts at any time.  The settlement itself emits no packet; each packet that is sent in
the course of it is one that a contract asked for by calling `receive_nft`.
-/

namespace Ics721

open Library

variable {σ : Type}

/-! ## Receptions -/

/-- The NFT that a successful call hands to the bridge, if it hands one. -/
def receptionOf (bridge : Addr) (call : Addr × CosmosMsg) : Option SendRecord :=
  match call.2 with
  | .wasm (.execute contract (.bridge msg)) =>
      if contract = bridge then msg.sendRecord call.1 else none
  | _ => none

/-- The NFTs that are handed to the bridge in a list of calls. -/
def receptions (bridge : Addr) (calls : List (Addr × CosmosMsg)) : List SendRecord :=
  calls.filterMap (receptionOf bridge)

/-- The calls that go through in a step. -/
def Chain.callsIn (chain : Chain) (contracts : Contracts σ) (world : World σ)
    (label : Chain.Label) : List (Addr × CosmosMsg) :=
  match chain.begins contracts world label with
  | none => []
  | some (start, caller, subs, data) =>
      (chain.machine contracts).calls (chain.depth + 1) start caller subs data

/-- What calls add to the packets and to the history, and that a paused bridge takes no
NFTs. -/
structure Growth (before after : World σ) (records : List SendRecord) : Prop where
  sends : after.sends = before.sends ++ records
  packets : ∃ packets, after.commitments = before.commitments ++ packets ∧
    after.nextSequence = before.nextSequence + packets.length
  frozen : before.storage.paused = true → after.storage.paused = true ∧ records = []

namespace Growth

/-- Neither the packets nor the history changed. -/
theorem same {before after : World σ} (sends : after.sends = before.sends)
    (commitments : after.commitments = before.commitments)
    (sequence : after.nextSequence = before.nextSequence)
    (frozen : before.storage.paused = true → after.storage.paused = true) :
    Growth before after [] where
  sends := by rw [sends, List.append_nil]
  packets := ⟨[], by rw [commitments, List.append_nil], sequence⟩
  frozen paused := ⟨frozen paused, rfl⟩

theorem trans {first second third : World σ} {records more : List SendRecord}
    (left : Growth first second records) (right : Growth second third more) :
    Growth first third (records ++ more) where
  sends := by rw [right.sends, left.sends, List.append_assoc]
  packets := by
    rcases left.packets with ⟨packets, commitments, sequence⟩
    rcases right.packets with ⟨others, commitments', sequence'⟩
    refine ⟨packets ++ others, ?_, ?_⟩
    · rw [commitments', commitments, List.append_assoc]
    · rw [sequence', sequence, List.length_append, Nat.add_assoc]
  frozen := by
    intro paused
    rcases left.frozen paused with ⟨still, rfl⟩
    rcases right.frozen still with ⟨last, rfl⟩
    exact ⟨last, rfl⟩

end Growth

section Calls

variable {chain : Chain} {contracts : Contracts σ}

theorem receptions_call_ne {bridge caller contract : Addr} {msg : ExecMsg}
    (different : contract ≠ bridge) :
    receptions bridge [(caller, .wasm (.execute contract msg))] = [] := by
  cases msg with
  | bridge msg => simp [receptions, receptionOf, different]
  | cw721 msg => rfl
  | other msg => rfl

/-- What one call adds. -/
theorem executeMsg_growth {world : World σ} {caller callee : Addr} {msg : CosmosMsg}
    {reaction : Reaction (World σ) CosmosMsg ReplyData}
    (executed : chain.executeMsg contracts world caller msg = .ok (callee, reaction)) :
    Growth world reaction.world (receptions chain.bridge [(caller, msg)]) := by
  cases executed_of_executeMsg executed with
  | called different ran =>
      rw [receptions_call_ne different]
      exact .same rfl rfl rfl id
  | instantiated ran => exact .same rfl rfl rfl id
  | @sent msg record storage response running sends may received =>
      have handed : receptions chain.bridge
          [(caller, .wasm (.execute chain.bridge (.bridge msg)))] = [record] := by
        simp [receptions, receptionOf, sends]
      rw [handed]
      refine ⟨rfl, ⟨[], by simp, rfl⟩, fun paused => ?_⟩
      rw [running] at paused
      cases paused
  | paused running done =>
      have silent : receptions chain.bridge
          [(caller, .wasm (.execute chain.bridge (.bridge .pause)))] = [] := by
        simp [receptions, receptionOf, ExecuteMsg.sendRecord]
      rw [silent]
      refine .same rfl rfl rfl fun paused => ?_
      rw [running] at paused
      cases paused
  | @callback msg storage response running self handled =>
      have silent : receptions chain.bridge
          [(caller, .wasm (.execute chain.bridge (.bridge (.callback msg))))] = [] := by
        simp [receptions, receptionOf, ExecuteMsg.sendRecord]
      rw [silent]
      refine .same rfl rfl rfl fun paused => ?_
      rw [running] at paused
      cases paused
  | packet self accepted =>
      simp only [Chain.sendPacket] at accepted
      split at accepted
      next => cases accepted
      next =>
        cases accepted
        exact ⟨(List.append_nil _).symm, ⟨_, rfl, rfl⟩, fun paused => ⟨paused, rfl⟩⟩
  | foreign outsider => exact .same rfl rfl rfl id

theorem replyMsg_growth {world : World σ} {caller : Addr} {id : Nat}
    {result : Except ChainError (Option ReplyData)}
    {reaction : Reaction (World σ) CosmosMsg ReplyData}
    (replied : chain.replyMsg contracts world caller id result = .ok reaction) :
    Growth world reaction.world [] := by
  simp only [Chain.replyMsg] at replied
  split at replied
  next =>
    simp only [bind_eq_ok, mapError_eq_ok, pure_eq_ok] at replied
    rcases replied with ⟨⟨storage, response⟩, ran, rfl⟩
    refine .same rfl rfl rfl fun paused => ?_
    rw [← paused]
    exact (reply_pause ran).1
  next =>
    simp only [bind_eq_ok, mapError_eq_ok, pure_eq_ok] at replied
    rcases replied with ⟨_, -, rfl⟩
    exact .same rfl rfl rfl fun paused => paused

/-- Packets and history follow the calls of a transaction. -/
def growthFollower (chain : Chain) (contracts : Contracts σ) :
    (chain.machine contracts).Follower where
  relates before after calls := Growth before after (receptions chain.bridge calls)
  refl world := .same rfl rfl rfl id
  trans := by
    intro first second third before after left right
    simp only [receptions, List.filterMap_append]
    exact left.trans right
  execute := executeMsg_growth
  reply := replyMsg_growth

end Calls

/-! ## Contracts that do not call back -/

section Quiet

variable {chain : Chain} {contracts : Contracts σ}

/-- A transfer of an NFT. -/
inductive Transfers : SubMsg CosmosMsg → Prop where
  | transfer (contract : Addr) (recipient : String) (tokenId : TokenId) :
      Transfers (WasmMsg.execute contract (.cw721 (.transferNft recipient tokenId))).sub

/-- No contract calls anyone when the bridge transfers an NFT. -/
def QuietTransfers (chain : Chain) (contracts : Contracts σ) : Prop :=
  ∀ storage state contract recipient tokenId reaction,
    contracts.execute storage state chain.bridge contract
      (.cw721 (.transferNft recipient tokenId)) = .ok reaction →
    reaction.messages = []

/-- The transfers of the bridge are the only calls if the contracts are quiet. -/
def quietRules (quiet : QuietTransfers chain contracts) :
    (chain.machine contracts).traced.Rules where
  holds state := receptions chain.bridge state.2 = []
  ready caller state subs := receptions chain.bridge state.2 = [] ∧
    (subs = [] ∨ caller = chain.bridge ∧ ∀ sub ∈ subs, Transfers sub)
  grows _ _ := True
  refl _ := trivial
  trans _ _ := trivial
  done ready := ready.1
  execute := by
    intro caller state sub subs callee reaction ready executed
    rcases ready with ⟨none_, empty | ⟨self, transfers⟩⟩
    · cases empty
    · simp only [Machine.traced, bind_eq_ok, pure_eq_ok, Prod.mk.injEq] at executed
      rcases executed with ⟨⟨callee, inner⟩, ran, rfl, rfl⟩
      cases transfers sub List.mem_cons_self with
      | transfer contract recipient tokenId =>
          have executed : chain.executeMsg contracts state.1 caller
              (.wasm (.execute contract (.cw721 (.transferNft recipient tokenId)))) =
                .ok (callee, inner) := ran
          have kind := executed_of_executeMsg executed
          generalize content : CosmosMsg.wasm (.execute contract
            (.cw721 (.transferNft recipient tokenId))) = msg at kind
          cases kind with
          | called different called =>
              cases content
              subst self
              refine ⟨⟨?_, .inl (quiet _ _ _ _ _ _ called)⟩, trivial⟩
              simp only [receptions, List.filterMap_append] at none_ ⊢
              rw [none_]
              rfl
          | instantiated => cases content
          | sent => cases content
          | paused => cases content
          | callback => cases content
          | packet => cases content
          | foreign => cases content
  next := by
    intro caller state sub subs after ready kept _
    refine ⟨kept, ?_⟩
    rcases ready.2 with empty | ⟨self, transfers⟩
    · cases empty
    · exact .inr ⟨self, fun sub member => transfers sub (List.mem_cons_of_mem _ member)⟩
  replySuccess := by
    intro caller state sub subs callee reaction after data response ready _ _ _ _ called _
    rcases ready.2 with empty | ⟨-, transfers⟩
    · cases empty
    · cases transfers sub List.mem_cons_self
      cases called
  replyError := by
    intro caller state sub subs err response ready called _
    rcases ready.2 with empty | ⟨-, transfers⟩
    · cases empty
    · cases transfers sub List.mem_cons_self
      cases called

theorem receptions_of_quiet (quiet : QuietTransfers chain contracts) {depth : Nat}
    {world : World σ} {subs : List (SubMsg CosmosMsg)} {data : Option ReplyData}
    (transfers : ∀ sub ∈ subs, Transfers sub) :
    receptions chain.bridge
      ((chain.machine contracts).calls depth world chain.bridge subs data) = [] := by
  unfold Machine.calls
  split
  next result noted =>
    exact ((quietRules quiet).dispatch ⟨rfl, .inr ⟨rfl, transfers⟩⟩ noted).1
  next => rfl

end Quiet

/-! ## Settlements -/

/-- The packet fails: it times out, or the acknowledgement is an error. -/
inductive Fails (api : Api) (packet : IbcPacket) : Chain.Label → Prop where
  | timeout : Fails api packet (.timeout packet)
  | refused {ack : Binary} {error : String} (read : tryGetAckError api ack = some error) :
      Fails api packet (.ack packet ack)

section Settlements

variable {chain : Chain} {contracts : Contracts σ}

theorem transfers_fail {api : Api} {storage after : Storage} {packet : IbcPacket}
    {error : String} {response : Response}
    (handled : handlePacketFail api storage packet error = .ok (after, response)) :
    ∀ sub ∈ response.messages, Transfers sub := by
  intro sub member
  simp only [handlePacketFail, bind_eq_ok, pure_eq_ok, Prod.mk.injEq] at handled
  rcases handled with ⟨message, -, contract, -, sender, -, -, rfl⟩
  simp only [List.map_map, List.mem_map, Function.comp_apply] at member
  rcases member with ⟨tokenId, -, rfl⟩
  exact .transfer _ _ _

/-- The settlement of a packet that failed starts with transfers and without the packet. -/
theorem Fails.started {world start : World σ} {packet : IbcPacket} {label : Chain.Label}
    {caller : Addr} {subs : List (SubMsg CosmosMsg)} (fails : Fails chain.api packet label)
    (started : Started chain contracts world label start caller subs) :
    packet ∈ world.commitments ∧ caller = chain.bridge ∧ (∀ sub ∈ subs, Transfers sub) ∧
      start.commitments = world.commitments.erase packet ∧
      start.nextSequence = world.nextSequence ∧ start.sends = world.sends ∧
      start.storage.paused = world.storage.paused := by
  have paused := started.pause.1
  cases fails with
  | timeout =>
      cases started with
      | timedOut pending handled =>
          exact ⟨pending, rfl, transfers_fail handled, rfl, rfl, rfl, paused⟩
  | refused read =>
      cases started with
      | acked pending handled =>
          simp only [ibcPacketAck, read] at handled
          exact ⟨pending, rfl, transfers_fail handled, rfl, rfl, rfl, paused⟩

/-- What the settlement of a packet that failed emits. -/
structure SettlementEmits (chain : Chain) (contracts : Contracts σ) (packet : IbcPacket)
    (world : World σ) (label : Chain.Label) (after : World σ) : Prop where
  /-- The bridge itself asks for transfers only. -/
  transfers : ∃ start subs, chain.begins contracts world label =
    some (start, chain.bridge, subs, none) ∧ ∀ sub ∈ subs, Transfers sub
  /-- There is one new packet for each NFT that a contract handed to the bridge. -/
  packets : ∃ packets,
    after.commitments = world.commitments.erase packet ++ packets ∧
    packets.length = (receptions chain.bridge (chain.callsIn contracts world label)).length ∧
    after.sends = world.sends ++
      receptions chain.bridge (chain.callsIn contracts world label)
  /-- So there are fewer unsettled packets unless a contract did. -/
  fewer : after.commitments.length < world.commitments.length ↔
    receptions chain.bridge (chain.callsIn contracts world label) = []
  paused : world.storage.paused = true →
    receptions chain.bridge (chain.callsIn contracts world label) = []
  quiet : QuietTransfers chain contracts →
    receptions chain.bridge (chain.callsIn contracts world label) = []

/-- A settlement that goes through is a dispatch. -/
theorem Fails.dispatched {world after : World σ} {packet : IbcPacket} {label : Chain.Label}
    (fails : Fails chain.api packet label)
    (done : chain.transaction contracts world label = .ok after) :
    ∃ start subs result, chain.begins contracts world label =
        some (start, chain.bridge, subs, none) ∧
      (chain.machine contracts).dispatch (chain.depth + 1) start chain.bridge subs none =
        .ok result ∧ result.1 = after := by
  cases fails with
  | timeout =>
      simp only [Chain.transaction, Chain.timeoutTx] at done
      rcases dispatched_of_settleTx done with
        ⟨storage, response, result, pending, handled, ran, reached⟩
      refine ⟨_, _, result, ?_, ran, reached⟩
      simp only [Chain.begins, pending, if_true, handled, Except.toOption, Option.map_some]
  | refused read =>
      simp only [Chain.transaction, Chain.ackTx] at done
      rcases dispatched_of_settleTx done with
        ⟨storage, response, result, pending, handled, ran, reached⟩
      refine ⟨_, _, result, ?_, ran, reached⟩
      simp only [Chain.begins, pending, if_true, handled, Except.toOption, Option.map_some]

end Settlements

/-- In every reachable state and among whatever contracts, the settlement of a packet that
failed emits no packet of its own: the packets that are sent in the course of it are those of
the NFTs that contracts handed to the bridge meanwhile, so that the number of unsettled packets
decreases if and only if no contract does.  None does if the bridge is paused, or if contracts
do not call anyone when an NFT is transferred. -/
theorem settlement_emits_of_run {chain : Chain} {contracts : Contracts σ}
    {msg : InstantiateMsg} (lawful : Lawful chain contracts msg.cw721BaseCodeId) {state : σ}
    {genesis : World σ} (instantiated : chain.instantiateTx contracts msg state = .ok genesis)
    (labels : List Chain.Label) {world after : World σ}
    (reached : labels.foldl (chain.step contracts) genesis = world) {packet : IbcPacket}
    {label : Chain.Label} (fails : Fails chain.api packet label)
    (done : chain.transaction contracts world label = .ok after) :
    SettlementEmits chain contracts packet world label after := by
  have sound : Sound chain contracts msg.cw721BaseCodeId world := by
    rw [← reached]
    exact ((Sound.instantiateTx lawful rfl instantiated).run lawful labels).1
  rcases fails.dispatched done with ⟨start, subs, result, begun, ran, rfl⟩
  rcases fails.started (started_of_begins begun) with
    ⟨pending, -, transfers, commitments, sequence, sends, paused⟩
  have calls : chain.callsIn contracts world label =
      (chain.machine contracts).calls (chain.depth + 1) start chain.bridge subs none := by
    simp only [Chain.callsIn, begun]
  have growth := (growthFollower chain contracts).dispatch ran
  rw [← calls] at growth
  rcases growth.packets with ⟨packets, added, counted⟩
  -- History and packets are in step before and after, so they grow alike.
  have later : Sound chain contracts msg.cw721BaseCodeId result.1 := by
    have stepped := (sound.step lawful label).1
    simp only [Chain.step, done] at stepped
    exact stepped
  have alike : packets.length =
      (receptions chain.bridge (chain.callsIn contracts world label)).length := by
    have total := later.sequence
    rw [growth.sends, List.length_append, counted, sends, sequence, sound.sequence] at total
    omega
  have settled : (world.commitments.erase packet).length + 1 = world.commitments.length := by
    rw [List.length_erase_of_mem pending]
    have := List.length_pos_of_mem pending
    omega
  refine ⟨⟨start, subs, begun, transfers⟩, ⟨packets, ?_, alike, ?_⟩, ?_, ?_, ?_⟩
  · rw [added, commitments]
  · rw [growth.sends, sends]
  · rw [added, commitments, List.length_append, alike, ← List.length_eq_zero_iff]
    omega
  · intro frozen
    exact (growth.frozen (paused.trans frozen)).2
  · intro quiet
    rw [calls]
    exact receptions_of_quiet quiet transfers

/-! ## Infected chains -/

namespace Deployment

variable {deployment : Deployment} {env : Env} {virusCode : Nat}
variable {tokens : Ledger → (contract owner : Addr) → Except String (List TokenId)}

theorem isContract_put {ledger : Ledger} {contract other : Addr} {found collection : Collection}
    (there : ledger.contractAt deployment.api contract = some found)
    (known : (ledger.contractAt deployment.api other).isSome = true) :
    ((ledger.put contract collection).contractAt deployment.api other).isSome = true := by
  rw [Ledger.contractAt_put (Ledger.contractAt_eq_some.mp there).1]
  split
  next => rfl
  next => exact known

/-- A virus removes no contract. -/
theorem executeVirus_isContract {state : Infected} {sender contract other : Addr}
    {collection : Collection} {proteins : SpikeProteins} {msg : ExecMsg}
    {reaction : Reaction Infected CosmosMsg ReplyData}
    (there : state.ledger.contractAt deployment.api contract = some collection)
    (executed : deployment.executeVirus env tokens state sender contract collection proteins msg =
      .ok reaction)
    (known : (state.ledger.contractAt deployment.api other).isSome = true) :
    (reaction.world.ledger.contractAt deployment.api other).isSome = true := by
  unfold executeVirus at executed
  split at executed
  next =>
    simp only [bind_eq_ok, pure_eq_ok] at executed
    rcases executed with ⟨_, -, rfl⟩
    exact isContract_put there known
  next =>
    simp only [bind_eq_ok, pure_eq_ok] at executed
    rcases executed with ⟨_, -, rfl⟩
    exact isContract_put there known
  next =>
    simp only [bind_eq_ok, pure_eq_ok] at executed
    rcases executed with ⟨_, -, _, -, rfl⟩
    exact known
  next => cases executed

theorem infected_instantiate {storage : Storage} {state : Infected} {sender contract : Addr}
    {code : Nat} {msg : InitMsg} {reaction : Reaction Infected CosmosMsg ReplyData}
    (instantiated : (deployment.infectedContracts env tokens virusCode).instantiate storage state
      sender code msg = .ok (contract, reaction)) :
    ∃ inner, deployment.contracts.instantiate storage state.ledger sender code msg =
      .ok (contract, inner) ∧ reaction.world.ledger = inner.world ∧
      reaction.messages = inner.messages := by
  simp only [infectedContracts, bind_eq_ok, pure_eq_ok, Prod.mk.injEq] at instantiated
  rcases instantiated with ⟨⟨_, inner⟩, ran, rfl, rfl⟩
  exact ⟨inner, ran, rfl, rfl⟩

/-- A chain with viruses is as lawful as any. -/
theorem infected_lawful (deployment : Deployment) (env : Env)
    (tokens : Ledger → (contract owner : Addr) → Except String (List TokenId))
    (virusCode codeId : Nat) :
    Lawful deployment.toChain (deployment.infectedContracts env tokens virusCode) codeId where
  contract_valid known := (Deployment.lawful (.refl deployment.contracts) codeId).contract_valid
    known
  execute_kept := by
    intro storage state sender contract msg reaction executed other known
    simp only [infectedContracts] at executed
    split at executed
    next collection proteins there infected =>
      exact executeVirus_isContract there executed known
    next =>
      simp only [bind_eq_ok, pure_eq_ok] at executed
      rcases executed with ⟨inner, ran, rfl⟩
      exact (Deployment.lawful (.refl deployment.contracts) codeId).execute_kept ran known
  reply_kept := by
    intro storage state contract id result reaction replied
    cases replied
  instantiate_kept := by
    intro storage state sender code msg contract reaction instantiated other known
    rcases infected_instantiate instantiated with ⟨inner, ran, same, -⟩
    simp only [infectedContracts, same]
    exact (Deployment.lawful (.refl deployment.contracts) codeId).instantiate_kept ran known
  instantiate_fresh := by
    intro storage state sender code msg contract reaction instantiated
    rcases infected_instantiate instantiated with ⟨inner, ran, same, -⟩
    simp only [infectedContracts, same]
    exact (Deployment.lawful (.refl deployment.contracts) codeId).instantiate_fresh ran
  instantiate_cw721 := by
    intro storage state msg contract reaction instantiated
    rcases infected_instantiate instantiated with ⟨inner, ran, same, silent⟩
    rcases (Deployment.lawful (.refl deployment.contracts) codeId).instantiate_cw721 ran with
      ⟨quiet, named⟩
    simp only [infectedContracts, same, silent]
    exact ⟨quiet, named⟩
  nftInfo_contract queried :=
    (Deployment.lawful (.refl deployment.contracts) codeId).nftInfo_contract queried

end Deployment

namespace Sample

/-- Contracts with the code 2 are viruses. -/
def infected : Contracts Infected := chain.infectedContracts ⟨100, 0, 0⟩ (fun _ _ _ => .ok []) 2

/-- The bridge is instantiated before there is a virus. -/
def healthy : World Infected := ⟨genesis.storage, ⟨⟨.empty, 0⟩, .empty⟩, [], 0, []⟩

/-- Alice instantiates a virus, tells it where the bridge is, mints one of its NFTs and sends
it to Bob. -/
def outbreak : List Chain.Label :=
  [.execute ⟨"alice"⟩ (.instantiate none 2 (.cw721 ⟨"Virus", "virus", "alice"⟩) "virus"),
    .execute ⟨"alice"⟩ (.execute ⟨"contract0"⟩ (.other (Json.spikeProteins.toBinary
      ⟨some "contract3", none, some "channel-0", some "bridge"⟩))),
    .execute ⟨"alice"⟩ (.execute ⟨"contract0"⟩ (.cw721 (.mint ⟨"gem"⟩ "alice" none))),
    sendGem "alice" "bob" "channel-0"]

/-- The state after that. -/
def carrier : World Infected := outbreak.foldl (chain.step infected) healthy

/-- How many packets are unsettled when a packet of `carrier` has timed out, if that goes
through. -/
def pendingAfter (packet : IbcPacket) : Option Nat :=
  (chain.timeoutTx infected carrier packet).toOption.map fun after => after.commitments.length

end Sample

/-- The packet with the NFT of the virus times out, and ten new packets are sent. -/
theorem settlement_spreads_of_sample :
    Lawful Sample.chain.toChain Sample.infected 1 ∧
      Sample.chain.instantiateTx Sample.infected Sample.instantiateMsg ⟨⟨.empty, 0⟩, .empty⟩ =
        .ok Sample.healthy ∧
      ∃ packet after, Sample.carrier.commitments = [packet] ∧
        Sample.chain.timeoutTx Sample.infected Sample.carrier packet = .ok after ∧
        after.commitments.length = 10 := by
  refine ⟨Deployment.infected_lawful _ _ _ _ _, rfl, ?_⟩
  have spread : Sample.carrier.commitments.map Sample.pendingAfter = [some 10] := by
    decide +kernel
  rcases List.map_eq_singleton_iff.mp spread with ⟨packet, only, counted⟩
  simp only [Sample.pendingAfter, Option.map_eq_some_iff, toOption_eq_some] at counted
  rcases counted with ⟨after, done, ten⟩
  exact ⟨packet, after, only, done, ten⟩

/-- Alice's NFT is refunded by its collection, which calls nobody. -/
theorem settlement_emits_of_sample :
    ∃ packet after, (Sample.run Sample.sent).commitments = [packet] ∧
      Sample.chain.timeoutTx Sample.chain.contracts (Sample.run Sample.sent) packet = .ok after ∧
      SettlementEmits Sample.chain.toChain Sample.chain.contracts packet
        (Sample.run Sample.sent) (.timeout packet) after := by
  have pending : (Sample.run Sample.sent).commitments.map (fun packet =>
      (Sample.chain.timeoutTx Sample.chain.contracts (Sample.run Sample.sent)
        packet).toOption.isSome) = [true] := by
    decide +kernel
  rcases List.map_eq_singleton_iff.mp pending with ⟨packet, only, accepted⟩
  rcases Option.isSome_iff_exists.mp accepted with ⟨after, found⟩
  have done := toOption_eq_some.mp found
  exact ⟨packet, after, only, done, settlement_emits_of_run
    (Deployment.lawful (.refl Sample.chain.contracts) 1) Sample.instantiateTx_genesis
    Sample.sent rfl .timeout done⟩

end Ics721
