import Ics721.Bridge.Authority
import Ics721.Library.Trace
import Ics721.Receive.Transaction

/-!
# Pausing

Whoever instantiates or migrates the bridge appoints a pauser.  The appointment is used up by
the first pause, which freezes everything but the settlement of packets until the next
migration.
-/

namespace Ics721

open Library

variable {σ : Type}

/-! ## Appointments -/

/-- Who makes a successful `Pause` call, if this is one. -/
def pauserOf (bridge : Addr) (call : Addr × CosmosMsg) : Option Addr :=
  match call.2 with
  | .wasm (.execute contract (.bridge .pause)) => if contract = bridge then some call.1 else none
  | _ => none

/-- Who paused the bridge in a list of calls. -/
def pausers (bridge : Addr) (calls : List (Addr × CosmosMsg)) : List Addr :=
  calls.filterMap (pauserOf bridge)

/-- What a list of calls does to the pause items: nothing, or the pauser paused the bridge. -/
inductive PauseChange (before after : Storage) : List Addr → Prop where
  | nobody (paused : after.paused = before.paused) (pauser : after.pauser = before.pauser) :
      PauseChange before after []
  | once {sender : Addr} (running : before.paused = false)
      (appointed : before.pauser = some sender) (paused : after.paused = true)
      (used : after.pauser = none) : PauseChange before after [sender]

theorem PauseChange.trans {first second third : Storage} {before after : List Addr}
    (left : PauseChange first second before) (right : PauseChange second third after) :
    PauseChange first third (before ++ after) := by
  cases left with
  | nobody paused pauser =>
      cases right with
      | nobody paused' pauser' => exact .nobody (paused'.trans paused) (pauser'.trans pauser)
      | once running appointed paused' used =>
          exact .once (paused.symm.trans running) (pauser.symm.trans appointed) paused' used
  | once running appointed paused used =>
      cases right with
      | nobody paused' pauser' =>
          exact .once running appointed (paused'.trans paused) (pauser'.trans used)
      | once running' =>
          rw [paused] at running'
          cases running'

section Calls

variable {chain : Chain} {contracts : Contracts σ}

theorem reply_pause {api : Api} {querier : Querier} {storage after : Storage} {answer : Reply}
    {response : Response} (replied : reply api querier storage answer = .ok (after, response)) :
    after.paused = storage.paused ∧ after.pauser = storage.pauser := by
  cases (reply_cases replied).1 with
  | same => exact ⟨rfl, rfl⟩
  | registered => exact ⟨rfl, rfl⟩
  | proxied => exact ⟨rfl, rfl⟩

theorem receiveNft_pause {api : Api} {querier : Querier} {storage after : Storage} {info : Addr}
    {tokenId : TokenId} {sender : String} {msg : Binary} {response : Response}
    (received : receiveNft api querier storage info tokenId sender msg =
      .ok (after, response)) :
    after.paused = storage.paused ∧ after.pauser = storage.pauser := by
  simp only [receiveNft, bind_eq_ok, mapError_eq_ok, pure_eq_ok, Prod.mk.injEq] at received
  rcases received with ⟨_, -, _, -, ⟨registered, cls⟩, selected, _, -, rfl, -⟩
  unfold classForContract at selected
  split at selected
  next =>
    simp only [bind_eq_ok, pure_eq_ok, Prod.mk.injEq] at selected
    rcases selected with ⟨_, -, rfl, -⟩
    exact ⟨rfl, rfl⟩
  next =>
    simp only [Except.ok.injEq, Prod.mk.injEq] at selected
    rcases selected with ⟨rfl, -⟩
    exact ⟨rfl, rfl⟩

theorem executeCallback_pause {api : Api} {bridge info : Addr} {storage after : Storage}
    {callback : CallbackMsg} {response : Response}
    (executed : executeCallback api bridge storage info callback = .ok (after, response)) :
    after.paused = storage.paused ∧ after.pauser = storage.pauser := by
  simp only [executeCallback, ite_error_eq_ok] at executed
  rcases executed with ⟨-, executed⟩
  cases callback with
  | createVouchers receiver create =>
      simp only [callbackCreateVouchers, Except.ok.injEq, Prod.mk.injEq] at executed
      rcases executed with ⟨rfl, -⟩
      exact ⟨rfl, rfl⟩
  | redeemVouchers receiver redeem =>
      simp only [callbackRedeemVouchers, bind_eq_ok, pure_eq_ok, Prod.mk.injEq] at executed
      rcases executed with ⟨_, -, _, -, rfl, -⟩
      exact ⟨rfl, rfl⟩
  | mint classId receiver tokens =>
      simp only [callbackMint, bind_eq_ok, pure_eq_ok, Prod.mk.injEq] at executed
      rcases executed with ⟨_, -, _, -, rfl, -⟩
      exact ⟨rfl, rfl⟩
  | conjunction operands =>
      simp only [Except.ok.injEq, Prod.mk.injEq] at executed
      rcases executed with ⟨rfl, -⟩
      exact ⟨rfl, rfl⟩

theorem pausers_call_ne {bridge caller contract : Addr} {msg : ExecMsg}
    (different : contract ≠ bridge) :
    pausers bridge [(caller, .wasm (.execute contract msg))] = [] := by
  simp only [pausers, pauserOf, List.filterMap_cons, List.filterMap_nil]
  split
  next => rfl
  next found =>
    split at found
    next content =>
      cases content
      simp [different] at found
    next => cases found

theorem pausers_send {bridge caller : Addr} {msg : ExecuteMsg} {record : SendRecord}
    (sends : msg.sendRecord caller = some record) :
    pausers bridge [(caller, .wasm (.execute bridge (.bridge msg)))] = [] := by
  cases msg with
  | receiveNft => rfl
  | receiveProxyNft => rfl
  | pause => cases sends
  | callback => cases sends

/-- What one call does to the pause items. -/
theorem executeMsg_pause {world : World σ} {caller callee : Addr} {msg : CosmosMsg}
    {reaction : Reaction (World σ) CosmosMsg ReplyData}
    (executed : chain.executeMsg contracts world caller msg = .ok (callee, reaction)) :
    PauseChange world.storage reaction.world.storage (pausers chain.bridge [(caller, msg)]) := by
  cases executed_of_executeMsg executed with
  | called different ran =>
      rw [pausers_call_ne different]
      exact .nobody rfl rfl
  | instantiated ran => exact .nobody rfl rfl
  | sent running sends may received =>
      rcases receiveNft_pause received with ⟨paused, pauser⟩
      rw [pausers_send sends]
      exact .nobody paused pauser
  | paused running done =>
      simp only [Storage.pause, bind_eq_ok, Storage.errorIfPaused_eq_ok,
        ite_error_eq_ok, pure_eq_ok, ne_eq, Decidable.not_not] at done
      rcases done with ⟨-, running, appointed, rfl⟩
      have caused : pausers chain.bridge
          [(caller, .wasm (.execute chain.bridge (.bridge .pause)))] = [caller] := by
        simp [pausers, pauserOf]
      rw [caused]
      exact .once running appointed rfl rfl
  | callback running self handled =>
      rcases executeCallback_pause handled with ⟨paused, pauser⟩
      exact .nobody paused pauser
  | packet self accepted =>
      simp only [Chain.sendPacket] at accepted
      split at accepted
      next => cases accepted
      next =>
        cases accepted
        exact .nobody rfl rfl
  | foreign outsider => exact .nobody rfl rfl

theorem replyMsg_pause {world : World σ} {caller : Addr} {id : Nat}
    {result : Except ChainError (Option ReplyData)}
    {reaction : Reaction (World σ) CosmosMsg ReplyData}
    (replied : chain.replyMsg contracts world caller id result = .ok reaction) :
    PauseChange world.storage reaction.world.storage [] := by
  simp only [Chain.replyMsg] at replied
  split at replied
  next =>
    simp only [bind_eq_ok, mapError_eq_ok, pure_eq_ok] at replied
    rcases replied with ⟨⟨storage, response⟩, ran, rfl⟩
    rcases reply_pause ran with ⟨paused, pauser⟩
    exact .nobody paused pauser
  next =>
    simp only [bind_eq_ok, mapError_eq_ok, pure_eq_ok] at replied
    rcases replied with ⟨_, -, rfl⟩
    exact .nobody rfl rfl

/-- The pause items follow the calls of a transaction. -/
def pauseFollower (chain : Chain) (contracts : Contracts σ) :
    (chain.machine contracts).Follower where
  relates before after calls :=
    PauseChange before.storage after.storage (pausers chain.bridge calls)
  refl world := .nobody rfl rfl
  trans := by
    intro first second third before after left right
    simp only [pausers, List.filterMap_append] at left right ⊢
    exact left.trans right
  execute := executeMsg_pause
  reply := replyMsg_pause

end Calls

/-! ## Steps -/

/-- An appointment: who may pause the bridge, and who did since. -/
structure Tenure where
  appointed : Option Addr
  paused : List Addr
  deriving DecidableEq, Repr

namespace Chain

variable (chain : Chain) (contracts : Contracts σ)

/-- Who pauses the bridge in a step. -/
def pausersIn (world : World σ) (label : Label) : List Addr :=
  match chain.begins contracts world label with
  | none => []
  | some (start, caller, subs, data) =>
      pausers chain.bridge
        ((chain.machine contracts).calls (chain.depth + 1) start caller subs data)

/-- The appointment after a step.  A migration makes a new one. -/
def tenure (world : World σ) (current : Tenure) : Label → Tenure
  | .migrate (.withUpdate pauser proxy) =>
      match chain.migrateTx world (.withUpdate pauser proxy) with
      | .ok _ => ⟨pauser.map Addr.mk, []⟩
      | .error _ => current
  | label => { current with paused := current.paused ++ chain.pausersIn contracts world label }

/-- The first appointment. -/
def firstTenure (msg : InstantiateMsg) (state : σ) : Tenure where
  appointed := msg.pauser.map Addr.mk
  paused :=
    match instantiate chain.api chain.bridge msg with
    | .ok (storage, response) =>
        pausers chain.bridge ((chain.machine contracts).calls (chain.depth + 1)
          ⟨storage, state, [], 0, []⟩ chain.bridge response.messages none)
    | .error _ => []

/-- A step of the chain, with the appointment. -/
def tenureStep (current : World σ × Tenure) (label : Label) : World σ × Tenure :=
  (chain.step contracts current.1 label, chain.tenure contracts current.1 current.2 label)

end Chain

/-- What an appointment says about the pause items. -/
inductive Tenure.Fits (storage : Storage) : Tenure → Prop where
  | unused {appointed : Option Addr} (running : storage.paused = false)
      (pauser : storage.pauser = appointed) : Tenure.Fits storage ⟨appointed, []⟩
  | used {sender : Addr} (paused : storage.paused = true) (pauser : storage.pauser = none) :
      Tenure.Fits storage ⟨some sender, [sender]⟩

theorem Tenure.Fits.change {before after : Storage} {tenure : Tenure} {senders : List Addr}
    (fits : tenure.Fits before) (change : PauseChange before after senders) :
    Tenure.Fits after { tenure with paused := tenure.paused ++ senders } := by
  cases fits with
  | unused running pauser =>
      cases change with
      | nobody paused' pauser' => exact .unused (paused'.trans running) (pauser'.trans pauser)
      | once _ appointed paused used =>
          rw [appointed] at pauser
          subst pauser
          exact .used paused used
  | used paused pauser =>
      cases change with
      | nobody paused' pauser' => exact .used (paused'.trans paused) (pauser'.trans pauser)
      | once running =>
          rw [paused] at running
          cases running

section Tenures

variable {chain : Chain} {contracts : Contracts σ}

theorem handlePacketFail_pause {api : Api} {storage after : Storage} {packet : IbcPacket}
    {error : String} {response : Response}
    (handled : handlePacketFail api storage packet error = .ok (after, response)) :
    after.paused = storage.paused ∧ after.pauser = storage.pauser := by
  simp only [handlePacketFail, bind_eq_ok, pure_eq_ok, Prod.mk.injEq] at handled
  rcases handled with ⟨_, -, _, -, _, -, rfl, -⟩
  exact ⟨rfl, rfl⟩

theorem ibcPacketAck_pause {api : Api} {storage after : Storage} {packet : IbcPacket}
    {ack : Binary} {response : Response}
    (handled : ibcPacketAck api storage packet ack = .ok (after, response)) :
    after.paused = storage.paused ∧ after.pauser = storage.pauser := by
  rcases ibcPacketAck_cases api storage packet ack with ⟨error, -, same⟩ | ⟨-, same⟩
  · rw [same] at handled
    exact handlePacketFail_pause handled
  · rw [same] at handled
    simp only [handlePacketSuccess, bind_eq_ok, pure_eq_ok, Prod.mk.injEq] at handled
    rcases handled with ⟨message, -, contract, -, rfl, -⟩
    rcases foldl_burnNotice message.classId packet.src.channelId contract message.tokenIds
      storage [] with ⟨burned, -, -, folded⟩
    rw [folded]
    exact ⟨rfl, rfl⟩

/-- No transaction touches the pause items before it runs its messages. -/
theorem Started.pause {world start : World σ} {label : Chain.Label} {caller : Addr}
    {subs : List (SubMsg CosmosMsg)}
    (started : Started chain contracts world label start caller subs) :
    start.storage.paused = world.storage.paused ∧
      start.storage.pauser = world.storage.pauser := by
  cases started with
  | executed => exact ⟨rfl, rfl⟩
  | @received packet data receiver _ checked =>
      have folded := sameButTransit_selectFrom packet.dest data.classId
        (tryPopSourcePrefix packet.src data.classId.id) world.storage data.incoming
      rw [← selectActions_eq] at folded
      exact ⟨folded.paused, folded.pauser⟩
  | acked _ handled => exact ibcPacketAck_pause handled
  | timedOut _ handled => exact handlePacketFail_pause handled

/-- What a step that is no migration does to the pause items. -/
theorem step_pause (world : World σ) {label : Chain.Label}
    (ordinary : ∀ msg, label ≠ .migrate msg) :
    PauseChange world.storage (chain.step contracts world label).storage
      (chain.pausersIn contracts world label) := by
  rw [step_eq_begins chain contracts world ordinary]
  unfold Chain.pausersIn
  cases begun : chain.begins contracts world label with
  | none => exact .nobody rfl rfl
  | some begin_ =>
      rcases begin_ with ⟨start, caller, subs, data⟩
      rcases (started_of_begins begun).pause with ⟨paused, pauser⟩
      simp only
      cases ran : (chain.machine contracts).dispatch (chain.depth + 1) start caller subs data with
      | error err =>
          rw [Machine.calls_of_error ran]
          exact .nobody rfl rfl
      | ok result =>
          have followed := (pauseFollower chain contracts).dispatch ran
          exact (PauseChange.nobody paused pauser).trans followed

/-- A migration appoints a pauser and unpauses the bridge. -/
theorem migrateTx_pause {world after : World σ} {pauser proxy : Option String}
    (migrated : chain.migrateTx world (.withUpdate pauser proxy) = .ok after) :
    after.storage.paused = false ∧ after.storage.pauser = pauser.map Addr.mk := by
  simp only [Chain.migrateTx, migrate, Storage.setPauser, bind_eq_ok, mapError_eq_ok,
    pure_eq_ok] at migrated
  rcases migrated with ⟨_, ⟨_, -, _, ⟨named, validated, rfl⟩, rfl⟩, rfl⟩
  refine ⟨rfl, ?_⟩
  cases pauser with
  | none =>
      cases validated
      rfl
  | some text =>
      simp only [Option.mapM_some, fmap_eq_ok, Api.addrValidate_eq_ok] at validated
      rcases validated with ⟨_, ⟨-, rfl⟩, rfl⟩
      rfl

theorem Tenure.Fits.step {current : World σ × Tenure}
    (fits : current.2.Fits current.1.storage) (label : Chain.Label) :
    (chain.tenureStep contracts current label).2.Fits
      (chain.tenureStep contracts current label).1.storage := by
  have ordinary : (∀ msg, label ≠ .migrate msg) →
      Tenure.Fits (chain.step contracts current.1 label).storage
        { current.2 with
          paused := current.2.paused ++ chain.pausersIn contracts current.1 label } :=
    fun different => fits.change (step_pause current.1 different)
  cases label with
  | execute sender msg => exact ordinary (by simp)
  | receive packet => exact ordinary (by simp)
  | ack packet ack => exact ordinary (by simp)
  | timeout packet => exact ordinary (by simp)
  | migrate msg =>
      cases msg with
      | withUpdate pauser proxy =>
          simp only [Chain.tenureStep, Chain.tenure, Chain.step, Chain.transaction]
          cases migrated : chain.migrateTx current.1 (.withUpdate pauser proxy) with
          | error err => exact fits
          | ok after =>
              rcases migrateTx_pause migrated with ⟨running, appointed⟩
              exact .unused running appointed

theorem Tenure.Fits.instantiateTx {msg : InstantiateMsg} {state : σ} {genesis : World σ}
    (instantiated : chain.instantiateTx contracts msg state = .ok genesis) :
    (chain.firstTenure contracts msg state).Fits genesis.storage := by
  simp only [Chain.instantiateTx, bind_eq_ok, mapError_eq_ok, pure_eq_ok] at instantiated
  rcases instantiated with ⟨⟨storage, response⟩, started, result, ran, rfl⟩
  have fresh : storage.paused = false ∧ storage.pauser = msg.pauser.map Addr.mk := by
    simp only [instantiate, Storage.setPauser, bind_eq_ok, mapError_eq_ok, pure_eq_ok,
      Prod.mk.injEq] at started
    rcases started with ⟨_, ⟨named, validated, rfl⟩, rfl, -⟩
    refine ⟨rfl, ?_⟩
    cases pauser : msg.pauser with
    | none =>
        rw [pauser] at validated
        cases validated
        rfl
    | some text =>
        rw [pauser] at validated
        simp only [Option.mapM_some, fmap_eq_ok, Api.addrValidate_eq_ok] at validated
        rcases validated with ⟨_, ⟨-, rfl⟩, rfl⟩
        rfl
  have followed := (pauseFollower chain contracts).dispatch ran
  have fits : Tenure.Fits storage ⟨msg.pauser.map Addr.mk, []⟩ := .unused fresh.1 fresh.2
  simp only [Chain.firstTenure, started]
  exact fits.change followed

end Tenures

/-! ## While the bridge is paused -/

section Frozen

variable {chain : Chain} {contracts : Contracts σ} {codeId : Nat}

/-- The calls of a bridge that settles packets. -/
inductive Settling : SubMsg CosmosMsg → Prop where
  | refund (contract : Addr) (recipient : String) (tokenId : TokenId) :
      Settling (WasmMsg.execute contract (.cw721 (.transferNft recipient tokenId))).sub
  | burn (contract : Addr) (tokenId : TokenId) :
      Settling (WasmMsg.execute contract (.cw721 (.burn tokenId))).sub

theorem Settling.silent {sub : SubMsg CosmosMsg} (settling : Settling sub) :
    sub.replyOn = .never := by
  cases settling with
  | refund => rfl
  | burn => rfl

/-- While the bridge is paused, no call of anyone changes anything about it. -/
def frozenRules (contracts : Contracts σ) (start : World σ)
    (paused : start.storage.paused = true) : BridgeRules chain contracts where
  holds world := world.storage = start.storage ∧ world.commitments = start.commitments ∧
    world.nextSequence = start.nextSequence
  grows _ _ := True
  own _ := Settling
  refl _ := trivial
  trans _ _ := trivial
  own_kept own _ := own
  called holds _ _ _ _ := ⟨holds, trivial⟩
  instantiated holds _ _ _ := ⟨holds, trivial⟩
  answered holds _ _ := ⟨holds, trivial⟩
  sent holds running _ _ _ := by
    rw [holds.1, paused] at running
    cases running
  packet _ own content _ := by
    cases own <;> cases content
  paused holds running _ := by
    rw [holds.1, paused] at running
    cases running
  callback holds running _ _ _ := by
    rw [holds.1, paused] at running
    cases running
  replied _ own _ _ _ called _ := by
    rw [own.silent] at called
    cases called
  caught own _ called _ := by
    rw [own.silent] at called
    cases called

theorem settling_fail {api : Api} {storage after : Storage} {packet : IbcPacket}
    {error : String} {response : Response}
    (handled : handlePacketFail api storage packet error = .ok (after, response)) :
    ∀ sub ∈ response.messages, Settling sub := by
  intro sub member
  simp only [handlePacketFail, bind_eq_ok, pure_eq_ok, Prod.mk.injEq] at handled
  rcases handled with ⟨message, -, contract, -, sender, -, -, rfl⟩
  simp only [List.map_map, List.mem_map, Function.comp_apply] at member
  rcases member with ⟨tokenId, -, rfl⟩
  exact .refund _ _ _

theorem settling_ack {api : Api} {storage after : Storage} {packet : IbcPacket}
    {ack : Binary} {response : Response}
    (handled : ibcPacketAck api storage packet ack = .ok (after, response)) :
    ∀ sub ∈ response.messages, Settling sub := by
  rcases ibcPacketAck_cases api storage packet ack with ⟨error, -, same⟩ | ⟨-, same⟩
  · rw [same] at handled
    exact settling_fail handled
  · intro sub member
    rw [same] at handled
    simp only [handlePacketSuccess, bind_eq_ok, pure_eq_ok, Prod.mk.injEq] at handled
    rcases handled with ⟨message, -, contract, -, -, rfl⟩
    rcases foldl_burnNotice message.classId packet.src.channelId contract message.tokenIds
      storage [] with ⟨burned, -, -, folded⟩
    simp only [folded, List.nil_append, List.map_map, List.mem_map,
      Function.comp_apply] at member
    rcases member with ⟨tokenId, -, rfl⟩
    exact .burn _ _

/-! ## Settlement -/

/-- The same storage with other pause items. -/
def Storage.withPause (storage : Storage) (paused : Bool) (pauser : Option Addr) : Storage :=
  { storage with paused := paused, pauser := pauser }

/-- The outcome of a handler, with other pause items. -/
def withPause (paused : Bool) (pauser : Option Addr) (outcome : Storage × Response) :
    Storage × Response :=
  (outcome.1.withPause paused pauser, outcome.2)

theorem foldl_burnNotice_withPause (paused : Bool) (pauser : Option Addr) (classId : ClassId)
    (channelId : String) (contract : Addr) (tokenIds : List TokenId)
    (state : Storage × List WasmMsg) :
    tokenIds.foldl (burnNotice classId channelId contract)
        (state.1.withPause paused pauser, state.2) =
      (((tokenIds.foldl (burnNotice classId channelId contract) state).1.withPause paused
        pauser), (tokenIds.foldl (burnNotice classId channelId contract) state).2) := by
  induction tokenIds generalizing state with
  | nil => rfl
  | cons tokenId tokenIds ih =>
      rw [List.foldl_cons, List.foldl_cons, ← ih]
      congr 1
      rcases state with ⟨storage, messages⟩
      simp only [burnNotice]
      change (if storage.incomingClassTokenToChannel (classId, tokenId) = some channelId then
        _ else _) = _
      split
      next => rfl
      next => rfl

theorem handlePacketFail_withPause (api : Api) (storage : Storage) (packet : IbcPacket)
    (error : String) (paused : Bool) (pauser : Option Addr) :
    handlePacketFail api (storage.withPause paused pauser) packet error =
      (handlePacketFail api storage packet error).map (withPause paused pauser) := by
  unfold handlePacketFail
  cases api.packetData.fromBinary packet.data with
  | error err => rfl
  | ok message =>
      have loaded : (storage.withPause paused pauser).loadNftContract message.classId =
          storage.loadNftContract message.classId := rfl
      simp only [mapError_ok, ok_bind, loaded]
      cases storage.loadNftContract message.classId with
      | error err => rfl
      | ok contract =>
          cases api.addrValidate message.sender with
          | error err => rfl
          | ok sender => rfl

theorem handlePacketSuccess_withPause (api : Api) (storage : Storage) (packet : IbcPacket)
    (paused : Bool) (pauser : Option Addr) :
    handlePacketSuccess api (storage.withPause paused pauser) packet =
      (handlePacketSuccess api storage packet).map (withPause paused pauser) := by
  unfold handlePacketSuccess
  cases api.packetData.fromBinary packet.data with
  | error err => rfl
  | ok message =>
      have loaded : (storage.withPause paused pauser).loadNftContract message.classId =
          storage.loadNftContract message.classId := rfl
      simp only [mapError_ok, ok_bind, loaded]
      cases storage.loadNftContract message.classId with
      | error err => rfl
      | ok contract =>
          simp only [mapError_ok, ok_bind]
          rw [foldl_burnNotice_withPause paused pauser message.classId packet.src.channelId
            contract message.tokenIds (storage, [])]
          rfl

/-- Settlement does not look at the pause items. -/
theorem ibcPacketAck_withPause (api : Api) (storage : Storage) (packet : IbcPacket)
    (ack : Binary) (paused : Bool) (pauser : Option Addr) :
    ibcPacketAck api (storage.withPause paused pauser) packet ack =
      (ibcPacketAck api storage packet ack).map (withPause paused pauser) := by
  unfold ibcPacketAck
  split
  next => exact handlePacketFail_withPause api storage packet _ paused pauser
  next => exact handlePacketSuccess_withPause api storage packet paused pauser

/-- Entries that settlement leaves are as they were. -/
structure Fewer (before after : Storage) : Prop where
  contracts : after.classIdToNftContract = before.classIdToNftContract
  classes : after.nftContractToClassId = before.nftContractToClassId
  records : after.classIdToClass = before.classIdToClass
  outgoing : ∀ key channelId, after.outgoingClassTokenToChannel key = some channelId →
    before.outgoingClassTokenToChannel key = some channelId
  incoming : ∀ key channelId, after.incomingClassTokenToChannel key = some channelId →
    before.incomingClassTokenToChannel key = some channelId
  metadata : ∀ key value, after.tokenMetadata key = some value →
    before.tokenMetadata key = some value

theorem Fewer.refl (storage : Storage) : Fewer storage storage where
  contracts := rfl
  classes := rfl
  records := rfl
  outgoing _ _ := id
  incoming _ _ := id
  metadata _ _ := id

theorem fewer_fail {api : Api} {storage after : Storage} {packet : IbcPacket} {error : String}
    {response : Response}
    (handled : handlePacketFail api storage packet error = .ok (after, response)) :
    Fewer storage after := by
  simp only [handlePacketFail, bind_eq_ok, pure_eq_ok, Prod.mk.injEq] at handled
  rcases handled with ⟨message, -, contract, -, sender, -, rfl, -⟩
  refine { Fewer.refl storage with outgoing := ?_ }
  intro key channelId present
  exact StoreMap.of_foldl_remove present

theorem fewer_ack {api : Api} {storage after : Storage} {packet : IbcPacket} {ack : Binary}
    {response : Response}
    (handled : ibcPacketAck api storage packet ack = .ok (after, response)) :
    Fewer storage after := by
  rcases ibcPacketAck_cases api storage packet ack with ⟨error, -, same⟩ | ⟨-, same⟩
  · rw [same] at handled
    exact fewer_fail handled
  · rw [same] at handled
    simp only [handlePacketSuccess, bind_eq_ok, pure_eq_ok, Prod.mk.injEq] at handled
    rcases handled with ⟨message, -, contract, -, rfl, -⟩
    rcases foldl_burnNotice message.classId packet.src.channelId contract message.tokenIds
      storage [] with ⟨burned, -, -, folded⟩
    rw [folded]
    refine { Fewer.refl storage with incoming := ?_, metadata := ?_ }
    · intro key channelId present
      exact StoreMap.of_foldl_remove present
    · intro key value present
      exact StoreMap.of_foldl_remove present

/-! ## Steps of a paused bridge -/

/-- What a step does to a bridge that is paused: it settles a packet, or nothing. -/
structure Frozen (chain : Chain) (contracts : Contracts σ) (world : World σ)
    (label : Chain.Label) : Prop where
  paused : (chain.step contracts world label).storage.paused = true
  /-- No packet is sent. -/
  packets : (chain.step contracts world label).commitments.Sublist world.commitments
  sequence : (chain.step contracts world label).nextSequence = world.nextSequence
  /-- Nothing is entered or changed. -/
  fewer : Fewer world.storage (chain.step contracts world label).storage
  /-- Entries are only removed when a packet that was sent is settled. -/
  unsettled : (∀ packet ∈ world.commitments,
      (∀ ack, label ≠ .ack packet ack) ∧ label ≠ .timeout packet) →
    (chain.step contracts world label).storage = world.storage
  /-- The bridge mints and redeems nothing. -/
  calls : ∀ {at_ msg}, InvokedIn chain contracts world label at_ chain.bridge msg →
    ∃ sub, Settling sub ∧ sub.msg = msg
  /-- Packets are answered with an error. -/
  received : ∀ {packet}, label = .receive packet → packet.dest.portId = chain.portId →
    chain.receiveTx contracts world packet =
      .ok (world, ackFail chain.api "contract is paused pending governance intervention")
  /-- Acknowledgements and timeouts have the effect that their handlers have. -/
  acked : ∀ {packet ack after}, label = .ack packet ack →
    chain.ackTx contracts world packet ack = .ok after →
    ∃ response, ibcPacketAck chain.api world.storage packet ack = .ok (after.storage, response)
  timedOut : ∀ {packet after}, label = .timeout packet →
    chain.timeoutTx contracts world packet = .ok after →
    ∃ response, ibcPacketTimeout chain.api world.storage packet = .ok (after.storage, response)

theorem receiveTx_paused (contracts : Contracts σ) {world : World σ}
    (paused : world.storage.paused = true) (packet : IbcPacket) :
    chain.receiveTx contracts world packet =
      .ok (world, ackFail chain.api "contract is paused pending governance intervention") := by
  have refused : receiveIbcPacket chain.api chain.bridge world.storage packet =
      .error (.pause .paused) := by
    simp [receiveIbcPacket, checkIbcPacket, Storage.errorIfPaused, paused]
  simp only [Chain.receiveTx, ibcPacketReceive, refused, Chain.runMessages,
    Machine.dispatch_nil, ok_bind]
  rfl

/-- What is under way in a transaction on a paused bridge. -/
theorem Started.frozen {world start : World σ} {label : Chain.Label} {caller : Addr}
    {subs : List (SubMsg CosmosMsg)} (paused : world.storage.paused = true)
    (started : Started chain contracts world label start caller subs) :
    Fewer world.storage start.storage ∧ start.commitments.Sublist world.commitments ∧
      start.nextSequence = world.nextSequence ∧
      (caller = chain.bridge → ∀ sub ∈ subs, Settling sub) := by
  cases started with
  | executed account =>
      exact ⟨.refl _, .refl _, rfl, fun self => absurd self account⟩
  | received _ checked =>
      have running := (checkIbcPacket_eq_ok.mp checked).1
      rw [paused] at running
      cases running
  | acked _ handled =>
      exact ⟨fewer_ack handled, List.erase_sublist, rfl, fun _ => settling_ack handled⟩
  | timedOut _ handled =>
      exact ⟨fewer_fail handled, List.erase_sublist, rfl, fun _ => settling_fail handled⟩

/-- A settlement on a paused bridge has the effect of its handler. -/
theorem settleTx_frozen (lawful : Lawful chain contracts codeId) {world after : World σ}
    {packet : IbcPacket}
    {handler : Storage → IbcPacket → Except ContractError (Storage × Response)}
    (settling : ∀ {storage response}, handler world.storage packet = .ok (storage, response) →
      storage.paused = true ∧ ∀ sub ∈ response.messages, Settling sub)
    (settled : chain.settleTx contracts world packet handler = .ok after) :
    ∃ response, handler world.storage packet = .ok (after.storage, response) := by
  unfold Chain.settleTx at settled
  split at settled
  next pending =>
    simp only [bind_eq_ok, mapError_eq_ok, pure_eq_ok] at settled
    rcases settled with ⟨⟨storage, response⟩, handled, result, ran, rfl⟩
    rcases settling handled with ⟨paused, own⟩
    have kept := ((@frozenRules _ chain contracts
      { world with storage := storage, commitments := world.commitments.erase packet }
      paused).runMessages lawful ⟨rfl, rfl, rfl⟩ own ran).1
    exact ⟨response, by rw [kept.1]; exact handled⟩
  next => cases settled

/-- A step on a paused bridge ends with the storage that its transaction starts with. -/
theorem step_frozen (lawful : Lawful chain contracts codeId) {world : World σ}
    (paused : world.storage.paused = true) {label : Chain.Label}
    (ordinary : ∀ msg, label ≠ .migrate msg) :
    chain.step contracts world label = world ∨
      ∃ start caller subs, Started chain contracts world label start caller subs ∧
        (chain.step contracts world label).storage = start.storage ∧
        (chain.step contracts world label).commitments = start.commitments ∧
        (chain.step contracts world label).nextSequence = start.nextSequence := by
  rw [step_eq_begins chain contracts world ordinary]
  cases begun : chain.begins contracts world label with
  | none => exact .inl rfl
  | some begin_ =>
      rcases begin_ with ⟨start, caller, subs, data⟩
      have started := started_of_begins begun
      have still : start.storage.paused = true := started.pause.1.trans paused
      rcases started.frozen paused with ⟨-, -, -, own⟩
      simp only
      cases ran : (chain.machine contracts).dispatch (chain.depth + 1) start caller subs data with
      | error err => exact .inl rfl
      | ok result =>
          have kept := (((@frozenRules _ chain contracts start still).toRules lawful).dispatch
            ⟨⟨rfl, rfl, rfl⟩, own⟩ ran).1
          exact .inr ⟨start, caller, subs, started, kept⟩

/-- The bridge's own calls while it is paused. -/
theorem InvokedIn.settling (lawful : Lawful chain contracts codeId) {world at_ : World σ}
    {label : Chain.Label} {msg : CosmosMsg} (paused : world.storage.paused = true)
    (invoked : InvokedIn chain contracts world label at_ chain.bridge msg) :
    ∃ sub, Settling sub ∧ sub.msg = msg := by
  rcases invoked with ⟨start, caller, subs, data, begun, invokes⟩
  have started := started_of_begins begun
  have still : start.storage.paused = true := started.pause.1.trans paused
  have ready : (@frozenRules _ chain contracts start still).Ready caller start subs :=
    ⟨⟨rfl, rfl, rfl⟩, (started.frozen paused).2.2.2⟩
  rcases ((@frozenRules _ chain contracts start still).toRules lawful).invoked ready invokes with
    ⟨sub, rest, content, reached⟩
  exact ⟨sub, reached.2 rfl sub List.mem_cons_self, content⟩

/-- While the bridge is paused, every step but a migration leaves it frozen. -/
theorem frozen_of_paused (lawful : Lawful chain contracts codeId) {world : World σ}
    (paused : world.storage.paused = true) {label : Chain.Label}
    (ordinary : ∀ msg, label ≠ .migrate msg) : Frozen chain contracts world label where
  paused := by
    rcases step_frozen lawful paused ordinary with same | ⟨start, _, _, started, storage, -⟩
    · rw [same]
      exact paused
    · rw [storage]
      exact started.pause.1.trans paused
  packets := by
    rcases step_frozen lawful paused ordinary with same | ⟨start, _, _, started, -, commitments, -⟩
    · rw [same]
    · rw [commitments]
      exact (started.frozen paused).2.1
  sequence := by
    rcases step_frozen lawful paused ordinary with same | ⟨start, _, _, started, -, -, sequence⟩
    · rw [same]
    · rw [sequence]
      exact (started.frozen paused).2.2.1
  fewer := by
    rcases step_frozen lawful paused ordinary with same | ⟨start, _, _, started, storage, -⟩
    · rw [same]
      exact .refl _
    · rw [storage]
      exact (started.frozen paused).1
  unsettled := by
    intro unsettled
    rcases step_frozen lawful paused ordinary with same | ⟨start, _, _, started, storage, -⟩
    · rw [same]
    · rw [storage]
      cases started with
      | executed => rfl
      | received _ checked =>
          have running := (checkIbcPacket_eq_ok.mp checked).1
          rw [paused] at running
          cases running
      | acked pending => exact absurd rfl ((unsettled _ pending).1 _)
      | timedOut pending => exact absurd rfl (unsettled _ pending).2
  calls invoked := invoked.settling lawful paused
  received _ _ := receiveTx_paused contracts paused _
  acked := by
    intro packet ack after _ acked
    apply settleTx_frozen lawful _ acked
    intro storage response handled
    exact ⟨(ibcPacketAck_pause handled).1.trans paused, settling_ack handled⟩
  timedOut := by
    intro packet after _ timedOut
    apply settleTx_frozen lawful _ timedOut
    intro storage response handled
    exact ⟨(handlePacketFail_pause handled).1.trans paused, settling_fail handled⟩

end Frozen

/-- Runs with appointments are runs. -/
theorem foldl_tenureStep {chain : Chain} {contracts : Contracts σ} (labels : List Chain.Label)
    (current : World σ × Tenure) :
    (labels.foldl (chain.tenureStep contracts) current).1 =
      labels.foldl (chain.step contracts) current.1 := by
  induction labels generalizing current with
  | nil => rfl
  | cons label labels ih => exact ih (chain.tenureStep contracts current label)

/-- Whatever the other contracts, the counterparties and the accounts of the chain do: a paused
bridge has no pauser, only who was appointed pauses it, and only once; from then on to the next
migration it is frozen, and its settlement of packets is what it would be otherwise; and a
migration unpauses it, whoever it appoints. -/
theorem pause_freezes_of_run {chain : Chain} {contracts : Contracts σ} {msg : InstantiateMsg}
    (lawful : Lawful chain contracts msg.cw721BaseCodeId) {state : σ} {genesis : World σ}
    (instantiated : chain.instantiateTx contracts msg state = .ok genesis)
    (labels : List Chain.Label) {world : World σ} {tenure : Tenure}
    (reached : labels.foldl (chain.tenureStep contracts)
      (genesis, chain.firstTenure contracts msg state) = (world, tenure)) :
    world = labels.foldl (chain.step contracts) genesis ∧
    (world.storage.paused = true → world.storage.pauser = none) ∧
    (∀ sender ∈ tenure.paused, tenure.appointed = some sender) ∧
    tenure.paused.length ≤ 1 ∧
    (tenure.paused ≠ [] → ∀ label, (∀ msg, label ≠ .migrate msg) →
      Frozen chain contracts world label) ∧
    (∀ packet ack paused pauser,
      ibcPacketAck chain.api (world.storage.withPause paused pauser) packet ack =
        (ibcPacketAck chain.api world.storage packet ack).map (withPause paused pauser) ∧
      ibcPacketTimeout chain.api (world.storage.withPause paused pauser) packet =
        (ibcPacketTimeout chain.api world.storage packet).map (withPause paused pauser)) ∧
    ∀ pauser proxy after, chain.migrateTx world (.withUpdate pauser proxy) = .ok after →
      after.storage.paused = false ∧ after.storage.pauser = pauser.map Addr.mk := by
  have start : (chain.firstTenure contracts msg state).Fits genesis.storage :=
    .instantiateTx instantiated
  have kept : ∀ (current : World σ × Tenure) label, current.2.Fits current.1.storage →
      (chain.tenureStep contracts current label).2.Fits
        (chain.tenureStep contracts current label).1.storage :=
    fun current label fits => fits.step label
  have fits := @run_invariant _ _ (chain.tenureStep contracts)
    (fun current => current.2.Fits current.1.storage) kept
    (genesis, chain.firstTenure contracts msg state) labels start
  have same := @foldl_tenureStep _ chain contracts labels
    (genesis, chain.firstTenure contracts msg state)
  rw [reached] at fits same
  refine ⟨same, ?_, ?_, ?_, ?_, ?_, ?_⟩
  · intro paused
    cases fits with
    | unused running =>
        rw [running] at paused
        cases paused
    | used _ pauser => exact pauser
  · intro sender member
    cases fits with
    | unused => cases member
    | used => rw [List.mem_singleton.mp member]
  · cases fits with
    | unused => simp
    | used => simp
  · intro someone label ordinary
    cases fits with
    | unused => exact absurd rfl someone
    | used paused _ => exact frozen_of_paused lawful paused ordinary
  · intro packet ack paused pauser
    exact ⟨ibcPacketAck_withPause _ _ _ _ _ _, handlePacketFail_withPause _ _ _ _ _ _⟩
  · intro pauser proxy after migrated
    exact migrateTx_pause migrated

namespace Sample

/-- A bridge that Alice may pause, right after its instantiation. -/
def guarded : World Ledger :=
  { genesis with storage := { genesis.storage with pauser := some ⟨"alice"⟩ } }

/-- Alice pauses the bridge, and tries it again. -/
def pausing : List Chain.Label :=
  [.execute ⟨"alice"⟩ (.execute ⟨"bridge"⟩ (.bridge .pause)),
    .execute ⟨"alice"⟩ (.execute ⟨"bridge"⟩ (.bridge .pause))]

/-- The state and the appointment after that. -/
def pausedBridge : World Ledger × Tenure :=
  pausing.foldl (chain.tenureStep chain.contracts)
    (guarded, chain.firstTenure chain.contracts ⟨1, none, some "alice"⟩ ⟨.empty, 0⟩)

end Sample

theorem pause_freezes_of_sample :
    Sample.pausedBridge.2 = ⟨some ⟨"alice"⟩, [⟨"alice"⟩]⟩ ∧
      Sample.pausedBridge.1.storage.pauser = none ∧
      ∀ label : Chain.Label, (∀ msg, label ≠ .migrate msg) →
        Frozen Sample.chain.toChain Sample.chain.contracts Sample.pausedBridge.1 label := by
  have instantiated : Sample.chain.instantiateTx Sample.chain.contracts ⟨1, none, some "alice"⟩
      ⟨.empty, 0⟩ = .ok Sample.guarded := rfl
  have freezes := pause_freezes_of_run (Deployment.lawful (.refl Sample.chain.contracts) 1)
    instantiated Sample.pausing (rfl : _ = (Sample.pausedBridge.1, Sample.pausedBridge.2))
  have tenure : Sample.pausedBridge.2 = ⟨some ⟨"alice"⟩, [⟨"alice"⟩]⟩ ∧
      Sample.pausedBridge.1.storage.paused = true := by
    decide +kernel
  refine ⟨tenure.1, freezes.2.1 tenure.2, freezes.2.2.2.2.1 ?_⟩
  rw [tenure.1]
  simp

end Ics721
