import Ics721.Chain.Host
import Ics721.Registry.Handlers

/-!
# The registry survives every dispatch

Whatever messages run, in whatever order and however the other contracts call back
into the bridge, the registry stays coherent and only grows, and every packet the
bridge has sent keeps pointing at the contract its token came from.
-/

namespace Ics721

open Library

variable {σ : Type}

/-- The packet sends the token of the record, from the record's contract and sender. -/
def Origin (api : Api) (storage : Storage) (packet : IbcPacket) (record : SendRecord) :
    Prop :=
  ∃ data, packet.data = api.packetData.toBinary data ∧
    data.tokenIds = [record.tokenId] ∧ data.sender = record.sender ∧
    api.addrValid record.sender = true ∧
    storage.classIdToNftContract data.classId = some record.contract

theorem Origin.mono {api : Api} {old new : Storage} {packet : IbcPacket}
    {record : SendRecord} (origin : Origin api old packet record)
    (extended : Extends old new) : Origin api new packet record := by
  obtain ⟨data, encoded, tokens, sender, valid, entry⟩ := origin
  exact ⟨data, encoded, tokens, sender, valid, extended.contract_kept entry⟩

/-- A coherent registry and a known origin for every packet that is not settled. -/
structure Sound (chain : Chain) (contracts : Contracts σ) (codeId : Nat)
    (world : World σ) : Prop where
  registry : Registry codeId (fun contract => contracts.isContract world.contracts contract = true)
    world.storage
  sequence : world.sends.length = world.nextSequence
  origin : ∀ packet ∈ world.commitments, ∃ record,
    world.sends[packet.sequence]? = some record ∧
      Origin chain.api world.storage packet record ∧
      chain.counterparty packet.src.channelId ≠ none

namespace Sound

variable {chain : Chain} {contracts : Contracts σ} {codeId : Nat} {world : World σ}

/-- The storage grew and nothing else changed. -/
theorem withStorage (sound : Sound chain contracts codeId world) {after : Storage}
    (registry : Registry codeId
      (fun contract => contracts.isContract world.contracts contract = true) after)
    (extended : Extends world.storage after) :
    Sound chain contracts codeId { world with storage := after } where
  registry := registry
  sequence := sound.sequence
  origin := by
    intro packet member
    obtain ⟨record, sent, origin, opened⟩ := sound.origin packet member
    exact ⟨record, sent, origin.mono extended, opened⟩

/-- The other contracts moved on. -/
theorem withContracts (sound : Sound chain contracts codeId world) {after : σ}
    (kept : ∀ {other}, contracts.isContract world.contracts other = true →
      contracts.isContract after other = true) :
    Sound chain contracts codeId { world with contracts := after } where
  registry := sound.registry.mono fun _ => kept
  sequence := sound.sequence
  origin := sound.origin

/-- Some packets were settled. -/
theorem withCommitments (sound : Sound chain contracts codeId world)
    {remaining : List IbcPacket} (fewer : ∀ packet ∈ remaining, packet ∈ world.commitments) :
    Sound chain contracts codeId { world with commitments := remaining } where
  registry := sound.registry
  sequence := sound.sequence
  origin := fun packet member => sound.origin packet (fewer packet member)

end Sound

/-! ## What the bridge executes -/

/-- Who may send which message that sends an NFT away: any contract for its own NFTs, and
the proxy for those of the contract it names. -/
def MaySend (storage : Storage) (info : Addr) (msg : ExecuteMsg) : Prop :=
  (∃ receive, msg = .receiveNft receive ∧ storage.proxy = none) ∨
    ∃ eyeball receive, msg = .receiveProxyNft eyeball receive ∧ storage.proxy = some info

/-- The three ways in which an execute message can succeed. -/
theorem execute_cases {api : Api} {contract : Addr} {querier : Querier} {storage : Storage}
    {info : Addr} {msg : ExecuteMsg} {after : Storage} {response : Response}
    (executed : execute api contract querier storage info msg = .ok (after, response)) :
    storage.paused = false ∧
      ((∃ record, msg.sendRecord info = some record ∧
          MaySend storage info msg ∧
          receiveNft api querier storage record.contract record.tokenId record.sender record.msg =
            .ok (after, response)) ∨
        (msg = .pause ∧ storage.pause info = .ok after ∧ response.messages = []) ∨
        (∃ callback, msg = .callback callback ∧ info = contract ∧
          executeCallback api contract storage info callback = .ok (after, response))) := by
  simp only [execute, bind_eq_ok, mapError_eq_ok, Storage.errorIfPaused_eq_ok] at executed
  obtain ⟨-, running, executed⟩ := executed
  refine ⟨running, ?_⟩
  cases msg with
  | receiveNft msg =>
      simp only [executeReceiveNft] at executed
      split at executed
      next => cases executed
      next noProxy =>
        exact .inl ⟨_, rfl, .inl ⟨msg, rfl, by simpa using noProxy⟩, executed⟩
  | receiveProxyNft eyeball msg =>
      simp only [executeReceiveProxyNft] at executed
      split at executed
      next => cases executed
      next isProxy =>
        simp only [bind_eq_ok, mapError_eq_ok, Api.addrValidate_eq_ok] at executed
        obtain ⟨named, ⟨-, rfl⟩, executed⟩ := executed
        exact .inl ⟨_, rfl, .inr ⟨eyeball, msg, rfl, by simpa using isProxy⟩, executed⟩
  | pause =>
      simp only [executePause, bind_eq_ok, mapError_eq_ok, pure_eq_ok, Prod.mk.injEq] at executed
      obtain ⟨paused, done, rfl, rfl⟩ := executed
      exact .inr (.inl ⟨rfl, done, rfl⟩)
  | callback callback =>
      have self : info = contract := by
        by_contra different
        simp [executeCallback, different] at executed
      exact .inr (.inr ⟨callback, rfl, self, executed⟩)

/-- Messages of the bridge that any coherent world can take. -/
inductive Harmless (bridge : Addr) : WasmMsg → Prop where
  | cw721 (contract : Addr) (msg : Cw721ExecuteMsg) :
      Harmless bridge (.execute contract (.cw721 msg))
  | redeem (receiver : String) (redeem : VoucherRedemption) :
      Harmless bridge (.execute bridge (.bridge (.callback (.redeemVouchers receiver redeem))))
  | create (receiver : String) (create : VoucherCreation)
      (slash : '/' ∈ create.cls.id.id.toList) :
      Harmless bridge (.execute bridge (.bridge (.callback (.createVouchers receiver create))))
  | mint (classId : ClassId) (receiver : String) (tokens : List Token) :
      Harmless bridge (.execute bridge (.bridge (.callback (.mint classId receiver tokens))))
  | conjunction (operands : List WasmMsg)
      (harmless : ∀ operand ∈ operands, Harmless bridge operand) :
      Harmless bridge (.execute bridge (.bridge (.callback (.conjunction operands))))

/-- Submessages of the bridge that any coherent world can take: their replies write
nothing but the proxy. -/
inductive HarmlessSub (bridge : Addr) : SubMsg CosmosMsg → Prop where
  | quiet (msg : WasmMsg) (harmless : Harmless bridge msg) : HarmlessSub bridge msg.sub
  | acked (msg : WasmMsg) (harmless : Harmless bridge msg) :
      HarmlessSub bridge ⟨.wasm msg, .always, ackAndDoNothing⟩
  | proxy (admin : Option String) (code : Nat) (msg : Binary) (label : String) :
      HarmlessSub bridge
        ⟨.wasm (.instantiate admin code (.other msg) label), .success, instantiateProxyReplyId⟩

theorem harmlessSub_map {bridge : Addr} {messages : List WasmMsg}
    (harmless : ∀ msg ∈ messages, Harmless bridge msg) :
    ∀ sub ∈ messages.map (·.sub), HarmlessSub bridge sub := by
  intro sub member
  obtain ⟨msg, present, rfl⟩ := List.mem_map.mp member
  exact .quiet msg (harmless msg present)

/-! ## Assertions -/

/-- When submessages may be run.  Two of the lists the bridge emits need more than a
coherent world: a packet is sent right after the call of `receive_nft` was recorded,
and a voucher collection is instantiated right after its class was found missing. -/
inductive Ready (chain : Chain) (contracts : Contracts σ) (codeId : Nat) (start : Storage)
    (caller : Addr) (world : World σ) : List (SubMsg CosmosMsg) → Prop where
  | plain {subs : List (SubMsg CosmosMsg)} (sound : Sound chain contracts codeId world)
      (extended : Extends start world.storage)
      (harmless : caller = chain.bridge → ∀ sub ∈ subs, HarmlessSub chain.bridge sub) :
      Ready chain contracts codeId start caller world subs
  | send {channelId : String} {data : NonFungibleTokenPacketData} {timeout : IbcTimeout}
      {earlier : List SendRecord} {record : SendRecord} (self : caller = chain.bridge)
      (history : world.sends = earlier ++ [record])
      (sound : Sound chain contracts codeId { world with sends := earlier })
      (extended : Extends start world.storage)
      (tokens : data.tokenIds = [record.tokenId]) (sender : data.sender = record.sender)
      (valid : chain.api.addrValid record.sender = true)
      (entry : world.storage.classIdToNftContract data.classId = some record.contract) :
      Ready chain contracts codeId start caller world
        [(CosmosMsg.ibc (.sendPacket channelId (chain.api.packetData.toBinary data)
          timeout)).sub]
  | instantiate {name symbol minter label : String} {mint : WasmMsg}
      (self : caller = chain.bridge) (sound : Sound chain contracts codeId world)
      (extended : Extends start world.storage)
      (fresh : world.storage.classIdToNftContract ⟨name⟩ = none)
      (recorded : ∃ cls, world.storage.classIdToClass ⟨name⟩ = some cls)
      (slash : '/' ∈ name.toList) (harmless : Harmless chain.bridge mint) :
      Ready chain contracts codeId start caller world
        [⟨.wasm (.instantiate none world.storage.cw721CodeId (.cw721 ⟨name, symbol, minter⟩)
          label), .success, instantiateCw721ReplyId⟩, mint.sub]

namespace Ready

variable {chain : Chain} {contracts : Contracts σ} {codeId : Nat} {start : Storage}
variable {caller callee : Addr} {world after : World σ}
variable {reaction : Reaction (World σ) CosmosMsg ReplyData}

theorem next {sub : SubMsg CosmosMsg} {subs : List (SubMsg CosmosMsg)}
    (ready : Ready chain contracts codeId start caller world (sub :: subs))
    (sound : Sound chain contracts codeId after) (extended : Extends start after.storage) :
    Ready chain contracts codeId start caller after subs := by
  cases ready with
  | plain _ _ harmless =>
      exact .plain sound extended fun self other member =>
        harmless self other (List.mem_cons_of_mem _ member)
  | send => exact .plain sound extended (by simp)
  | instantiate _ _ _ _ _ _ harmless =>
      refine .plain sound extended ?_
      intro self other member
      rw [List.mem_singleton.mp member]
      exact .quiet _ harmless

/-- Other contracts only move on by themselves. -/
theorem executeContract (lawful : Lawful chain contracts codeId) {contract : Addr}
    {msg : ExecMsg} (different : contract ≠ chain.bridge)
    (sound : Sound chain contracts codeId world) (extended : Extends start world.storage)
    (executed : chain.executeMsg contracts world caller (.wasm (.execute contract msg)) =
      .ok (callee, reaction)) :
    Ready chain contracts codeId start callee reaction.world reaction.messages := by
  simp only [Chain.executeMsg, different, if_false, bind_eq_ok, mapError_eq_ok, pure_eq_ok,
    Prod.mk.injEq] at executed
  obtain ⟨outcome, ran, rfl, rfl⟩ := executed
  exact .plain (sound.withContracts (lawful.execute_kept ran)) extended
    fun self => absurd self different

/-- So do contracts that are instantiated. -/
theorem executeInstantiate (lawful : Lawful chain contracts codeId) {admin : Option String}
    {code : Nat} {msg : InitMsg} {label : String}
    (sound : Sound chain contracts codeId world) (extended : Extends start world.storage)
    (executed : chain.executeMsg contracts world caller
      (.wasm (.instantiate admin code msg label)) = .ok (callee, reaction)) :
    Ready chain contracts codeId start callee reaction.world reaction.messages := by
  simp only [Chain.executeMsg, bind_eq_ok, mapError_eq_ok, pure_eq_ok, Prod.mk.injEq] at executed
  obtain ⟨⟨contract, outcome⟩, ran, rfl, rfl⟩ := executed
  exact .plain (sound.withContracts (lawful.instantiate_kept ran)) extended
    fun self => absurd self (lawful.instantiate_fresh ran).2.2

/-- A call of `receive_nft` leaves exactly the packet to be sent. -/
theorem executeSend (lawful : Lawful chain contracts codeId) {record : SendRecord}
    {storage : Storage} {response : Response}
    (sound : Sound chain contracts codeId world) (extended : Extends start world.storage)
    (received : receiveNft chain.api (contracts.querier world.contracts) world.storage
      record.contract record.tokenId record.sender record.msg = .ok (storage, response)) :
    Ready chain contracts codeId start chain.bridge
      { world with storage := storage, sends := world.sends ++ [record] }
      response.messages := by
  have isContract : contracts.isContract world.contracts record.contract = true := by
    simp only [receiveNft, bind_eq_ok, mapError_eq_ok] at received
    obtain ⟨_, _, _, _, _, _, uri, queried, _⟩ := received
    exact lawful.nftInfo_contract queried
  have noSlash := chain.api.valid_no_slash _ (lawful.contract_valid isContract)
  obtain ⟨registry, grown, outgoing, data, -, messages, entry, tokens, sender, -, valid⟩ :=
    sound.registry.receiveNft isContract noSlash received
  rw [messages]
  exact .send rfl rfl (sound.withStorage registry grown) (extended.trans grown) tokens sender
    valid entry

/-- The bridge's own callbacks. -/
theorem executeCallback {callback : CallbackMsg} {storage : Storage} {response : Response}
    (sound : Sound chain contracts codeId world) (extended : Extends start world.storage)
    (harmless : Harmless chain.bridge (.execute chain.bridge (.bridge (.callback callback))))
    (executed : Ics721.executeCallback chain.api chain.bridge world.storage chain.bridge
      callback = .ok (storage, response)) :
    Ready chain contracts codeId start chain.bridge { world with storage := storage }
      response.messages := by
  cases harmless with
  | redeem receiver redeem =>
      simp only [Ics721.executeCallback, ne_eq, not_true_eq_false, if_false,
        callbackRedeemVouchers, bind_eq_ok, mapError_eq_ok, pure_eq_ok,
        Prod.mk.injEq] at executed
      obtain ⟨contract, -, owner, -, rfl, rfl⟩ := executed
      refine .plain sound extended fun _ => harmlessSub_map ?_
      intro msg member
      obtain ⟨tokenId, -, rfl⟩ := List.mem_map.mp member
      exact .cw721 _ _
  | create receiver create slash =>
      simp only [Ics721.executeCallback, ne_eq, not_true_eq_false, if_false,
        callbackCreateVouchers, Except.ok.injEq, Prod.mk.injEq] at executed
      obtain ⟨rfl, rfl⟩ := executed
      have saved := sound.withStorage (sound.registry.saveClass create.cls) (.of_eq rfl rfl)
      split
      next =>
        refine .plain saved (extended.trans (.of_eq rfl rfl)) ?_
        intro _ sub member
        rw [List.mem_singleton.mp member]
        exact .quiet _ (.mint _ _ _)
      next missing =>
        have missing : world.storage.classIdToNftContract create.cls.id = none := by
          simpa [StoreMap.has] using missing
        exact .instantiate rfl saved (extended.trans (.of_eq rfl rfl)) missing
          ⟨create.cls, StoreMap.save_self _ _ _⟩ slash (.mint _ _ _)
  | mint classId receiver tokens =>
      simp only [Ics721.executeCallback, ne_eq, not_true_eq_false, if_false] at executed
      obtain ⟨registry, grown⟩ := sound.registry.callbackMint executed
      simp only [callbackMint, bind_eq_ok, mapError_eq_ok, pure_eq_ok,
        Prod.mk.injEq] at executed
      obtain ⟨owner, -, contract, -, -, rfl⟩ := executed
      refine .plain (sound.withStorage registry grown) (extended.trans grown)
        fun _ => harmlessSub_map ?_
      intro msg member
      obtain ⟨token, -, rfl⟩ := List.mem_map.mp member
      exact .cw721 _ _
  | conjunction operands each =>
      simp only [Ics721.executeCallback, ne_eq, not_true_eq_false, if_false,
        Except.ok.injEq, Prod.mk.injEq] at executed
      obtain ⟨rfl, rfl⟩ := executed
      exact .plain sound extended fun _ => harmlessSub_map each

/-- Whatever anyone asks the bridge to execute. -/
theorem executeBridge (lawful : Lawful chain contracts codeId) {msg : ExecMsg}
    (sound : Sound chain contracts codeId world) (extended : Extends start world.storage)
    (harmless : caller = chain.bridge → Harmless chain.bridge (.execute chain.bridge msg))
    (executed : chain.executeMsg contracts world caller
      (.wasm (.execute chain.bridge msg)) = .ok (callee, reaction)) :
    Ready chain contracts codeId start callee reaction.world reaction.messages := by
  cases msg with
  | cw721 msg => simp [Chain.executeMsg] at executed
  | other msg => simp [Chain.executeMsg] at executed
  | bridge msg =>
      simp only [Chain.executeMsg, if_true, bind_eq_ok, mapError_eq_ok, pure_eq_ok,
        Prod.mk.injEq] at executed
      obtain ⟨⟨storage, response⟩, ran, rfl, rfl⟩ := executed
      rcases (execute_cases ran).2 with
        ⟨record, sends, -, received⟩ | ⟨rfl, paused, silent⟩ |
          ⟨callback, rfl, rfl, called⟩
      · have ready := executeSend lawful sound extended received
        simpa only [World.react, sends, Option.toList_some] using ready
      · simp only [World.react, silent, ExecuteMsg.sendRecord, Option.toList_none,
          List.append_nil]
        simp only [Storage.pause, bind_eq_ok] at paused
        obtain ⟨-, -, paused⟩ := paused
        split at paused
        · cases paused
        · simp only [pure_eq_ok] at paused
          subst paused
          refine .plain (sound.withStorage ?_ (.of_eq rfl rfl))
            (extended.trans (.of_eq rfl rfl)) (by simp)
          exact sound.registry.of_less rfl rfl rfl rfl (fun _ _ => id) fun _ _ => id
      · have ready := executeCallback sound extended (harmless rfl) called
        simpa only [World.react, ExecuteMsg.sendRecord, Option.toList_none,
          List.append_nil] using ready

/-- Executing what is ready leaves behind what is ready. -/
theorem execute (lawful : Lawful chain contracts codeId) {sub : SubMsg CosmosMsg}
    {subs : List (SubMsg CosmosMsg)}
    (ready : Ready chain contracts codeId start caller world (sub :: subs))
    (executed : chain.executeMsg contracts world caller sub.msg = .ok (callee, reaction)) :
    Ready chain contracts codeId start callee reaction.world reaction.messages := by
  cases ready with
  | plain sound extended harmless =>
      cases content : sub.msg with
      | wasm msg =>
          rw [content] at executed
          cases msg with
          | execute contract msg =>
              by_cases same : contract = chain.bridge
              · subst contract
                refine executeBridge lawful sound extended ?_ executed
                intro self
                cases harmless self sub List.mem_cons_self with
                | quiet msg allowed =>
                    cases content
                    exact allowed
                | acked msg allowed =>
                    cases content
                    exact allowed
                | proxy => cases content
              · exact executeContract lawful same sound extended executed
          | instantiate admin code msg label =>
              exact executeInstantiate lawful sound extended executed
      | ibc msg =>
          rw [content] at executed
          have outsider : caller ≠ chain.bridge := by
            intro self
            cases harmless self sub List.mem_cons_self <;> cases content
          cases msg with
          | sendPacket channelId data timeout =>
              simp only [Chain.executeMsg, outsider, if_false, Except.ok.injEq,
                Prod.mk.injEq] at executed
              obtain ⟨rfl, rfl⟩ := executed
              exact .plain sound extended fun self => absurd self outsider
  | @send channelId data timeout earlier record self history sound extended tokens sender valid
      entry =>
      simp only [CosmosMsg.sub, Chain.executeMsg, self, if_true, Chain.sendPacket,
        bind_eq_ok, pure_eq_ok, Prod.mk.injEq] at executed
      obtain ⟨next, accepted, rfl, rfl⟩ := executed
      split at accepted
      next => cases accepted
      next dest opened =>
        simp only [Except.ok.injEq] at accepted
        subst accepted
        have length : earlier.length = world.nextSequence := sound.sequence
        refine .plain ⟨sound.registry, ?_, ?_⟩ extended (by simp)
        · simp [history, length]
        · intro packet member
          simp only [List.mem_append, List.mem_singleton] at member
          rcases member with before | rfl
          · obtain ⟨found, sent, origin, known⟩ := sound.origin packet before
            refine ⟨found, ?_, origin, known⟩
            obtain ⟨bound, -⟩ := List.getElem?_eq_some_iff.mp sent
            rw [history, List.getElem?_append_left bound]
            exact sent
          · refine ⟨record, ?_, ⟨data, rfl, tokens, sender, valid, entry⟩, by simp [opened]⟩
            rw [history, ← length, List.getElem?_append_right (Nat.le_refl _)]
            simp
  | instantiate self sound extended fresh recorded slash harmless =>
      exact executeInstantiate lawful sound extended executed

/-- Replies of the bridge: a collection is registered, the proxy is set, or nothing
happens at all. -/
theorem replySuccess (lawful : Lawful chain contracts codeId) {sub : SubMsg CosmosMsg}
    {subs : List (SubMsg CosmosMsg)} {data : Option ReplyData}
    {response : Reaction (World σ) CosmosMsg ReplyData}
    (ready : Ready chain contracts codeId start caller world (sub :: subs))
    (executed : chain.executeMsg contracts world caller sub.msg = .ok (callee, reaction))
    (sound : Sound chain contracts codeId after) (extended : Extends start after.storage)
    (silent : reaction.messages = [] → after = reaction.world ∧ data = reaction.data)
    (called : sub.replyOn.onSuccess = true)
    (replied : chain.replyMsg contracts after caller sub.id (.ok data) = .ok response) :
    Ready chain contracts codeId start caller response.world response.messages := by
  by_cases self : caller = chain.bridge
  · simp only [Chain.replyMsg, self, if_true, bind_eq_ok, mapError_eq_ok, pure_eq_ok] at replied
    obtain ⟨⟨storage, answer⟩, ran, rfl⟩ := replied
    cases ready with
    | plain _ _ harmless =>
        cases harmless self sub List.mem_cons_self with
        | quiet => simp [WasmMsg.sub, CosmosMsg.sub, ReplyOn.onSuccess] at called
        | acked msg harmless =>
            obtain ⟨rfl, rfl⟩ := ran
            exact .plain sound extended (by simp [World.react])
        | proxy admin code msg label =>
            simp only [reply_instantiateProxy, replyInstantiateProxy, bind_eq_ok,
              mapError_eq_ok, pure_eq_ok, Prod.mk.injEq] at ran
            obtain ⟨_, _, _, _, rfl, rfl⟩ := ran
            refine .plain (sound.withStorage ?_ (.of_eq rfl rfl))
              (extended.trans (.of_eq rfl rfl)) (by simp [World.react])
            exact sound.registry.of_less rfl rfl rfl rfl (fun _ _ => id) fun _ _ => id
    | send => simp [CosmosMsg.sub, ReplyOn.onSuccess] at called
    | @instantiate name symbol minter label mint _ before _ fresh recorded slash harmless =>
        simp only [Chain.executeMsg, bind_eq_ok, mapError_eq_ok, pure_eq_ok,
          Prod.mk.injEq] at executed
        obtain ⟨⟨contract, outcome⟩, ran', rfl, rfl⟩ := executed
        rw [self, before.registry.code] at ran'
        obtain ⟨quiet, named⟩ := lawful.instantiate_cw721 ran'
        obtain ⟨unused, used, -⟩ := lawful.instantiate_fresh ran'
        obtain ⟨rfl, rfl⟩ := silent quiet
        have contractFresh : world.storage.nftContractToClassId contract = none := by
          cases entry : world.storage.nftContractToClassId contract with
          | none => rfl
          | some classId =>
              have existing := before.registry.contract_known
                ((before.registry.inverse classId contract).mpr entry)
              simp [unused] at existing
        simp only [reply_instantiateCw721] at ran
        obtain ⟨registry, grown, nothing⟩ := sound.registry.replyInstantiateCw721 used
          contractFresh fresh slash recorded named ran
        simp only [World.react, nothing]
        exact .plain (sound.withStorage registry grown) (extended.trans grown) (by simp)
  · simp only [Chain.replyMsg, self, if_false, bind_eq_ok, mapError_eq_ok, pure_eq_ok] at replied
    obtain ⟨outcome, ran, rfl⟩ := replied
    exact .plain (sound.withContracts (lawful.reply_kept ran)) extended
      fun isBridge => absurd isBridge self

theorem replyError (lawful : Lawful chain contracts codeId) {sub : SubMsg CosmosMsg}
    {subs : List (SubMsg CosmosMsg)} {err : ChainError}
    {response : Reaction (World σ) CosmosMsg ReplyData}
    (ready : Ready chain contracts codeId start caller world (sub :: subs))
    (called : sub.replyOn.onError = true)
    (replied : chain.replyMsg contracts world caller sub.id (.error err) = .ok response) :
    Ready chain contracts codeId start caller response.world response.messages := by
  cases ready with
  | plain sound extended harmless =>
      by_cases self : caller = chain.bridge
      · simp only [Chain.replyMsg, self, if_true, bind_eq_ok, mapError_eq_ok,
          pure_eq_ok] at replied
        obtain ⟨⟨storage, answer⟩, ran, rfl⟩ := replied
        cases harmless self sub List.mem_cons_self with
        | quiet => simp [WasmMsg.sub, CosmosMsg.sub, ReplyOn.onError] at called
        | acked msg harmless =>
            obtain ⟨rfl, rfl⟩ := ran
            exact .plain sound extended (by simp [World.react])
        | proxy => simp [ReplyOn.onError] at called
      · simp only [Chain.replyMsg, self, if_false, bind_eq_ok, mapError_eq_ok,
          pure_eq_ok] at replied
        obtain ⟨outcome, ran, rfl⟩ := replied
        exact .plain (sound.withContracts (lawful.reply_kept ran)) extended
          fun isBridge => absurd isBridge self
  | send => simp [CosmosMsg.sub, ReplyOn.onError] at called
  | instantiate => simp [ReplyOn.onError] at called

end Ready

/-- The assertions of the registry, relative to the storage at the start. -/
def registryAssertions {chain : Chain} {contracts : Contracts σ} {codeId : Nat}
    (lawful : Lawful chain contracts codeId) (start : Storage) :
    (chain.machine contracts).Assertions where
  invariant world := Sound chain contracts codeId world ∧ Extends start world.storage
  ready := Ready chain contracts codeId start
  done ready := by
    generalize nothing : ([] : List (SubMsg CosmosMsg)) = subs at ready
    cases ready with
    | plain sound extended _ => exact ⟨sound, extended⟩
    | send => cases nothing
    | instantiate => cases nothing
  execute ready executed := ready.execute lawful executed
  next ready kept := ready.next kept.1 kept.2
  replySuccess ready executed kept silent called replied :=
    ready.replySuccess lawful executed kept.1 kept.2 silent called replied
  replyError ready called replied := ready.replyError lawful called replied

end Ics721
