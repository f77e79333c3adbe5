import Ics721.Bridge.Rules
import Ics721.Chain.Sample
import Ics721.Cw721.Conformance

/-!
# Who may make the bridge do what

Somebody other than the bridge can pause it, if appointed, or send an NFT away: a collection
its own NFTs, and the proxy those of the collection it names.  Everything else the bridge
does it asks of itself, and only while it handles a packet that was delivered to it.  This
holds at every point of every transaction, since contracts may call the bridge at any of them.
-/

namespace Ics721

open Library

variable {σ : Type}

/-! ## Every point of a transaction -/

/-- A message is executed in the course of a step, in the world `at_` and for `by_`. -/
def InvokedIn (chain : Chain) (contracts : Contracts σ) (world : World σ)
    (label : Chain.Label) (at_ : World σ) (by_ : Addr) (msg : CosmosMsg) : Prop :=
  ∃ start caller subs data,
    chain.begins contracts world label = some (start, caller, subs, data) ∧
    (chain.machine contracts).Invokes (chain.depth + 1) start caller subs data at_ by_ msg

/-- A message is executed while the bridge is instantiated. -/
def InvokedAtStart (chain : Chain) (contracts : Contracts σ) (msg : InstantiateMsg) (state : σ)
    (at_ : World σ) (by_ : Addr) (executed : CosmosMsg) : Prop :=
  ∃ storage response, instantiate chain.api chain.bridge msg = .ok (storage, response) ∧
    (chain.machine contracts).Invokes (chain.depth + 1) ⟨storage, state, [], 0, []⟩ chain.bridge
      response.messages none at_ by_ executed

/-- The worlds that a run passes through: at the end of its steps, and in their midst. -/
inductive Visited (chain : Chain) (contracts : Contracts σ) (msg : InstantiateMsg) (state : σ)
    (genesis : World σ) : World σ → Prop where
  | starting {at_ : World σ} {by_ : Addr} {executed : CosmosMsg}
      (invoked : InvokedAtStart chain contracts msg state at_ by_ executed) :
      Visited chain contracts msg state genesis at_
  | between (labels : List Chain.Label) :
      Visited chain contracts msg state genesis (labels.foldl (chain.step contracts) genesis)
  | inside (labels : List Chain.Label) {label : Chain.Label} {at_ : World σ} {by_ : Addr}
      {executed : CosmosMsg}
      (invoked : InvokedIn chain contracts (labels.foldl (chain.step contracts) genesis) label
        at_ by_ executed) :
      Visited chain contracts msg state genesis at_

section Registry

variable {chain : Chain} {contracts : Contracts σ} {codeId : Nat} {world at_ : World σ}

theorem Ready.registry {start : Storage} {caller : Addr} {subs : List (SubMsg CosmosMsg)}
    (ready : Ready chain contracts codeId start caller world subs) :
    Registry codeId (fun contract => contracts.isContract world.contracts contract = true)
      world.storage := by
  cases ready with
  | plain sound => exact sound.registry
  | send _ _ sound => exact sound.registry
  | instantiate _ sound => exact sound.registry

/-- Every transaction starts with what a coherent world can take. -/
theorem Sound.started (sound : Sound chain contracts codeId world) {label : Chain.Label}
    {start : World σ} {caller : Addr} {subs : List (SubMsg CosmosMsg)}
    (started : Started chain contracts world label start caller subs) :
    Ready chain contracts codeId world.storage caller start subs := by
  have settled : ∀ {packet : IbcPacket} {storage : Storage} {response : Response},
      ((∃ error, handlePacketFail chain.api world.storage packet error =
          .ok (storage, response)) ∨
        handlePacketSuccess chain.api world.storage packet = .ok (storage, response)) →
      Ready chain contracts codeId world.storage chain.bridge
        { world with storage := storage, commitments := world.commitments.erase packet }
        response.messages := by
    intro packet storage response handled
    have grown : Registry codeId
          (fun contract => contracts.isContract world.contracts contract = true) storage ∧
        Extends world.storage storage := by
      rcases handled with ⟨error, failed⟩ | succeeded
      · exact sound.registry.handlePacketFail failed
      · exact sound.registry.handlePacketSuccess succeeded
    have fewer : ∀ other ∈ world.commitments.erase packet, other ∈ world.commitments :=
      fun other member => List.mem_of_mem_erase member
    have remaining := (sound.withStorage grown.1 grown.2).withCommitments fewer
    exact .plain remaining grown.2 fun _ => Sound.ackMessages handled
  cases started with
  | executed account => exact .plain sound (.refl _) fun self => absurd self account
  | @received packet payload receiver _ checked =>
      rcases sound.registry.selectActions packet payload with ⟨registry, grown⟩
      refine .plain (sound.withStorage registry grown) grown ?_
      intro _ sub member
      rw [List.mem_singleton.mp member]
      exact harmless_selectActions packet payload world.storage
  | @acked packet ack storage response _ handled =>
      apply settled
      rcases ibcPacketAck_cases chain.api world.storage packet ack with
        ⟨error, -, same⟩ | ⟨-, same⟩
      · exact .inl ⟨error, same ▸ handled⟩
      · exact .inr (same ▸ handled)
  | timedOut _ handled => exact settled (.inl ⟨"timeout", handled⟩)

/-- So does the instantiation of the bridge. -/
theorem ready_instantiate {msg : InstantiateMsg} {state : σ} {storage : Storage}
    {response : Response} (code : msg.cw721BaseCodeId = codeId)
    (instantiated : instantiate chain.api chain.bridge msg = .ok (storage, response)) :
    Ready chain contracts codeId storage chain.bridge ⟨storage, state, [], 0, []⟩
      response.messages := by
  simp only [instantiate, Storage.setPauser, bind_eq_ok, mapError_eq_ok, pure_eq_ok,
    Prod.mk.injEq] at instantiated
  rcases instantiated with ⟨_, ⟨pauser, -, rfl⟩, rfl, rfl⟩
  refine .plain ⟨⟨code, ?_, ?_, ?_, ?_, ?_, ?_, ?_⟩, rfl, by simp⟩ (.refl _) ?_
  · simp
  · simp
  · simp
  · simp
  · simp
  · simp
  · simp
  · intro _ sub member
    simp only [Option.mem_toList, Option.map_eq_some_iff] at member
    rcases member with ⟨proxy, -, rfl⟩
    exact .proxy _ _ _ _

/-- The registry is coherent in all worlds that a run passes through. -/
theorem Visited.registry {msg : InstantiateMsg} {state : σ} {genesis : World σ}
    (lawful : Lawful chain contracts msg.cw721BaseCodeId)
    (instantiated : chain.instantiateTx contracts msg state = .ok genesis)
    (visited : Visited chain contracts msg state genesis at_) :
    Registry msg.cw721BaseCodeId
      (fun contract => contracts.isContract at_.contracts contract = true) at_.storage := by
  have sound := Sound.instantiateTx lawful rfl instantiated
  cases visited with
  | starting invoked =>
      rcases invoked with ⟨storage, response, started, invokes⟩
      have ready := @ready_instantiate _ chain contracts _ _ state _ _ rfl started
      rcases (registryAssertions lawful _).rules.invoked ready invokes with ⟨_, _, -, reached⟩
      exact Ready.registry reached
  | between labels => exact (sound.run lawful labels).1.registry
  | inside labels invoked =>
      rcases invoked with ⟨start, caller, subs, data, begun, invokes⟩
      have ready := ((sound.run lawful labels).1).started (started_of_begins begun)
      rcases (registryAssertions lawful _).rules.invoked ready invokes with ⟨_, _, -, reached⟩
      exact Ready.registry reached

end Registry

/-! ## Calls of others -/

/-- What a message of somebody else makes the bridge do. -/
inductive OutsiderDoes (api : Api) (storage : Storage) (sender : Addr) (msg : ExecuteMsg)
    (after : Storage) (response : Response) : Prop where
  | pauses (asked : msg = .pause) (appointed : storage.pauser = some sender)
      (silent : response.messages = [])
      (same : after = { storage with pauser := none, paused := true })
  | sends {contract : Addr} {request : Cw721ReceiveMsg} {outgoing : IbcOutgoingMsg}
      {data : NonFungibleTokenPacketData}
      (entitled : (storage.proxy = none ∧ msg = .receiveNft request ∧ contract = sender) ∨
        (storage.proxy = some sender ∧ msg = .receiveProxyNft contract.addr request))
      (asked : api.ibcOutgoing.fromBinary request.msg = .ok outgoing)
      (emits : response.messages = [(CosmosMsg.ibc (.sendPacket outgoing.channelId
        (api.packetData.toBinary data) outgoing.timeout)).sub])
      (token : data.tokenIds = [⟨request.tokenId⟩])
      (registered : after.nftContractToClassId contract = some data.classId)
      (same : (storage.nftContractToClassId contract = some data.classId ∧
          after = { storage with
            outgoingClassTokenToChannel := storage.outgoingClassTokenToChannel.save
              (data.classId, ⟨request.tokenId⟩) outgoing.channelId }) ∨
        (storage.nftContractToClassId contract = none ∧ data.classId = ⟨contract.addr⟩ ∧
          after = { storage with
            nftContractToClassId := storage.nftContractToClassId.save contract data.classId
            classIdToNftContract := storage.classIdToNftContract.save data.classId contract
            classIdToClass := storage.classIdToClass.save data.classId
              ⟨data.classId, none, none⟩
            outgoingClassTokenToChannel := storage.outgoingClassTokenToChannel.save
              (data.classId, ⟨request.tokenId⟩) outgoing.channelId }))

/-- What a successful call of `receive_nft` does. -/
theorem Registry.receives {codeId : Nat} {known : Addr → Prop} {storage after : Storage}
    {api : Api} {querier : Querier} {sender contract : Addr} {msg : ExecuteMsg}
    {request : Cw721ReceiveMsg} {response : Response}
    (registry : Registry codeId known storage)
    (entitled : (storage.proxy = none ∧ msg = .receiveNft request ∧ contract = sender) ∨
      (storage.proxy = some sender ∧ msg = .receiveProxyNft contract.addr request))
    (received : Ics721.receiveNft api querier storage contract ⟨request.tokenId⟩ request.sender
      request.msg = .ok (after, response)) :
    OutsiderDoes api storage sender msg after response := by
  simp only [Ics721.receiveNft, bind_eq_ok, mapError_eq_ok, pure_eq_ok,
    Prod.mk.injEq] at received
  rcases received with ⟨owner, -, outgoing, asked, ⟨registered, cls⟩, selected, uri, -, rfl, rfl⟩
  unfold Ics721.classForContract at selected
  split at selected
  next classId entry =>
    simp only [bind_eq_ok, Storage.loadClass_eq_ok, pure_eq_ok, Prod.mk.injEq] at selected
    rcases selected with ⟨found, recorded, rfl, rfl⟩
    have same := registry.class_id recorded
    have entry' : storage.nftContractToClassId contract = some found.id := by rw [entry, same]
    exact .sends entitled asked rfl rfl entry' (.inl ⟨entry', rfl⟩)
  next fresh =>
    simp only [Except.ok.injEq, Prod.mk.injEq] at selected
    rcases selected with ⟨rfl, rfl⟩
    exact .sends entitled asked rfl rfl (StoreMap.save_self _ _ _) (.inr ⟨fresh, rfl, rfl⟩)

/-- Others can pause the bridge or send NFTs away. -/
theorem Registry.outsiderDoes {codeId : Nat} {known : Addr → Prop} {storage after : Storage}
    {api : Api} {bridge sender : Addr} {querier : Querier} {msg : ExecuteMsg}
    {response : Response} (registry : Registry codeId known storage)
    (outsider : sender ≠ bridge)
    (executed : execute api bridge querier storage sender msg = .ok (after, response)) :
    OutsiderDoes api storage sender msg after response := by
  rcases (execute_cases executed).2 with ⟨record, sends, maySend, received⟩ |
    ⟨rfl, paused, silent⟩ | ⟨callback, -, self, -⟩
  · rcases maySend with ⟨request, rfl, noProxy⟩ | ⟨eyeball, request, rfl, proxy⟩
    · cases sends
      exact registry.receives (.inl ⟨noProxy, rfl, rfl⟩) received
    · cases sends
      exact registry.receives (.inr ⟨proxy, rfl⟩) received
  · simp only [Storage.pause, bind_eq_ok, ite_error_eq_ok, pure_eq_ok, ne_eq,
      Decidable.not_not] at paused
    rcases paused with ⟨-, -, appointed, rfl⟩
    exact .pauses rfl appointed silent rfl
  · exact absurd self outsider

/-! ## Calls of the bridge itself -/

section Callbacks

variable {chain : Chain} {contracts : Contracts σ} {codeId : Nat}

/-- Calls and packets of the bridge. -/
def Speaks (bridge : Addr) (built : CallbackMsg → Prop) (sub : SubMsg CosmosMsg) : Prop :=
  Own bridge built sub ∨
    ∃ channelId data timeout, sub = (CosmosMsg.ibc (.sendPacket channelId data timeout)).sub

/-- The bridge calls itself only with what is permitted, whatever others do. -/
def callbackRules (chain : Chain) (contracts : Contracts σ) {built : CallbackMsg → Prop}
    (closed : Closed chain.api chain.bridge built) : BridgeRules chain contracts where
  holds _ := True
  grows _ _ := True
  own _ := Speaks chain.bridge built
  refl _ := trivial
  trans _ _ := trivial
  own_kept own _ := own
  called _ _ _ _ _ := ⟨trivial, trivial⟩
  instantiated _ _ _ _ := ⟨trivial, trivial⟩
  answered _ _ _ := ⟨trivial, trivial⟩
  sent _ _ _ _ received := by
    rcases receiveNft_messages received with ⟨channelId, data, timeout, messages⟩
    refine ⟨trivial, trivial, ?_⟩
    intro sub member
    rw [messages] at member
    exact .inr ⟨channelId, data, timeout, List.mem_singleton.mp member⟩
  packet _ _ _ _ := ⟨trivial, trivial⟩
  paused _ _ _ := ⟨trivial, trivial⟩
  callback _ _ own content executed := by
    rcases own with own | ⟨_, _, _, rfl⟩
    · refine ⟨trivial, trivial, ?_⟩
      intro sub member
      exact .inl (closed _ _ _ _ (own.of_callback content) executed sub member)
    · cases content
  replied _ _ _ _ _ _ replied := ⟨trivial, trivial, by simp [reply_messages replied]⟩
  caught _ _ _ replied := ⟨trivial, trivial, by simp [reply_messages replied]⟩

/-- What the bridge may call itself with in the course of a step: what it built for the packet
that the step delivers. -/
def Permits (chain : Chain) (world : World σ) (label : Chain.Label) (callback : CallbackMsg) :
    Prop :=
  ∃ packet data receiver, label = .receive packet ∧
    checkIbcPacket chain.api world.storage packet = .ok (data, receiver) ∧
    Built chain.bridge receiver (data.aggregate (selectActions packet data world.storage).2)
      callback

theorem closed_permits (world : World σ) (label : Chain.Label) :
    Closed chain.api chain.bridge (Permits chain world label) := by
  intro callback storage after response permitted executed sub member
  rcases permitted with ⟨packet, data, receiver, received, checked, built⟩
  apply (Own.closed_built _ _ _ _ built executed sub member).mono
  intro other allowed
  exact ⟨packet, data, receiver, received, checked, allowed⟩

theorem Started.speaks {world start : World σ} {label : Chain.Label} {caller : Addr}
    {subs : List (SubMsg CosmosMsg)}
    (started : Started chain contracts world label start caller subs)
    (self : caller = chain.bridge) :
    ∀ sub ∈ subs, Speaks chain.bridge (Permits chain world label) sub := by
  intro sub member
  cases started with
  | executed account => exact absurd self account
  | @received packet payload receiver _ checked =>
      rw [List.mem_singleton.mp member]
      left
      apply (Own.intoSubmessage _ _ _).mono
      intro callback built
      exact ⟨packet, payload, receiver, rfl, checked, built⟩
  | @acked packet ack storage response _ handled =>
      left
      rcases ibcPacketAck_cases chain.api world.storage packet ack with
        ⟨error, -, same⟩ | ⟨-, same⟩
      · rw [same] at handled
        exact Own.handlePacketFail handled sub member
      · rw [same] at handled
        exact Own.handlePacketSuccess handled sub member
  | timedOut _ handled => exact .inl (Own.handlePacketFail handled sub member)

/-- The bridge calls itself only for the packet it was given. -/
theorem InvokedIn.permits (lawful : Lawful chain contracts codeId) {world at_ : World σ}
    {label : Chain.Label} {by_ : Addr} {callback : CallbackMsg}
    (invoked : InvokedIn chain contracts world label at_ by_
      (.wasm (.execute chain.bridge (.bridge (.callback callback)))))
    (self : by_ = chain.bridge) : Permits chain world label callback := by
  rcases invoked with ⟨start, caller, subs, data, begun, invokes⟩
  have ready :
      (callbackRules chain contracts (closed_permits world label)).Ready caller start subs :=
    ⟨trivial, fun asks => (started_of_begins begun).speaks asks⟩
  rcases ((callbackRules chain contracts (closed_permits world label)).toRules lawful).invoked ready
    invokes with ⟨sub, rest, content, reached⟩
  rcases reached.2 self sub List.mem_cons_self with own | ⟨_, _, _, rfl⟩
  · exact own.of_callback content
  · cases content

/-- It does not call itself while it is instantiated. -/
theorem InvokedAtStart.no_callback (lawful : Lawful chain contracts codeId)
    {msg : InstantiateMsg} {state : σ} {at_ : World σ} {by_ : Addr} {callback : CallbackMsg}
    (invoked : InvokedAtStart chain contracts msg state at_ by_
      (.wasm (.execute chain.bridge (.bridge (.callback callback))))) :
    by_ ≠ chain.bridge := by
  intro self
  rcases invoked with ⟨storage, response, instantiated, invokes⟩
  have ready : (callbackRules chain contracts closed_never).Ready chain.bridge
      (⟨storage, state, [], 0, []⟩ : World σ) response.messages := by
    refine ⟨trivial, ?_⟩
    intro _ sub member
    simp only [instantiate, bind_eq_ok, pure_eq_ok, Prod.mk.injEq] at instantiated
    rcases instantiated with ⟨_, -, -, rfl⟩
    simp only [Option.mem_toList, Option.map_eq_some_iff] at member
    rcases member with ⟨proxy, -, rfl⟩
    exact .inl (.proxy _ _ _ _)
  rcases ((callbackRules chain contracts closed_never).toRules lawful).invoked ready invokes with
    ⟨sub, rest, content, reached⟩
  rcases reached.2 self sub List.mem_cons_self with own | ⟨_, _, _, rfl⟩
  · exact own.of_callback content
  · cases content

end Callbacks

/-- Callbacks succeed only for the bridge itself. -/
theorem executeMsg_callback {chain : Chain} {contracts : Contracts σ} {world : World σ}
    {sender callee : Addr} {callback : CallbackMsg}
    {reaction : Reaction (World σ) CosmosMsg ReplyData}
    (executed : chain.executeMsg contracts world sender
      (.wasm (.execute chain.bridge (.bridge (.callback callback)))) = .ok (callee, reaction)) :
    sender = chain.bridge := by
  simp only [Chain.executeMsg, if_true, bind_eq_ok, mapError_eq_ok] at executed
  rcases executed with ⟨⟨storage, response⟩, ran, -⟩
  rcases (execute_cases ran).2 with ⟨record, sends, -⟩ | ⟨asked, -⟩ | ⟨_, -, self, -⟩
  · cases sends
  · cases asked
  · exact self

/-- Whatever the other contracts, the counterparties and the accounts of the chain do, and at
every point of every transaction: what succeeds for somebody other than the bridge is a pause
or sends an NFT of the caller, or of whom the proxy names; and the callbacks are executed only
for the bridge itself, while it handles a packet and with what it built for that packet. -/
theorem authority_of_run {chain : Chain} {contracts : Contracts σ} {msg : InstantiateMsg}
    (lawful : Lawful chain contracts msg.cw721BaseCodeId) {state : σ} {genesis : World σ}
    (instantiated : chain.instantiateTx contracts msg state = .ok genesis) :
    (∀ {world : World σ} {querier : Querier} {sender : Addr} {asked : ExecuteMsg}
      {after : Storage} {response : Response},
      Visited chain contracts msg state genesis world → sender ≠ chain.bridge →
      execute chain.api chain.bridge querier world.storage sender asked =
        .ok (after, response) →
      OutsiderDoes chain.api world.storage sender asked after response) ∧
    (∀ {labels : List Chain.Label} {label : Chain.Label} {at_ : World σ} {by_ : Addr}
      {callback : CallbackMsg} {callee : Addr}
      {reaction : Reaction (World σ) CosmosMsg ReplyData},
      InvokedIn chain contracts (labels.foldl (chain.step contracts) genesis) label at_ by_
        (.wasm (.execute chain.bridge (.bridge (.callback callback)))) →
      chain.executeMsg contracts at_ by_
        (.wasm (.execute chain.bridge (.bridge (.callback callback)))) =
          .ok (callee, reaction) →
      by_ = chain.bridge ∧
        Permits chain (labels.foldl (chain.step contracts) genesis) label callback) ∧
    ∀ {at_ : World σ} {by_ : Addr} {callback : CallbackMsg} {callee : Addr}
      {reaction : Reaction (World σ) CosmosMsg ReplyData},
      InvokedAtStart chain contracts msg state at_ by_
        (.wasm (.execute chain.bridge (.bridge (.callback callback)))) →
      chain.executeMsg contracts at_ by_
        (.wasm (.execute chain.bridge (.bridge (.callback callback)))) ≠
          .ok (callee, reaction) := by
  refine ⟨?_, ?_, ?_⟩
  · intro world querier sender asked after response visited outsider executed
    exact (visited.registry lawful instantiated).outsiderDoes outsider executed
  · intro labels label at_ by_ callback callee reaction invoked executed
    have self := executeMsg_callback executed
    exact ⟨self, invoked.permits lawful self⟩
  · intro at_ by_ callback callee reaction invoked executed
    exact invoked.no_callback lawful (executeMsg_callback executed)

/-- The collection of Alice's NFT sends it away. -/
theorem authority_of_sample :
    ∃ after response,
      execute Sample.api ⟨"bridge"⟩
        (Sample.chain.contracts.querier (Sample.run Sample.minted).contracts)
        (Sample.run Sample.minted).storage ⟨"contract0"⟩
        (.receiveNft ⟨"alice", "gem", Sample.request "bob" "channel-0"⟩) =
          .ok (after, response) ∧
      OutsiderDoes Sample.api (Sample.run Sample.minted).storage ⟨"contract0"⟩
        (.receiveNft ⟨"alice", "gem", Sample.request "bob" "channel-0"⟩) after response := by
  have succeeds : (execute Sample.api ⟨"bridge"⟩
      (Sample.chain.contracts.querier (Sample.run Sample.minted).contracts)
      (Sample.run Sample.minted).storage ⟨"contract0"⟩
      (.receiveNft ⟨"alice", "gem", Sample.request "bob" "channel-0"⟩)).isOk = true := by
    decide +kernel
  cases executed : execute Sample.api ⟨"bridge"⟩
      (Sample.chain.contracts.querier (Sample.run Sample.minted).contracts)
      (Sample.run Sample.minted).storage ⟨"contract0"⟩
      (.receiveNft ⟨"alice", "gem", Sample.request "bob" "channel-0"⟩) with
  | error err =>
      rw [executed] at succeeds
      cases succeeds
  | ok outcome =>
      rcases outcome with ⟨after, response⟩
      have authority := authority_of_run (Deployment.lawful (.refl Sample.chain.contracts) 1)
        Sample.instantiateTx_genesis
      exact ⟨after, response, rfl, authority.1 (.between Sample.minted) (by decide) executed⟩

end Ics721
