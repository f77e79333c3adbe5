import Ics721.Library.Runs
import Ics721.Receive.Aggregate
import Ics721.Registry.Dispatch

/-!
# The registry over whole runs

Every transaction of the chain keeps the registry coherent and lets it only grow, and
so does every run.
-/

namespace Ics721

open Library

variable {σ : Type}

/-! ## The message of a received packet -/

theorem slash_mem_voucherClassId (dest : IbcEndpoint) (classId : ClassId) :
    '/' ∈ (voucherClassId dest classId).id.toList := by
  simp [voucherClassId, getEndpointPrefix]

theorem harmless_message {bridge receiver : Addr} (aggregator : ActionAggregator)
    (slash : ∀ creation, aggregator.creation = some creation →
      '/' ∈ creation.cls.id.id.toList) :
    Harmless bridge (aggregator.message bridge receiver) := by
  have operand : ∀ msg ∈ aggregator.operands bridge receiver, Harmless bridge msg := by
    intro msg member
    simp only [ActionAggregator.operands, List.mem_append, Option.mem_toList,
      Option.map_eq_some_iff] at member
    rcases member with ⟨redemption, -, rfl⟩ | ⟨creation, held, rfl⟩
    · exact .redeem _ _
    · exact .create _ _ (slash creation held)
  unfold ActionAggregator.message
  split
  next msg single => exact operand msg (by simp [single])
  next operands _ => exact .conjunction _ operand

/-- The submessage of a received packet may run in any coherent world. -/
theorem harmless_selectActions {bridge receiver : Addr} (packet : IbcPacket)
    (data : NonFungibleTokenPacketData) (storage : Storage) :
    HarmlessSub bridge
      ((data.aggregate (selectActions packet data storage).2).intoSubmessage bridge
        receiver) := by
  refine .acked _ (harmless_message _ ?_)
  intro creation held
  rw [data.aggregate_creation (uniform_selectActions packet data storage)] at held
  split at held
  · cases held
  · cases held
    exact slash_mem_voucherClassId _ _

/-! ## Transactions -/

namespace Sound

variable {chain : Chain} {contracts : Contracts σ} {codeId : Nat} {world after : World σ}

theorem runMessages (lawful : Lawful chain contracts codeId) {start : Storage}
    {messages : List (SubMsg CosmosMsg)} {data : Option ReplyData}
    {result : World σ × Option ReplyData} (sound : Sound chain contracts codeId world)
    (extended : Extends start world.storage)
    (harmless : ∀ sub ∈ messages, HarmlessSub chain.bridge sub)
    (ran : chain.runMessages contracts world messages data = .ok result) :
    Sound chain contracts codeId result.1 ∧ Extends start result.1.storage :=
  (registryAssertions lawful start).dispatch (.plain sound extended fun _ => harmless) ran

theorem executeTx (lawful : Lawful chain contracts codeId) {sender : Addr} {msg : WasmMsg}
    (sound : Sound chain contracts codeId world) (account : sender ≠ chain.bridge)
    (executed : chain.executeTx contracts world sender msg = .ok after) :
    Sound chain contracts codeId after ∧ Extends world.storage after.storage := by
  simp only [Chain.executeTx, bind_eq_ok, pure_eq_ok] at executed
  obtain ⟨result, ran, rfl⟩ := executed
  exact (registryAssertions lawful world.storage).dispatch
    (.plain sound (Extends.refl _) fun self => absurd self account) ran

theorem receiveTx (lawful : Lawful chain contracts codeId) {packet : IbcPacket}
    {acknowledgement : Binary} (sound : Sound chain contracts codeId world)
    (received : chain.receiveTx contracts world packet = .ok (after, acknowledgement)) :
    Sound chain contracts codeId after ∧ Extends world.storage after.storage := by
  simp only [Chain.receiveTx, bind_eq_ok] at received
  obtain ⟨result, ran, final⟩ := received
  have reached : result.1 = after := by
    split at final
    · simp only [pure_eq_ok, Prod.mk.injEq] at final
      exact final.1
    · simp only [pure_eq_ok, Prod.mk.injEq] at final
      exact final.1
  subst reached
  unfold ibcPacketReceive at ran
  split at ran
  next outcome handled =>
    simp only [receiveIbcPacket, bind_eq_ok, pure_eq_ok] at handled
    obtain ⟨⟨data, receiver⟩, -, rfl⟩ := handled
    obtain ⟨registry, grown⟩ := sound.registry.selectActions packet data
    refine (sound.withStorage registry grown).runMessages lawful grown ?_ ran
    intro sub member
    rw [List.mem_singleton.mp member]
    exact harmless_selectActions packet data world.storage
  next error failed => exact sound.runMessages lawful (Extends.refl _) (by simp) ran

/-- Failures of the bridge's packets ask for transfers, acknowledgements for burns. -/
theorem ackMessages {api : Api} {storage final : Storage} {packet : IbcPacket}
    {response : Response} {bridge : Addr}
    (handled : (∃ error, handlePacketFail api storage packet error = .ok (final, response)) ∨
      handlePacketSuccess api storage packet = .ok (final, response)) :
    ∀ sub ∈ response.messages, HarmlessSub bridge sub := by
  rcases handled with ⟨error, handled⟩ | handled
  · simp only [handlePacketFail, bind_eq_ok, pure_eq_ok, Prod.mk.injEq] at handled
    obtain ⟨message, -, contract, -, sender, -, -, rfl⟩ := handled
    refine harmlessSub_map ?_
    intro msg member
    obtain ⟨tokenId, -, rfl⟩ := List.mem_map.mp member
    exact .cw721 _ _
  · simp only [handlePacketSuccess, bind_eq_ok, pure_eq_ok, Prod.mk.injEq] at handled
    obtain ⟨message, -, contract, -, -, rfl⟩ := handled
    refine harmlessSub_map ?_
    obtain ⟨burned, -, -, folded⟩ := foldl_burnNotice message.classId packet.src.channelId
      contract message.tokenIds storage []
    rw [folded]
    intro msg member
    simp only [List.nil_append] at member
    obtain ⟨tokenId, -, rfl⟩ := List.mem_map.mp member
    exact .cw721 _ _

theorem settleTx (lawful : Lawful chain contracts codeId) {packet : IbcPacket}
    {handler : Storage → IbcPacket → Except ContractError (Storage × Response)}
    (sound : Sound chain contracts codeId world)
    (settles : ∀ {final response}, handler world.storage packet = .ok (final, response) →
      (∃ error, handlePacketFail chain.api world.storage packet error = .ok (final, response)) ∨
        handlePacketSuccess chain.api world.storage packet = .ok (final, response))
    (settled : chain.settleTx contracts world packet handler = .ok after) :
    Sound chain contracts codeId after ∧ Extends world.storage after.storage := by
  unfold Chain.settleTx at settled
  split at settled
  next pending =>
    simp only [bind_eq_ok, mapError_eq_ok, pure_eq_ok] at settled
    obtain ⟨⟨final, response⟩, handled, result, ran, rfl⟩ := settled
    have grown : Registry codeId
          (fun contract => contracts.isContract world.contracts contract = true) final ∧
        Extends world.storage final := by
      rcases settles handled with ⟨error, failed⟩ | succeeded
      · exact sound.registry.handlePacketFail failed
      · exact sound.registry.handlePacketSuccess succeeded
    have fewer : ∀ other ∈ world.commitments.erase packet, other ∈ world.commitments :=
      fun other member => List.mem_of_mem_erase member
    have remaining := (sound.withStorage grown.1 grown.2).withCommitments fewer
    exact remaining.runMessages lawful grown.2 (ackMessages (settles handled)) ran
  next => cases settled

theorem ackTx (lawful : Lawful chain contracts codeId) {packet : IbcPacket}
    {acknowledgement : Binary} (sound : Sound chain contracts codeId world)
    (acked : chain.ackTx contracts world packet acknowledgement = .ok after) :
    Sound chain contracts codeId after ∧ Extends world.storage after.storage := by
  refine sound.settleTx lawful ?_ acked
  intro final response handled
  rcases ibcPacketAck_cases chain.api world.storage packet acknowledgement with
    ⟨error, -, same⟩ | ⟨-, same⟩
  · exact .inl ⟨error, same ▸ handled⟩
  · exact .inr (same ▸ handled)

theorem timeoutTx (lawful : Lawful chain contracts codeId) {packet : IbcPacket}
    (sound : Sound chain contracts codeId world)
    (timedOut : chain.timeoutTx contracts world packet = .ok after) :
    Sound chain contracts codeId after ∧ Extends world.storage after.storage :=
  sound.settleTx lawful (fun handled => .inl ⟨"timeout", handled⟩) timedOut

theorem migrateTx {msg : MigrateMsg} (sound : Sound chain contracts codeId world)
    (migrated : chain.migrateTx world msg = .ok after) :
    Sound chain contracts codeId after ∧ Extends world.storage after.storage := by
  cases msg with
  | withUpdate pauser proxy =>
      simp only [Chain.migrateTx, migrate, Storage.setPauser, bind_eq_ok, mapError_eq_ok,
        pure_eq_ok] at migrated
      obtain ⟨_, ⟨newProxy, -, _, ⟨newPauser, -, rfl⟩, rfl⟩, rfl⟩ := migrated
      refine ⟨sound.withStorage ?_ (.of_eq rfl rfl), .of_eq rfl rfl⟩
      exact sound.registry.of_less rfl rfl rfl rfl (fun _ _ => id) fun _ _ => id

/-- One step of the chain. -/
theorem step (lawful : Lawful chain contracts codeId)
    (sound : Sound chain contracts codeId world) (label : Chain.Label) :
    Sound chain contracts codeId (chain.step contracts world label) ∧
      Extends world.storage (chain.step contracts world label).storage := by
  unfold Chain.step
  split
  next after done =>
    cases label with
    | execute sender msg =>
        simp only [Chain.transaction] at done
        split at done
        next =>
          cases done
          exact ⟨sound, Extends.refl _⟩
        next account =>
          exact sound.executeTx lawful (fun self => account (.inl self)) done
    | receive packet =>
        simp only [Chain.transaction] at done
        split at done
        next =>
          simp only [map_eq_ok] at done
          obtain ⟨⟨final, acknowledgement⟩, received, rfl⟩ := done
          exact sound.receiveTx lawful received
        next =>
          cases done
          exact ⟨sound, Extends.refl _⟩
    | ack packet acknowledgement => exact sound.ackTx lawful done
    | timeout packet => exact sound.timeoutTx lawful done
    | migrate msg => exact sound.migrateTx done
  next => exact ⟨sound, Extends.refl _⟩

/-- Every run of the chain. -/
theorem run (lawful : Lawful chain contracts codeId)
    (sound : Sound chain contracts codeId world) (labels : List Chain.Label) :
    Sound chain contracts codeId (labels.foldl (chain.step contracts) world) ∧
      Extends world.storage (labels.foldl (chain.step contracts) world).storage := by
  have kept : ∀ reached label,
      (Sound chain contracts codeId reached ∧ Extends world.storage reached.storage) →
      Sound chain contracts codeId (chain.step contracts reached label) ∧
        Extends world.storage (chain.step contracts reached label).storage := by
    intro reached label kept
    obtain ⟨next, grown⟩ := kept.1.step lawful label
    exact ⟨next, kept.2.trans grown⟩
  exact run_invariant kept labels ⟨sound, Extends.refl _⟩

/-- A freshly instantiated bridge. -/
theorem instantiateTx (lawful : Lawful chain contracts codeId) {msg : InstantiateMsg}
    {state : σ} (code : msg.cw721BaseCodeId = codeId)
    (instantiated : chain.instantiateTx contracts msg state = .ok world) :
    Sound chain contracts codeId world := by
  simp only [Chain.instantiateTx, instantiate, Storage.setPauser, bind_eq_ok, mapError_eq_ok,
    pure_eq_ok] at instantiated
  obtain ⟨⟨storage, response⟩, ⟨_, ⟨pauser, -, rfl⟩, rfl, rfl⟩, result, ran, rfl⟩ :=
    instantiated
  refine (Sound.runMessages lawful ?_ (Extends.refl _) ?_ ran).1
  · exact ⟨⟨code, by simp, by simp, by simp, by simp, by simp, by simp, by simp⟩, rfl, by simp⟩
  · intro sub member
    simp only [Option.mem_toList, Option.map_eq_some_iff] at member
    obtain ⟨proxy, -, rfl⟩ := member
    exact .proxy _ _ _ _

end Sound

end Ics721
