import Ics721.Cw721.Conformance
import Ics721.Receive.Transaction

/-!
# Messages on a chain with cw721-base collections

With cw721-base collections the tree of calls below a message of the bridge is known.
This module says when each message the bridge emits goes through and what it leaves
behind, from single calls up to the submessage of a received packet.
-/

namespace Ics721

open Library

/-- Calls of one sender on one collection, one after another. -/
def Ledger.callAll (api : Api) (sender contract : Addr) (ledger : Ledger)
    (msgs : List Cw721ExecuteMsg) : Except String Ledger :=
  msgs.foldlM (fun ledger msg => ledger.call api sender contract msg) ledger

namespace Storage

/-- Enter a collection into the registry. -/
def register (storage : Storage) (classId : ClassId) (contract : Addr) : Storage :=
  { storage with
    classIdToNftContract := storage.classIdToNftContract.save classId contract
    nftContractToClassId := storage.nftContractToClassId.save contract classId }

/-- Save the record of a class. -/
def saveClass (storage : Storage) (cls : Class) : Storage :=
  { storage with classIdToClass := storage.classIdToClass.save cls.id cls }

/-- Save the metadata of tokens of a class. -/
def saveMetadata (storage : Storage) (classId : ClassId) (tokens : List Token) : Storage :=
  { storage with
    tokenMetadata := tokens.foldl
      (fun metadata token => metadata.save (classId, token.id) token.data)
      storage.tokenMetadata }

end Storage

namespace Deployment

variable {deployment : Deployment} {world : World Ledger} {depth : Nat}
variable {data : Option ReplyData} {result : World Ledger × Option ReplyData}

/-- A call on a collection that makes no further call. -/
theorem runOne_call {sender contract : Addr} {msg : Cw721ExecuteMsg}
    (different : contract ≠ deployment.bridge) (silent : msg.callbacks sender = [])
    {run : World Ledger → Addr → List (SubMsg CosmosMsg) → Option ReplyData →
      Except ChainError (World Ledger × Option ReplyData)}
    (done : ∀ reached caller data, run reached caller [] data = .ok (reached, data)) :
    (deployment.machine deployment.contracts).runOne run sender (world, data)
        (WasmMsg.execute contract (.cw721 msg)).sub = .ok result ↔
      ∃ ledger, world.contracts.call deployment.api sender contract msg = .ok ledger ∧
        result = ({ world with contracts := ledger }, data) := by
  rw [Machine.runOne_never rfl]
  simp only [Chain.machine, WasmMsg.sub, CosmosMsg.sub, Chain.executeMsg, different, if_false,
    bind_eq_ok, mapError_eq_ok, pure_eq_ok, contracts]
  constructor
  · rintro ⟨_, ⟨_, ⟨ledger, called, rfl⟩, rfl⟩, inner, ran, rfl⟩
    simp only [World.reactContract, silent, done, Except.ok.injEq] at ran
    subst inner
    exact ⟨ledger, called, rfl⟩
  · rintro ⟨ledger, called, rfl⟩
    refine ⟨_, ⟨_, ⟨ledger, called, rfl⟩, rfl⟩, ({ world with contracts := ledger }, none), ?_, rfl⟩
    simp only [World.reactContract, silent, done]

/-- Calls of the bridge on a collection, one for each item of a list. -/
theorem dispatch_calls {α : Type} {contract : Addr} {items : List α} {call : α → Cw721ExecuteMsg}
    (different : contract ≠ deployment.bridge)
    (silent : ∀ item, (call item).callbacks deployment.bridge = []) :
    (deployment.machine deployment.contracts).dispatch (depth + 1) world deployment.bridge
        ((items.map fun item => WasmMsg.execute contract (.cw721 (call item))).map (·.sub))
        data = .ok result ↔
      ∃ ledger, world.contracts.callAll deployment.api deployment.bridge contract
          (items.map call) = .ok ledger ∧
        result = ({ world with contracts := ledger }, data) := by
  induction items generalizing world with
  | nil => simp [Ledger.callAll, @eq_comm _ _ result]
  | cons item items ih =>
      rw [List.map_cons, List.map_cons, Machine.dispatch_succ_cons, bind_eq_ok]
      simp only [runOne_call different (silent item) fun _ _ _ => Machine.dispatch_nil _ _ _ _ _]
      simp only [Ledger.callAll, List.map_cons, List.foldlM_cons, bind_eq_ok]
      constructor
      · rintro ⟨_, ⟨first, called, rfl⟩, rest⟩
        obtain ⟨ledger, remaining, rfl⟩ := ih.mp rest
        exact ⟨ledger, ⟨first, called, remaining⟩, rfl⟩
      · rintro ⟨ledger, ⟨first, called, remaining⟩, rfl⟩
        exact ⟨_, ⟨first, called, rfl⟩, ih.mpr ⟨ledger, remaining, rfl⟩⟩

/-- The transfers of a redemption. -/
def Redeems (deployment : Deployment) (receiver : Addr) (redeem : VoucherRedemption)
    (before after : World Ledger) : Prop :=
  ∃ contract ledger,
    before.storage.classIdToNftContract redeem.cls.id = some contract ∧
    before.contracts.callAll deployment.api deployment.bridge contract
      (redeem.tokenIds.map fun tokenId => .transferNft receiver.addr tokenId) = .ok ledger ∧
    after = { before with contracts := ledger }

/-- No class is registered for the address of the bridge. -/
def Foreign (deployment : Deployment) (storage : Storage) : Prop :=
  ∀ classId, storage.classIdToNftContract classId ≠ some deployment.bridge

theorem runOne_redeem {receiver : Addr} {redeem : VoucherRedemption}
    (foreign : deployment.Foreign world.storage) :
    (deployment.machine deployment.contracts).runOne
        ((deployment.machine deployment.contracts).dispatch (depth + 1)) deployment.bridge
        (world, data) (redeem.intoWasmMsg deployment.bridge receiver.addr).sub = .ok result ↔
      world.storage.paused = false ∧ deployment.api.addrValid receiver.addr = true ∧
        ∃ after, deployment.Redeems receiver redeem world after ∧ result = (after, data) := by
  rw [VoucherRedemption.intoWasmMsg, Chain.runOne_callback]
  simp only [executeCallback, ne_eq, not_true_eq_false, if_false, callbackRedeemVouchers,
    bind_eq_ok, mapError_eq_ok, Storage.loadNftContract_eq_ok, Api.addrValidate_eq_ok,
    pure_eq_ok, Prod.mk.injEq]
  refine and_congr_right fun running => ?_
  constructor
  · rintro ⟨_, _, inner, ⟨contract, known, _, ⟨valid, rfl⟩, rfl, rfl⟩, ran, rfl⟩
    have different : contract ≠ deployment.bridge := fun same => foreign _ (same ▸ known)
    obtain ⟨ledger, called, rfl⟩ := (dispatch_calls different fun _ => rfl).mp ran
    exact ⟨valid, _, ⟨contract, ledger, known, called, rfl⟩, rfl⟩
  · rintro ⟨valid, _, ⟨contract, ledger, known, called, rfl⟩, rfl⟩
    have different : contract ≠ deployment.bridge := fun same => foreign _ (same ▸ known)
    exact ⟨_, _, _, ⟨contract, known, receiver, ⟨valid, rfl⟩, rfl, rfl⟩,
      (dispatch_calls different fun _ => rfl).mpr ⟨ledger, called, rfl⟩, rfl⟩

/-- The mints of a creation, in a collection that is registered. -/
theorem runOne_mint {receiver : Addr} {classId : ClassId} {tokens : List Token}
    (foreign : deployment.Foreign world.storage) :
    (deployment.machine deployment.contracts).runOne
        ((deployment.machine deployment.contracts).dispatch (depth + 1)) deployment.bridge
        (world, data) (WasmMsg.execute deployment.bridge
          (.bridge (.callback (.mint classId receiver.addr tokens)))).sub = .ok result ↔
      world.storage.paused = false ∧ deployment.api.addrValid receiver.addr = true ∧
        ∃ contract ledger, world.storage.classIdToNftContract classId = some contract ∧
          world.contracts.callAll deployment.api deployment.bridge contract
            (tokens.map fun token => .mint token.id receiver.addr token.uri) = .ok ledger ∧
          result = ({ world with
            storage := world.storage.saveMetadata classId tokens, contracts := ledger }, data) := by
  rw [Chain.runOne_callback]
  simp only [executeCallback, ne_eq, not_true_eq_false, if_false, callbackMint, bind_eq_ok,
    mapError_eq_ok, Storage.loadNftContract_eq_ok, Api.addrValidate_eq_ok, pure_eq_ok,
    Prod.mk.injEq]
  refine and_congr_right fun running => ?_
  constructor
  · rintro ⟨_, _, inner, ⟨_, ⟨valid, rfl⟩, contract, known, rfl, rfl⟩, ran, rfl⟩
    have different : contract ≠ deployment.bridge := fun same => foreign _ (same ▸ known)
    obtain ⟨ledger, called, rfl⟩ := (dispatch_calls different fun _ => rfl).mp ran
    exact ⟨valid, contract, ledger, known, called, rfl⟩
  · rintro ⟨valid, contract, ledger, known, called, rfl⟩
    have different : contract ≠ deployment.bridge := fun same => foreign _ (same ▸ known)
    exact ⟨_, _, _, ⟨receiver, ⟨valid, rfl⟩, contract, known, rfl, rfl⟩,
      (dispatch_calls different fun _ => rfl).mpr ⟨ledger, called, rfl⟩, rfl⟩

/-- A collection for a class is instantiated and registered. -/
theorem runOne_instantiate {admin : Option String} {code : Nat}
    {name symbol minter label : String} :
    (deployment.machine deployment.contracts).runOne
        ((deployment.machine deployment.contracts).dispatch depth) deployment.bridge
        (world, data) ⟨.wasm (.instantiate admin code (.cw721 ⟨name, symbol, minter⟩) label),
          .success, instantiateCw721ReplyId⟩ = .ok result ↔
      ∃ contract ledger,
        deployment.instantiate world.contracts ⟨name, symbol, minter⟩ = .ok (contract, ledger) ∧
        result = ({ world with
          storage := world.storage.register ⟨name⟩ contract, contracts := ledger }, data) := by
  cases instantiated : deployment.instantiate world.contracts ⟨name, symbol, minter⟩ with
  | error err =>
      simp [Machine.runOne, Chain.machine, Chain.executeMsg, contracts, instantiated,
        ReplyOn.onError]
  | ok outcome =>
      obtain ⟨contract, ledger⟩ := outcome
      obtain ⟨address, -, infos, -, -⟩ := instantiate_eq_ok instantiated
      have valid : deployment.api.addrValid contract.addr = true :=
        address ▸ deployment.newAddress_valid _
      have known : ledger.infoAt deployment.api contract = some ⟨name, ⟨minter⟩, .empty⟩ := by
        rw [infos, StoreMap.save_self]
      obtain ⟨collection, found, same⟩ := Ledger.infoAt_eq_some.mp known
      have named : collection.name = name := congrArg CollectionInfo.name same
      have parsed : deployment.api.addrValidate contract.addr = .ok contract := by
        simp [valid]
      simp only [Machine.runOne, Chain.machine, Chain.executeMsg, contracts, instantiated, ok_bind,
        pure, Except.pure, mapError_ok, World.reactContract, Machine.dispatch_nil,
        ReplyOn.onSuccess, if_true, Chain.replyMsg, reply_instantiateCw721,
        replyInstantiateCw721, parseReplyInstantiateData, parsed, Contracts.querier, found,
        named, World.react, Option.map_none]
      simp only [Except.ok.injEq, Prod.mk.injEq, existsAndEq, true_and]
      exact eq_comm

/-- The collection of a class is found in the registry, or instantiated and entered. -/
def Opens (deployment : Deployment) (classId : ClassId) (contract : Addr)
    (before after : World Ledger) : Prop :=
  (before.storage.classIdToNftContract classId = some contract ∧ after = before) ∨
    (before.storage.classIdToNftContract classId = none ∧ ∃ ledger,
      deployment.instantiate before.contracts
        ⟨classId.id, classId.id, deployment.bridge.addr⟩ = .ok (contract, ledger) ∧
      after = { before with
        storage := before.storage.register classId contract, contracts := ledger })

/-- The mints of a creation, after its class was recorded and its collection opened. -/
def Creates (deployment : Deployment) (receiver : Addr) (create : VoucherCreation)
    (before after : World Ledger) : Prop :=
  ∃ contract opened ledger,
    deployment.Opens create.cls.id contract
      { before with storage := before.storage.saveClass create.cls } opened ∧
    opened.contracts.callAll deployment.api deployment.bridge contract
      (create.tokens.map fun token => .mint token.id receiver.addr token.uri) = .ok ledger ∧
    after = { opened with
      storage := opened.storage.saveMetadata create.cls.id create.tokens, contracts := ledger }

theorem Opens.registered {classId : ClassId} {contract : Addr} {before after : World Ledger}
    (opens : deployment.Opens classId contract before after) :
    after.storage.classIdToNftContract classId = some contract := by
  rcases opens with ⟨known, rfl⟩ | ⟨-, ledger, -, rfl⟩
  · exact known
  · exact StoreMap.save_self _ _ _

theorem Opens.foreign {classId : ClassId} {contract : Addr} {before after : World Ledger}
    (opens : deployment.Opens classId contract before after)
    (foreign : deployment.Foreign before.storage) : deployment.Foreign after.storage := by
  rcases opens with ⟨-, rfl⟩ | ⟨-, ledger, instantiated, rfl⟩
  · exact foreign
  · intro other entry
    simp only [Storage.register, StoreMap.save_apply] at entry
    split at entry
    next =>
      obtain ⟨address, -⟩ := instantiate_eq_ok instantiated
      cases entry
      exact deployment.newAddress_ne_bridge _ address.symm
    next => exact foreign other entry

theorem Opens.paused {classId : ClassId} {contract : Addr} {before after : World Ledger}
    (opens : deployment.Opens classId contract before after) :
    after.storage.paused = before.storage.paused := by
  rcases opens with ⟨-, rfl⟩ | ⟨-, ledger, -, rfl⟩
  · rfl
  · rfl

/-- The message that mints, once the collection is open. -/
theorem dispatch_mint {classId : ClassId} {contract receiver : Addr} {tokens : List Token}
    (running : world.storage.paused = false) (foreign : deployment.Foreign world.storage)
    (known : world.storage.classIdToNftContract classId = some contract) :
    (deployment.machine deployment.contracts).dispatch (depth + 2) world deployment.bridge
        [(WasmMsg.execute deployment.bridge
          (.bridge (.callback (.mint classId receiver.addr tokens)))).sub] data = .ok result ↔
      deployment.api.addrValid receiver.addr = true ∧ ∃ ledger,
        world.contracts.callAll deployment.api deployment.bridge contract
          (tokens.map fun token => .mint token.id receiver.addr token.uri) = .ok ledger ∧
        result = ({ world with
          storage := world.storage.saveMetadata classId tokens, contracts := ledger }, data) := by
  rw [Machine.dispatch_succ_cons, bind_eq_ok]
  simp only [runOne_mint foreign, running, true_and, Machine.dispatch_nil, Except.ok.injEq]
  constructor
  · rintro ⟨_, ⟨valid, found, ledger, entry, called, rfl⟩, rfl⟩
    cases Option.some.inj (entry.symm.trans known)
    exact ⟨valid, ledger, called, rfl⟩
  · rintro ⟨valid, ledger, called, rfl⟩
    exact ⟨_, ⟨valid, contract, ledger, known, called, rfl⟩, rfl⟩

/-- The messages of a creation whose class was recorded. -/
theorem dispatch_create {classId : ClassId} {receiver : Addr} {tokens : List Token}
    {admin : Option String} {code : Nat} {label : String}
    (running : world.storage.paused = false) (foreign : deployment.Foreign world.storage) :
    (deployment.machine deployment.contracts).dispatch (depth + 2) world deployment.bridge
        ((if world.storage.classIdToNftContract.has classId then [] else
            [⟨.wasm (.instantiate admin code
              (.cw721 ⟨classId.id, classId.id, deployment.bridge.addr⟩) label),
              .success, instantiateCw721ReplyId⟩]) ++
          [(WasmMsg.execute deployment.bridge
            (.bridge (.callback (.mint classId receiver.addr tokens)))).sub]) data = .ok result ↔
      deployment.api.addrValid receiver.addr = true ∧ ∃ contract opened ledger,
        deployment.Opens classId contract world opened ∧
        opened.contracts.callAll deployment.api deployment.bridge contract
          (tokens.map fun token => .mint token.id receiver.addr token.uri) = .ok ledger ∧
        result = ({ opened with
          storage := opened.storage.saveMetadata classId tokens, contracts := ledger }, data) := by
  cases entry : world.storage.classIdToNftContract classId with
  | some contract =>
      simp only [StoreMap.has, entry, Option.isSome_some, if_true, List.nil_append,
        dispatch_mint running foreign entry]
      refine and_congr_right fun valid => ?_
      constructor
      · rintro ⟨ledger, called, rfl⟩
        exact ⟨contract, world, ledger, .inl ⟨entry, rfl⟩, called, rfl⟩
      · rintro ⟨found, opened, ledger, ⟨known, rfl⟩ | ⟨missing, -⟩, called, rfl⟩
        · cases Option.some.inj (known.symm.trans entry)
          exact ⟨ledger, called, rfl⟩
        · cases missing.symm.trans entry
  | none =>
      simp only [StoreMap.has, entry, Option.isSome_none, Bool.false_eq_true, if_false,
        List.singleton_append]
      rw [Machine.dispatch_succ_cons, bind_eq_ok]
      simp only [runOne_instantiate]
      constructor
      · rintro ⟨_, ⟨contract, fresh, instantiated, rfl⟩, rest⟩
        have opens : deployment.Opens classId contract world _ :=
          .inr ⟨entry, fresh, instantiated, rfl⟩
        obtain ⟨valid, ledger, called, rfl⟩ :=
          (dispatch_mint (opens.paused.trans running) (opens.foreign foreign)
            opens.registered).mp rest
        exact ⟨valid, contract, _, ledger, opens, called, rfl⟩
      · rintro ⟨valid, contract, opened, ledger, opens, called, rfl⟩
        have unpaused := opens.paused.trans running
        have outside := opens.foreign foreign
        have known := opens.registered
        rcases opens with ⟨present, -⟩ | ⟨-, fresh, instantiated, rfl⟩
        · cases entry.symm.trans present
        · exact ⟨_, ⟨contract, fresh, instantiated, rfl⟩,
            (dispatch_mint unpaused outside known).mpr ⟨valid, ledger, called, rfl⟩⟩

theorem runOne_create {receiver : Addr} {create : VoucherCreation}
    (foreign : deployment.Foreign world.storage) :
    (deployment.machine deployment.contracts).runOne
        ((deployment.machine deployment.contracts).dispatch (depth + 2)) deployment.bridge
        (world, data) (create.intoWasmMsg deployment.bridge receiver.addr).sub = .ok result ↔
      world.storage.paused = false ∧ deployment.api.addrValid receiver.addr = true ∧
        ∃ after, deployment.Creates receiver create world after ∧ result = (after, data) := by
  rw [VoucherCreation.intoWasmMsg, Chain.runOne_callback]
  simp only [executeCallback, ne_eq, not_true_eq_false, if_false, callbackCreateVouchers,
    Except.ok.injEq, Prod.mk.injEq]
  refine and_congr_right fun running => ?_
  have ran_iff := fun inner => @dispatch_create deployment
    { world with storage := world.storage.saveClass create.cls } depth none inner create.cls.id
    receiver create.tokens none world.storage.cw721CodeId "ics-721 debt-voucher cw-721" running
    foreign
  constructor
  · rintro ⟨_, _, inner, ⟨rfl, rfl⟩, ran, rfl⟩
    obtain ⟨valid, contract, opened, ledger, opens, called, rfl⟩ := (ran_iff inner).mp ran
    exact ⟨valid, _, ⟨contract, opened, ledger, opens, called, rfl⟩, rfl⟩
  · rintro ⟨valid, _, ⟨contract, opened, ledger, opens, called, rfl⟩, rfl⟩
    have ran := (ran_iff _).mpr ⟨valid, contract, opened, ledger, opens, called, rfl⟩
    exact ⟨_, _, _, ⟨rfl, rfl⟩, ran, rfl⟩

/-- What the aggregated actions of a packet amount to: redemptions, then creations. -/
def Applies (deployment : Deployment) (receiver : Addr) (aggregator : ActionAggregator)
    (before after : World Ledger) : Prop :=
  ∃ middle,
    (match aggregator.redemption with
      | some redeem => deployment.Redeems receiver redeem before middle
      | none => middle = before) ∧
    (match aggregator.creation with
      | some create => deployment.Creates receiver create middle after
      | none => after = middle)

theorem runOne_message {receiver : Addr} {aggregator : ActionAggregator}
    (valid : deployment.api.addrValid receiver.addr = true)
    (foreign : deployment.Foreign world.storage) :
    (deployment.machine deployment.contracts).runOne
        ((deployment.machine deployment.contracts).dispatch (depth + 3)) deployment.bridge
        (world, data) (aggregator.message deployment.bridge receiver).sub = .ok result ↔
      world.storage.paused = false ∧
        ∃ after, deployment.Applies receiver aggregator world after ∧
          result = (after, data) := by
  simp only [Applies, ActionAggregator.message, ActionAggregator.operands]
  cases aggregator.redemption with
  | none =>
      cases aggregator.creation with
      | none =>
          simp only [Option.map_none, Option.toList_none, List.append_nil, Chain.runOne_callback,
            executeCallback, ne_eq, not_true_eq_false, if_false, Except.ok.injEq, Prod.mk.injEq]
          refine and_congr_right fun running => ?_
          constructor
          · rintro ⟨_, _, inner, ⟨rfl, rfl⟩, ran, rfl⟩
            simp only [List.map_nil, Machine.dispatch_nil, Except.ok.injEq] at ran
            subst inner
            exact ⟨world, ⟨world, rfl, rfl⟩, rfl⟩
          · rintro ⟨_, ⟨_, rfl, rfl⟩, rfl⟩
            exact ⟨_, _, _, ⟨rfl, rfl⟩, by rw [List.map_nil, Machine.dispatch_nil], rfl⟩
      | some create =>
          simp only [Option.map_none, Option.map_some, Option.toList_none, Option.toList_some,
            List.nil_append, runOne_create foreign, valid, true_and]
          refine and_congr_right fun running => ?_
          constructor
          · rintro ⟨after, creates, rfl⟩
            exact ⟨after, ⟨world, rfl, creates⟩, rfl⟩
          · rintro ⟨after, ⟨_, rfl, creates⟩, rfl⟩
            exact ⟨after, creates, rfl⟩
  | some redeem =>
      cases aggregator.creation with
      | none =>
          simp only [Option.map_none, Option.map_some, Option.toList_none, Option.toList_some,
            List.append_nil, runOne_redeem foreign, valid, true_and]
          refine and_congr_right fun running => ?_
          constructor
          · rintro ⟨after, redeems, rfl⟩
            exact ⟨after, ⟨after, redeems, rfl⟩, rfl⟩
          · rintro ⟨_, ⟨_, redeems, rfl⟩, rfl⟩
            exact ⟨_, redeems, rfl⟩
      | some create =>
          simp only [Option.map_some, Option.toList_some, List.singleton_append,
            Chain.runOne_callback,
            executeCallback, ne_eq, not_true_eq_false, if_false, Except.ok.injEq, Prod.mk.injEq]
          refine and_congr_right fun running => ?_
          have kept : ∀ {middle}, deployment.Redeems receiver redeem world middle →
              middle.storage = world.storage := by
            rintro middle ⟨contract, ledger, -, -, rfl⟩
            rfl
          constructor
          · rintro ⟨_, _, inner, ⟨rfl, rfl⟩, ran, rfl⟩
            simp only [List.map_cons, List.map_nil, Machine.dispatch_succ_cons,
              Machine.dispatch_nil, bind_eq_ok, Except.ok.injEq] at ran
            obtain ⟨_, first, last, second, rfl⟩ := ran
            obtain ⟨-, -, middle, redeems, rfl⟩ := (runOne_redeem foreign).mp first
            obtain ⟨-, -, after, creates, rfl⟩ :=
              (runOne_create (by rw [kept redeems]; exact foreign)).mp second
            exact ⟨after, ⟨middle, redeems, creates⟩, rfl⟩
          · rintro ⟨after, ⟨middle, redeems, creates⟩, rfl⟩
            refine ⟨_, _, (after, none), ⟨rfl, rfl⟩, ?_, rfl⟩
            simp only [List.map_cons, List.map_nil, Machine.dispatch_succ_cons,
              Machine.dispatch_nil, bind_eq_ok, Except.ok.injEq]
            refine ⟨(middle, none), ?_, (after, none), ?_, rfl⟩
            · exact (runOne_redeem foreign).mpr ⟨running, valid, middle, redeems, rfl⟩
            · refine (runOne_create (by rw [kept redeems]; exact foreign)).mpr ?_
              exact ⟨by rw [kept redeems]; exact running, valid, after, creates, rfl⟩

end Deployment

end Ics721
