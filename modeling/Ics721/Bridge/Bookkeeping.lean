import Ics721.Bridge.Metadata
import Ics721.Receive.Partition
import Ics721.Receive.Prefixes
import Ics721.Settlement.Emitted

/-!
# The books of the bridge

For every voucher there is an entry that says on which channel it came in, and an entry with
its metadata.  The first is written before the voucher is minted, the second together with it,
and both are removed when it is burned.  What the voucher collections do is all that matters:
the other contracts of the chain, and the other ends of the channels, do as they like.
-/

namespace Ics721

open Library

variable {σ : Type}

/-- Voucher collections are cw721-base contracts for which only the bridge mints: a token comes
into being when the bridge mints it, is gone when it has been burned, and a new collection has
none. -/
structure VoucherContracts (chain : Chain) (contracts : Contracts σ) (codeId : Nat) where
  /-- There is a collection of which the bridge is the minter at the address. -/
  isVoucher : σ → Addr → Prop
  /-- The collection has the token. -/
  has : σ → Addr → TokenId → Prop
  execute_kept : ∀ {storage state sender contract msg reaction},
    contracts.execute storage state sender contract msg = .ok reaction →
    ∀ {other}, isVoucher state other → isVoucher reaction.world other
  reply_kept : ∀ {storage state contract id result reaction},
    contracts.reply storage state contract id result = .ok reaction →
    ∀ {other}, isVoucher state other → isVoucher reaction.world other
  instantiate_kept : ∀ {storage state sender code msg contract reaction},
    contracts.instantiate storage state sender code msg = .ok (contract, reaction) →
    ∀ {other}, isVoucher state other → isVoucher reaction.world other
  minted : ∀ {storage state sender contract msg reaction},
    contracts.execute storage state sender contract msg = .ok reaction →
    ∀ {other tokenId}, isVoucher state other → has reaction.world other tokenId →
      has state other tokenId ∨ (contract = other ∧ sender = chain.bridge ∧
        ∃ owner uri, msg = .cw721 (.mint tokenId owner uri))
  reply_has : ∀ {storage state contract id result reaction},
    contracts.reply storage state contract id result = .ok reaction →
    ∀ {other tokenId}, isVoucher state other → has reaction.world other tokenId →
      has state other tokenId
  instantiate_has : ∀ {storage state sender code msg contract reaction},
    contracts.instantiate storage state sender code msg = .ok (contract, reaction) →
    ∀ {other tokenId}, isVoucher state other → has reaction.world other tokenId →
      has state other tokenId
  burned : ∀ {storage state contract tokenId reaction}, isVoucher state contract →
    contracts.execute storage state chain.bridge contract (.cw721 (.burn tokenId)) =
      .ok reaction →
    ¬ has reaction.world contract tokenId
  collection : ∀ {storage state name symbol contract reaction},
    contracts.instantiate storage state chain.bridge codeId
      (.cw721 ⟨name, symbol, chain.bridge.addr⟩) = .ok (contract, reaction) →
    isVoucher reaction.world contract ∧ ∀ tokenId, ¬ has reaction.world contract tokenId

/-- Voucher classes have a prefix, and local ones are called by an address. -/
def ClassId.IsVoucher (classId : ClassId) : Prop := '/' ∈ classId.id.toList

/-- The class ID has the prefix of a channel of the bridge, and more than that. -/
def ClassId.NamesChannel (portId channelId : String) (classId : ClassId) : Prop :=
  ∃ rest, rest ≠ "" ∧ classId.id = getEndpointPrefix ⟨portId, channelId⟩ ++ rest

section Rules

variable {chain : Chain} {contracts : Contracts σ} {codeId : Nat}

/-- Every voucher is in the books. -/
structure Booked (vouchers : VoucherContracts chain contracts codeId) (world : World σ) :
    Prop where
  code : world.storage.cw721CodeId = codeId
  known : ∀ {contract classId}, world.storage.nftContractToClassId contract = some classId →
    contracts.isContract world.contracts contract = true
  registered : ∀ {classId contract}, classId.IsVoucher →
    world.storage.classIdToNftContract classId = some contract →
    world.storage.nftContractToClassId contract = some classId ∧
      vouchers.isVoucher world.contracts contract
  names : ∀ {classId tokenId channelId},
    world.storage.incomingClassTokenToChannel (classId, tokenId) = some channelId →
    '/' ∉ channelId.toList ∧ classId.NamesChannel chain.portId channelId
  booked : ∀ {classId contract tokenId}, classId.IsVoucher →
    world.storage.classIdToNftContract classId = some contract →
    vouchers.has world.contracts contract tokenId →
    world.storage.incomingClassTokenToChannel (classId, tokenId) ≠ none ∧
      world.storage.tokenMetadata (classId, tokenId) ≠ none

/-- How the books may change in the course of a transaction. -/
structure BooksGrow (before after : Storage) : Prop where
  classes : ∀ {contract classId}, before.nftContractToClassId contract = some classId →
    after.nftContractToClassId contract = some classId
  metadata : ∀ {key}, before.tokenMetadata key ≠ none → after.tokenMetadata key ≠ none

/-- What the bridge emits in the course of a transaction.  It mints only what is in the books,
and what it calls itself with is permitted by `built`. -/
inductive BooksOwn (bridge : Addr) (codeId : Nat)
    (incoming : StoreMap (ClassId × TokenId) String) (built : CallbackMsg → Prop)
    (storage : Storage) : SubMsg CosmosMsg → Prop where
  | quiet {contract : Addr} {msg : Cw721ExecuteMsg}
      (mintless : ∀ tokenId owner uri, msg ≠ .mint tokenId owner uri) :
      BooksOwn bridge codeId incoming built storage (WasmMsg.execute contract (.cw721 msg)).sub
  | mint {contract : Addr} {tokenId : TokenId} {owner : String} {uri : Option String}
      {classId : ClassId} (class_ : storage.nftContractToClassId contract = some classId)
      (came : incoming (classId, tokenId) ≠ none)
      (described : storage.tokenMetadata (classId, tokenId) ≠ none) :
      BooksOwn bridge codeId incoming built storage
        (WasmMsg.execute contract (.cw721 (.mint tokenId owner uri))).sub
  | callback {msg : CallbackMsg} (permitted : built msg) :
      BooksOwn bridge codeId incoming built storage
        (WasmMsg.execute bridge (.bridge (.callback msg))).sub
  | acked {msg : CallbackMsg} (permitted : built msg) :
      BooksOwn bridge codeId incoming built storage
        ⟨.wasm (.execute bridge (.bridge (.callback msg))), .always, ackAndDoNothing⟩
  | collection (name symbol label : String) :
      BooksOwn bridge codeId incoming built storage
        ⟨.wasm (.instantiate none codeId (.cw721 ⟨name, symbol, bridge.addr⟩) label), .success,
          instantiateCw721ReplyId⟩
  | proxy (admin : Option String) (code : Nat) (msg : Binary) (label : String) :
      BooksOwn bridge codeId incoming built storage
        ⟨.wasm (.instantiate admin code (.other msg) label), .success, instantiateProxyReplyId⟩
  | packet (channelId : String) (data : Binary) (timeout : IbcTimeout) :
      BooksOwn bridge codeId incoming built storage
        (CosmosMsg.ibc (.sendPacket channelId data timeout)).sub

theorem BooksOwn.grow {bridge : Addr} {incoming : StoreMap (ClassId × TokenId) String}
    {built : CallbackMsg → Prop} {before after : Storage} {sub : SubMsg CosmosMsg}
    (own : BooksOwn bridge codeId incoming built before sub) (grows : BooksGrow before after) :
    BooksOwn bridge codeId incoming built after sub := by
  cases own with
  | quiet mintless => exact .quiet mintless
  | mint class_ came described =>
      exact .mint (grows.classes class_) came (grows.metadata described)
  | callback permitted => exact .callback permitted
  | acked permitted => exact .acked permitted
  | collection => exact .collection _ _ _
  | proxy => exact .proxy _ _ _ _
  | packet => exact .packet _ _ _

theorem BooksOwn.of_callback {bridge : Addr} {incoming : StoreMap (ClassId × TokenId) String}
    {built : CallbackMsg → Prop} {storage : Storage} {sub : SubMsg CosmosMsg}
    {callback : CallbackMsg} (own : BooksOwn bridge codeId incoming built storage sub)
    (content : sub.msg = .wasm (.execute bridge (.bridge (.callback callback)))) :
    built callback := by
  cases own with
  | callback permitted =>
      cases content
      exact permitted
  | acked permitted =>
      cases content
      exact permitted
  | quiet => cases content
  | mint => cases content
  | collection => cases content
  | proxy => cases content
  | packet => cases content

namespace Booked

variable {vouchers : VoucherContracts chain contracts codeId} {world : World σ}

/-- Another contract did something, and vouchers came into being only if they are in the
books. -/
theorem withContracts (booked : Booked vouchers world) {after : σ}
    (kept : ∀ {other}, contracts.isContract world.contracts other = true →
      contracts.isContract after other = true)
    (keptVoucher : ∀ {other}, vouchers.isVoucher world.contracts other →
      vouchers.isVoucher after other)
    (tokens : ∀ {other tokenId classId}, vouchers.isVoucher world.contracts other →
      world.storage.nftContractToClassId other = some classId →
      vouchers.has after other tokenId →
      vouchers.has world.contracts other tokenId ∨
        (world.storage.incomingClassTokenToChannel (classId, tokenId) ≠ none ∧
          world.storage.tokenMetadata (classId, tokenId) ≠ none)) :
    Booked vouchers { world with contracts := after } where
  code := booked.code
  known entry := kept (booked.known entry)
  registered voucher entry :=
    ⟨(booked.registered voucher entry).1, keptVoucher (booked.registered voucher entry).2⟩
  names := booked.names
  booked := by
    intro classId contract tokenId voucher entry present
    rcases booked.registered voucher entry with ⟨class_, isVoucher⟩
    rcases tokens isVoucher class_ present with before | inBooks
    · exact booked.booked voucher entry before
    · exact inBooks

/-- The books are in the storage and in the collections. -/
theorem congr (booked : Booked vouchers world) {after : World σ}
    (storage : after.storage = world.storage) (state : after.contracts = world.contracts) :
    Booked vouchers after where
  code := by
    rw [storage]
    exact booked.code
  known := by
    rw [storage, state]
    exact booked.known
  registered := by
    rw [storage, state]
    exact booked.registered
  names := by
    rw [storage]
    exact booked.names
  booked := by
    rw [storage, state]
    exact booked.booked

/-- Metadata was added. -/
theorem withMetadata (booked : Booked vouchers world) {storage : Storage}
    (code : storage.cw721CodeId = world.storage.cw721CodeId)
    (classes : storage.nftContractToClassId = world.storage.nftContractToClassId)
    (collections : storage.classIdToNftContract = world.storage.classIdToNftContract)
    (incoming : storage.incomingClassTokenToChannel = world.storage.incomingClassTokenToChannel)
    (metadata : ∀ {key}, world.storage.tokenMetadata key ≠ none →
      storage.tokenMetadata key ≠ none) :
    Booked vouchers { world with storage := storage } where
  code := code.trans booked.code
  known := by
    rw [classes]
    exact booked.known
  registered := by
    rw [classes, collections]
    exact booked.registered
  names := by
    rw [incoming]
    exact booked.names
  booked := by
    intro classId contract tokenId voucher entry present
    simp only [collections] at entry
    rcases booked.booked voucher entry present with ⟨came, described⟩
    simp only [incoming]
    exact ⟨came, metadata described⟩

/-- A collection was registered that had no class.  If it is one of vouchers, there are none
yet. -/
theorem register (booked : Booked vouchers world) {storage : Storage} {classId : ClassId}
    {contract : Addr} (fresh : world.storage.nftContractToClassId contract = none)
    (there : contracts.isContract world.contracts contract = true)
    (empty : classId.IsVoucher → vouchers.isVoucher world.contracts contract ∧
      ∀ tokenId, ¬ vouchers.has world.contracts contract tokenId)
    (code : storage.cw721CodeId = world.storage.cw721CodeId)
    (classes : storage.nftContractToClassId =
      world.storage.nftContractToClassId.save contract classId)
    (collections : storage.classIdToNftContract =
      world.storage.classIdToNftContract.save classId contract)
    (incoming : storage.incomingClassTokenToChannel = world.storage.incomingClassTokenToChannel)
    (metadata : storage.tokenMetadata = world.storage.tokenMetadata) :
    Booked vouchers { world with storage := storage } ∧ BooksGrow world.storage storage := by
  have other : ∀ {known}, known ∈ world.storage.nftContractToClassId contract → False := by
    intro known entry
    rw [fresh] at entry
    cases entry
  refine ⟨⟨code.trans booked.code, ?_, ?_, ?_, ?_⟩, ?_, ?_⟩
  · intro query found entry
    simp only [classes, StoreMap.save_apply] at entry
    split at entry
    next same =>
      rw [same]
      exact there
    next => exact booked.known entry
  · intro query found voucher entry
    simp only [classes, collections, StoreMap.save_apply] at entry ⊢
    split at entry
    next same =>
      cases entry
      subst same
      simp only [if_true, true_and]
      exact (empty voucher).1
    next different =>
      rcases booked.registered voucher entry with ⟨class_, isVoucher⟩
      rw [if_neg]
      · exact ⟨class_, isVoucher⟩
      · intro same
        rw [same] at class_
        exact other class_
  · intro query tokenId channelId entry
    simp only [incoming] at entry
    exact booked.names entry
  · intro query found tokenId voucher entry present
    simp only [collections, StoreMap.save_apply] at entry
    simp only [incoming, metadata]
    split at entry
    next same =>
      cases entry
      rw [same] at voucher
      exact absurd present ((empty voucher).2 tokenId)
    next => exact booked.booked voucher entry present
  · intro query found entry
    rw [classes, StoreMap.save_apply, if_neg]
    · exact entry
    · intro same
      rw [same] at entry
      exact other entry
  · intro key described
    rw [metadata]
    exact described

/-- An NFT is sent to the bridge. -/
theorem receiveNft (lawful : Lawful chain contracts codeId) (booked : Booked vouchers world)
    {record : SendRecord} {storage : Storage} {response : Response}
    (received : Ics721.receiveNft chain.api (contracts.querier world.contracts) world.storage
      record.contract record.tokenId record.sender record.msg = .ok (storage, response)) :
    Booked vouchers { world with storage := storage } ∧ BooksGrow world.storage storage := by
  simp only [Ics721.receiveNft, bind_eq_ok, mapError_eq_ok, pure_eq_ok,
    Prod.mk.injEq] at received
  rcases received with ⟨sender, -, outgoing, -, ⟨registered, cls⟩, selected, uri, queried, rfl, -⟩
  have there := lawful.nftInfo_contract queried
  unfold classForContract at selected
  split at selected
  next =>
    simp only [bind_eq_ok, pure_eq_ok, Prod.mk.injEq] at selected
    rcases selected with ⟨_, -, rfl, -⟩
    exact ⟨booked.withMetadata rfl rfl rfl rfl id, ⟨id, id⟩⟩
  next unregistered =>
    simp only [Except.ok.injEq, Prod.mk.injEq] at selected
    rcases selected with ⟨rfl, -⟩
    refine booked.register unregistered there ?_ rfl rfl rfl rfl rfl
    intro voucher
    exact absurd voucher (chain.api.valid_no_slash _ (lawful.contract_valid there))

end Booked

theorem receiveNft_books {api : Api} {querier : Querier} {storage after : Storage} {info : Addr}
    {tokenId : TokenId} {sender : String} {msg : Binary} {response : Response}
    (received : receiveNft api querier storage info tokenId sender msg = .ok (after, response)) :
    after.incomingClassTokenToChannel = storage.incomingClassTokenToChannel := by
  simp only [receiveNft, bind_eq_ok, mapError_eq_ok, pure_eq_ok, Prod.mk.injEq] at received
  rcases received with ⟨_, -, _, -, ⟨registered, cls⟩, selected, _, -, rfl, -⟩
  unfold classForContract at selected
  split at selected
  next =>
    simp only [bind_eq_ok, pure_eq_ok, Prod.mk.injEq] at selected
    rcases selected with ⟨_, -, rfl, -⟩
    rfl
  next =>
    simp only [Except.ok.injEq, Prod.mk.injEq] at selected
    rcases selected with ⟨rfl, -⟩
    rfl

/-! ## Callbacks and replies -/

variable {vouchers : VoucherContracts chain contracts codeId} {world : World σ}
variable {incoming : StoreMap (ClassId × TokenId) String}

/-- The bridge keeps its books when it calls itself with what `built` permits. -/
def KeepsBooks (vouchers : VoucherContracts chain contracts codeId)
    (incoming : StoreMap (ClassId × TokenId) String) (built : CallbackMsg → Prop) : Prop :=
  ∀ world callback storage response, Booked vouchers world →
    world.storage.incomingClassTokenToChannel = incoming → built callback →
    executeCallback chain.api chain.bridge world.storage chain.bridge callback =
      .ok (storage, response) →
    Booked vouchers { world with storage := storage } ∧
      storage.incomingClassTokenToChannel = incoming ∧ BooksGrow world.storage storage ∧
      ∀ sub ∈ response.messages, BooksOwn chain.bridge codeId incoming built storage sub

theorem keepsBooks_never : KeepsBooks vouchers incoming Never :=
  fun _ _ _ _ _ _ never => False.elim never

/-- What is to be created came in. -/
def Stocked (incoming : StoreMap (ClassId × TokenId) String) (aggregator : ActionAggregator) :
    Prop :=
  ∀ create, aggregator.creation = some create →
    create.cls.id.IsVoucher ∧ ∀ token ∈ create.tokens, incoming (create.cls.id, token.id) ≠ none

theorem foldl_metadata {classId : ClassId} (tokens : List Token)
    (metadata : StoreMap (ClassId × TokenId) (Option Binary)) :
    (∀ {key}, metadata key ≠ none →
      tokens.foldl (fun metadata token => metadata.save (classId, token.id) token.data)
        metadata key ≠ none) ∧
    ∀ token ∈ tokens, tokens.foldl
      (fun metadata token => metadata.save (classId, token.id) token.data) metadata
        (classId, token.id) ≠ none := by
  induction tokens generalizing metadata with
  | nil => simp
  | cons token tokens ih =>
      rcases ih (metadata.save (classId, token.id) token.data) with ⟨kept, saved⟩
      constructor
      · intro key present
        apply kept
        rw [StoreMap.save_apply]
        split
        next => simp
        next => exact present
      · intro other member
        rcases List.mem_cons.mp member with rfl | later
        · exact kept (by simp)
        · exact saved other later

/-- The callbacks of a received packet. -/
theorem keepsBooks_built {aggregator : ActionAggregator} {receiver : Addr}
    (stocked : Stocked incoming aggregator) :
    KeepsBooks vouchers incoming (Built chain.bridge receiver aggregator) := by
  intro world callback storage response booked same permitted executed
  simp only [executeCallback, ne_eq, not_true_eq_false, if_false] at executed
  cases permitted with
  | redeem present =>
      simp only [callbackRedeemVouchers, bind_eq_ok, mapError_eq_ok, pure_eq_ok,
        Prod.mk.injEq] at executed
      rcases executed with ⟨contract, -, owner, -, rfl, rfl⟩
      refine ⟨booked, same, ⟨id, id⟩, ?_⟩
      intro sub member
      simp only [List.map_map, List.mem_map, Function.comp_apply] at member
      rcases member with ⟨tokenId, -, rfl⟩
      exact .quiet (by simp)
  | @create creation present =>
      simp only [callbackCreateVouchers, Except.ok.injEq, Prod.mk.injEq] at executed
      rcases executed with ⟨rfl, rfl⟩
      refine ⟨booked.withMetadata rfl rfl rfl rfl id, same, ⟨id, id⟩, ?_⟩
      intro sub member
      simp only [List.mem_append, List.mem_singleton] at member
      rcases member with instantiation | rfl
      · split at instantiation
        next => cases instantiation
        next =>
          rw [List.mem_singleton.mp instantiation, booked.code]
          exact .collection _ _ _
      · exact .callback (.mint present)
  | @mint creation present =>
      rcases stocked creation present with ⟨voucher, came⟩
      simp only [callbackMint, bind_eq_ok, mapError_eq_ok, pure_eq_ok,
        Prod.mk.injEq] at executed
      rcases executed with ⟨owner, -, contract, loaded, rfl, rfl⟩
      rcases @foldl_metadata creation.cls.id creation.tokens world.storage.tokenMetadata with
        ⟨kept, saved⟩
      have entry := Storage.loadNftContract_eq_ok.mp loaded
      refine ⟨booked.withMetadata rfl rfl rfl rfl kept, same, ⟨id, kept⟩, ?_⟩
      intro sub member
      simp only [List.map_map, List.mem_map, Function.comp_apply] at member
      rcases member with ⟨token, listed, rfl⟩
      exact .mint (booked.registered voucher entry).1 (came token listed) (saved token listed)
  | conjunction =>
      simp only [Except.ok.injEq, Prod.mk.injEq] at executed
      rcases executed with ⟨rfl, rfl⟩
      refine ⟨booked, same, ⟨id, id⟩, ?_⟩
      intro sub member
      rcases List.mem_map.mp member with ⟨msg, operand, rfl⟩
      rcases Own.of_operand operand with ⟨called, rfl, allowed⟩
      exact .callback allowed

/-- A collection that the bridge has instantiated is registered in the reply. -/
theorem Booked.replyInstantiateCw721 (lawful : Lawful chain contracts codeId)
    (booked : Booked vouchers world) {name symbol : String} {contract : Addr}
    {outcome : Reaction σ CosmosMsg ReplyData} {storage : Storage} {response : Response}
    (instantiated : contracts.instantiate world.storage world.contracts chain.bridge codeId
      (.cw721 ⟨name, symbol, chain.bridge.addr⟩) = .ok (contract, outcome))
    (later : Booked vouchers { world with contracts := outcome.world })
    (replied : Ics721.replyInstantiateCw721 chain.api (contracts.querier outcome.world)
      world.storage ⟨instantiateCw721ReplyId, .ok (some (.instantiated contract.addr))⟩ =
        .ok (storage, response)) :
    Booked vouchers { world with storage := storage, contracts := outcome.world } ∧
      BooksGrow world.storage storage ∧
      storage.incomingClassTokenToChannel = world.storage.incomingClassTokenToChannel := by
  rcases lawful.instantiate_fresh instantiated with ⟨fresh, there, -⟩
  have unregistered : world.storage.nftContractToClassId contract = none := by
    cases entry : world.storage.nftContractToClassId contract with
    | none => rfl
    | some classId =>
        rw [booked.known entry] at fresh
        cases fresh
  simp only [Ics721.replyInstantiateCw721, parseReplyInstantiateData, mapError_ok, ok_bind,
    bind_eq_ok, mapError_eq_ok, Api.addrValidate_eq_ok, pure_eq_ok, Prod.mk.injEq] at replied
  rcases replied with ⟨_, ⟨-, rfl⟩, found, queried, rfl, -⟩
  rw [← and_assoc]
  refine ⟨?_, rfl⟩
  exact later.register unregistered there (fun _ => vouchers.collection instantiated)
    rfl rfl rfl rfl rfl

/-- The books are kept in the course of every transaction.  What has come in is `incoming`
throughout. -/
def bookRules (lawful : Lawful chain contracts codeId)
    (vouchers : VoucherContracts chain contracts codeId)
    (incoming : StoreMap (ClassId × TokenId) String) {built : CallbackMsg → Prop}
    (keeps : KeepsBooks vouchers incoming built) : BridgeRules chain contracts where
  holds world := Booked vouchers world ∧ world.storage.incomingClassTokenToChannel = incoming
  grows before after := BooksGrow before.storage after.storage
  own world := BooksOwn chain.bridge codeId incoming built world.storage
  refl _ := ⟨id, id⟩
  trans left right := ⟨right.classes ∘ left.classes, right.metadata ∘ left.metadata⟩
  own_kept own grows := own.grow grows
  called := by
    intro world caller contract msg sub outcome holds own content different ran
    rcases holds with ⟨booked, same⟩
    refine ⟨⟨booked.withContracts (lawful.execute_kept ran) (vouchers.execute_kept ran) ?_, same⟩,
      id, id⟩
    intro other tokenId classId isVoucher class_ present
    rcases vouchers.minted ran isVoucher present with before |
      ⟨rfl, self, owner, uri, rfl⟩
    · exact .inl before
    · have emitted := own self
      generalize sub = emitted_ at emitted content
      cases emitted with
      | quiet mintless =>
          cases content
          exact absurd rfl (mintless _ _ _)
      | mint known came described =>
          cases content
          rw [class_] at known
          cases known
          rw [same]
          exact .inr ⟨came, described⟩
      | callback => cases content
      | acked => cases content
      | collection => cases content
      | proxy => cases content
      | packet => cases content
  instantiated := by
    intro world caller contract admin code msg label sub outcome holds _ _ ran
    rcases holds with ⟨booked, same⟩
    refine ⟨⟨booked.withContracts (lawful.instantiate_kept ran) (vouchers.instantiate_kept ran) ?_,
      same⟩, id, id⟩
    intro other tokenId classId isVoucher _ present
    exact .inl (vouchers.instantiate_has ran isVoucher present)
  answered := by
    intro world caller id_ result outcome holds _ ran
    rcases holds with ⟨booked, same⟩
    refine ⟨⟨booked.withContracts (lawful.reply_kept ran) (vouchers.reply_kept ran) ?_, same⟩,
      id, id⟩
    intro other tokenId classId isVoucher _ present
    exact .inl (vouchers.reply_has ran isVoucher present)
  sent := by
    intro world caller msg record storage response holds _ _ _ received
    rcases holds with ⟨booked, same⟩
    rcases booked.receiveNft lawful received with ⟨kept, grown⟩
    have untouched := (receiveNft_books received).trans same
    refine ⟨⟨kept.congr rfl rfl, untouched⟩, grown, ?_⟩
    rcases receiveNft_messages received with ⟨channelId, data, timeout, messages⟩
    intro sub member
    rw [messages, List.mem_singleton] at member
    rw [member]
    exact .packet _ _ _
  packet := by
    intro world after sub channelId data timeout holds _ _ accepted
    unfold Chain.sendPacket at accepted
    split at accepted
    next => cases accepted
    next =>
      cases accepted
      exact ⟨⟨holds.1.congr rfl rfl, holds.2⟩, id, id⟩
  paused := by
    intro world caller storage holds _ paused
    simp only [Storage.pause, bind_eq_ok, ite_error_eq_ok, pure_eq_ok] at paused
    rcases paused with ⟨-, -, -, rfl⟩
    exact ⟨⟨holds.1.withMetadata rfl rfl rfl rfl id, holds.2⟩, id, id⟩
  callback := by
    intro world sub callback storage response holds _ own content executed
    rcases keeps world callback storage response holds.1 holds.2 (own.of_callback content)
      executed with ⟨booked, same, grown, emitted⟩
    exact ⟨⟨booked, same⟩, grown, emitted⟩
  replied := by
    intro world after sub data storage response holds own later _ answers called replied
    rcases holds with ⟨booked, same⟩
    rcases later with ⟨kept, still⟩
    have silent := reply_messages replied
    cases own with
    | quiet => cases called
    | mint => cases called
    | callback => cases called
    | packet => cases called
    | acked =>
        rw [reply_ackSuccess] at replied
        cases replied
        exact ⟨⟨kept, still⟩, ⟨id, id⟩, by simp⟩
    | proxy =>
        rw [reply_instantiateProxy] at replied
        simp only [replyInstantiateProxy, bind_eq_ok, pure_eq_ok, Prod.mk.injEq] at replied
        rcases replied with ⟨_, -, _, -, rfl, -⟩
        exact ⟨⟨kept.withMetadata rfl rfl rfl rfl id, still⟩, ⟨id, id⟩, by simp [silent]⟩
    | collection name symbol label =>
        rcases answers _ _ _ _ rfl with ⟨contract, outcome, instantiated, at_once⟩
        rcases at_once (lawful.instantiate_cw721 instantiated).1 with ⟨rfl, rfl⟩
        rw [reply_instantiateCw721] at replied
        rcases booked.replyInstantiateCw721 lawful instantiated kept replied with
          ⟨registered, grown, untouched⟩
        exact ⟨⟨registered, untouched.trans same⟩, grown, by simp [silent]⟩
  caught := by
    intro world sub error storage response own holds called replied
    cases own with
    | quiet => cases called
    | mint => cases called
    | callback => cases called
    | packet => cases called
    | proxy => cases called
    | collection => cases called
    | acked =>
        rw [reply_ackFail] at replied
        cases replied
        exact ⟨holds, ⟨id, id⟩, by simp⟩

/-! ## Steps -/

theorem namesChannel_voucherClassId {dest : IbcEndpoint} {classId : ClassId}
    (port : dest.portId = chain.portId) (nonempty : classId.id ≠ "") :
    (voucherClassId dest classId).NamesChannel chain.portId dest.channelId := by
  refine ⟨classId.id, nonempty, ?_⟩
  rw [← port]
  rfl

/-- The fold over the tokens of a packet adds to the books. -/
theorem Booked.noted (booked : Booked vouchers world) {packet : IbcPacket}
    {data : NonFungibleTokenPacketData} (port : packet.dest.portId = chain.portId)
    (channel : '/' ∉ packet.dest.channelId.toList) (nonempty : data.classId.id ≠ "") :
    Booked vouchers { world with storage := (selectActions packet data world.storage).1 } := by
  have folded := sameButTransit_selectFrom packet.dest data.classId
    (tryPopSourcePrefix packet.src data.classId.id) world.storage data.incoming
  have incoming := incoming_selectFrom packet.dest data.classId
    (tryPopSourcePrefix packet.src data.classId.id) world.storage data.incoming
  rw [← selectActions_eq] at folded incoming
  constructor
  · exact folded.code.trans booked.code
  · simp only [folded.classes]
    exact booked.known
  · simp only [folded.classes, folded.contracts]
    exact booked.registered
  · intro classId tokenId channelId entry
    rcases incoming (classId, tokenId) with same | ⟨voucher, noted⟩
    · exact booked.names (same.symm.trans entry)
    · have value := noted.symm.trans entry
      cases value
      simp only at voucher
      rw [voucher]
      exact ⟨channel, namesChannel_voucherClassId port nonempty⟩
  · intro classId contract tokenId voucher entry present
    simp only [folded.contracts] at entry
    rcases booked.booked voucher entry present with ⟨came, described⟩
    refine ⟨?_, ?_⟩
    · rcases incoming (classId, tokenId) with same | ⟨-, noted⟩
      · rw [same]
        exact came
      · rw [noted]
        simp
    · simp only [folded.metadata]
      exact described

/-- What is to be created is in the books. -/
theorem stocked_selectActions (packet : IbcPacket) (data : NonFungibleTokenPacketData)
    (storage : Storage) :
    Stocked (selectActions packet data storage).1.incomingClassTokenToChannel
      (data.aggregate (selectActions packet data storage).2) := by
  intro create present
  rw [data.aggregate_creation (uniform_selectActions packet data storage)] at present
  split at present
  next => cases present
  next =>
    cases present
    refine ⟨slash_mem_voucherClassId packet.dest data.classId, ?_⟩
    intro token created
    rw [selectActions_eq] at created ⊢
    rw [incoming_selectFrom_created created]
    simp

theorem Booked.receive (lawful : Lawful chain contracts codeId) (booked : Booked vouchers world)
    {packet : IbcPacket} {ack : Binary} {after : World σ}
    (port : packet.dest.portId = chain.portId) (channel : '/' ∉ packet.dest.channelId.toList)
    (done : chain.receiveTx contracts world packet = .ok (after, ack)) :
    Booked vouchers after := by
  cases checked : checkIbcPacket chain.api world.storage packet with
  | error error =>
      rw [Chain.receiveTx_eq, checked] at done
      cases done
      exact booked
  | ok outcome =>
      rcases outcome with ⟨data, receiver⟩
      have valid := (checkIbcPacket_eq_ok.mp checked).2.2.1
      have nonempty := (NonFungibleTokenPacketData.validate_eq_ok.mp valid).1
      have stocked := stocked_selectActions packet data world.storage
      have start := @Booked.noted _ _ _ _ _ _ booked packet data port channel nonempty
      rw [Chain.receiveTx_eq, checked] at done
      simp only at done
      split at done
      next reached reply delivered =>
        simp only [Except.ok.injEq, Prod.mk.injEq] at done
        rcases done with ⟨rfl, -⟩
        rcases Own.of_message (data.aggregate (selectActions packet data world.storage).2)
          chain.bridge receiver with ⟨callback, message, permitted⟩
        have ran : chain.runMessages contracts
            { world with storage := (selectActions packet data world.storage).1 }
            [(chain.packetMessage world.storage packet data receiver).sub] none =
              .ok (reached, none) := by
          simp only [Chain.runMessages, Machine.dispatch_succ_cons, Machine.dispatch_nil,
            Chain.deliver_iff.mp ⟨reply, delivered⟩, ok_bind]
        have own : ∀ sub ∈ [(chain.packetMessage world.storage packet data receiver).sub],
            BooksOwn chain.bridge codeId
              (selectActions packet data world.storage).1.incomingClassTokenToChannel
              (Built chain.bridge receiver
                (data.aggregate (selectActions packet data world.storage).2))
              (selectActions packet data world.storage).1 sub := by
          intro sub member
          rw [List.mem_singleton.mp member, Chain.packetMessage, message]
          exact .callback permitted
        have kept : Booked vouchers reached ∧ _ :=
          ((bookRules lawful vouchers _ (keepsBooks_built stocked)).runMessages lawful
            ⟨start, rfl⟩ own ran).1
        exact kept.1
      next err failed =>
        simp only [Except.ok.injEq, Prod.mk.injEq] at done
        rcases done with ⟨rfl, -⟩
        exact start

/-- The books are kept when something is run that is not minting. -/
theorem Booked.runMessages (lawful : Lawful chain contracts codeId)
    (booked : Booked vouchers world) {messages : List (SubMsg CosmosMsg)}
    {data : Option ReplyData} {result : World σ × Option ReplyData}
    (own : ∀ sub ∈ messages, BooksOwn chain.bridge codeId
      world.storage.incomingClassTokenToChannel Never world.storage sub)
    (ran : chain.runMessages contracts world messages data = .ok result) :
    Booked vouchers result.1 := by
  have kept : Booked vouchers result.1 ∧ _ :=
    ((bookRules lawful vouchers _ keepsBooks_never).runMessages lawful ⟨booked, rfl⟩ own ran).1
  exact kept.1

theorem Booked.executeTx (lawful : Lawful chain contracts codeId) (booked : Booked vouchers world)
    {sender : Addr} {msg : WasmMsg} {after : World σ} (account : sender ≠ chain.bridge)
    (done : chain.executeTx contracts world sender msg = .ok after) : Booked vouchers after := by
  have kept : Booked vouchers after ∧ _ :=
    ((bookRules lawful vouchers _ keepsBooks_never).executeTx lawful account ⟨booked, rfl⟩
      done).1
  exact kept.1

/-- A packet that failed is refunded. -/
theorem Booked.fail (lawful : Lawful chain contracts codeId) (booked : Booked vouchers world)
    {packet : IbcPacket} {error : String} {after : World σ}
    (done : chain.settleTx contracts world packet
      (fun storage packet => handlePacketFail chain.api storage packet error) = .ok after) :
    Booked vouchers after := by
  rcases dispatched_of_settleTx done with ⟨storage, response, result, -, handled, ran, rfl⟩
  simp only [handlePacketFail, bind_eq_ok, mapError_eq_ok, pure_eq_ok, Prod.mk.injEq] at handled
  rcases handled with ⟨message, -, contract, -, sender, -, rfl, rfl⟩
  refine Booked.runMessages lawful ?_ ?_ ran
  · exact ⟨booked.code, booked.known, booked.registered, booked.names, booked.booked⟩
  · intro sub member
    simp only [List.map_map, List.mem_map, Function.comp_apply] at member
    rcases member with ⟨tokenId, -, rfl⟩
    exact .quiet (by simp)

/-- When a packet of the bridge arrived at where its token came from, the bridge burns the
token. -/
theorem Emitted.burns {storage : Storage} {packet : IbcPacket} {record : SendRecord}
    {data : NonFungibleTokenPacketData} (emitted : Emitted chain storage packet record data)
    (came : storage.incomingClassTokenToChannel (data.classId, record.tokenId) =
      some packet.src.channelId) :
    ∃ attributes, Ics721.handlePacketSuccess chain.api storage packet =
      .ok ({ storage with
          incomingClassTokenToChannel := storage.incomingClassTokenToChannel.remove
            (data.classId, record.tokenId)
          tokenMetadata := storage.tokenMetadata.remove (data.classId, record.tokenId) },
        { messages := [(WasmMsg.execute record.contract (.cw721 (.burn record.tokenId))).sub]
          attributes := attributes }) := by
  have loaded := Storage.loadNftContract_eq_ok.mpr emitted.registered
  simp only [Ics721.handlePacketSuccess, emitted.decoded, loaded, mapError_ok, ok_bind, pure,
    Except.pure, emitted.tokens, List.foldl_cons, List.foldl_nil, burnNotice_returning came]
  exact ⟨_, rfl⟩

/-- When it arrived elsewhere, the bridge does nothing. -/
theorem Emitted.keeps {storage : Storage} {packet : IbcPacket} {record : SendRecord}
    {data : NonFungibleTokenPacketData} (emitted : Emitted chain storage packet record data)
    (stays : storage.incomingClassTokenToChannel (data.classId, record.tokenId) ≠
      some packet.src.channelId) :
    ∃ attributes, Ics721.handlePacketSuccess chain.api storage packet =
      .ok (storage, { attributes := attributes }) := by
  have loaded := Storage.loadNftContract_eq_ok.mpr emitted.registered
  simp only [Ics721.handlePacketSuccess, emitted.decoded, loaded, mapError_ok, ok_bind, pure,
    Except.pure, emitted.tokens, List.foldl_cons, List.foldl_nil, burnNotice_staying stays]
  exact ⟨_, rfl⟩

/-- A voucher was burned, and with it go its entries in the books. -/
theorem Booked.burned (lawful : Lawful chain contracts codeId) (booked : Booked vouchers world)
    {classId : ClassId} {contract : Addr} {tokenId : TokenId} {channelId : String}
    {outcome : Reaction σ CosmosMsg ReplyData} {storage : Storage} {commitments : List IbcPacket}
    (entry : world.storage.classIdToNftContract classId = some contract)
    (came : world.storage.incomingClassTokenToChannel (classId, tokenId) = some channelId)
    (executed : contracts.execute storage world.contracts chain.bridge contract
      (.cw721 (.burn tokenId)) = .ok outcome) :
    Booked vouchers { world with
      storage := { world.storage with
        incomingClassTokenToChannel := world.storage.incomingClassTokenToChannel.remove
          (classId, tokenId)
        tokenMetadata := world.storage.tokenMetadata.remove (classId, tokenId) }
      contracts := outcome.world
      commitments := commitments } := by
  have voucher : classId.IsVoucher := by
    rcases (booked.names came).2 with ⟨rest, -, text⟩
    rw [ClassId.IsVoucher, text, toList_getEndpointPrefix_append]
    simp
  constructor
  · exact booked.code
  · exact fun known => lawful.execute_kept executed (booked.known known)
  · intro query found isVoucher registered
    rcases booked.registered isVoucher registered with ⟨class_, collection⟩
    exact ⟨class_, vouchers.execute_kept executed collection⟩
  · intro query token channel noted
    exact booked.names (StoreMap.of_remove noted)
  · intro query found token isVoucher registered present
    have collection := (booked.registered isVoucher registered).2
    rcases vouchers.minted executed collection present with before | ⟨-, -, _, _, mints⟩
    · have other : (query, token) ≠ (classId, tokenId) := by
        intro same
        rw [Prod.mk.injEq] at same
        rcases same with ⟨rfl, rfl⟩
        simp only at registered
        rw [entry] at registered
        cases registered
        exact vouchers.burned collection executed present
      rcases booked.booked isVoucher registered before with ⟨cameIn, described⟩
      simp only
      rw [StoreMap.remove_of_ne other, StoreMap.remove_of_ne other]
      exact ⟨cameIn, described⟩
    · cases mints

/-- The bridge calls a collection. -/
theorem runOne_cw721 {depth : Nat} {contract : Addr} {msg : Cw721ExecuteMsg}
    {data : Option ReplyData} {result : World σ × Option ReplyData}
    (ran : (chain.machine contracts).runOne ((chain.machine contracts).dispatch depth)
      chain.bridge (world, data) (WasmMsg.execute contract (.cw721 msg)).sub = .ok result) :
    ∃ outcome inner, contract ≠ chain.bridge ∧
      contracts.execute world.storage world.contracts chain.bridge contract (.cw721 msg) =
        .ok outcome ∧
      (chain.machine contracts).dispatch depth
        { world with contracts := outcome.world } contract outcome.messages outcome.data =
          .ok inner ∧
      result = (inner.1, data) := by
  rw [Machine.runOne_never rfl] at ran
  simp only [bind_eq_ok, pure_eq_ok] at ran
  rcases ran with ⟨⟨callee, reaction⟩, executed, inner, rest, rfl⟩
  have called : chain.executeMsg contracts world chain.bridge
      (.wasm (.execute contract (.cw721 msg))) = .ok (callee, reaction) := executed
  have kind := executed_of_executeMsg called
  generalize content : CosmosMsg.wasm (.execute contract (.cw721 msg)) = call at kind
  cases kind with
  | called different ran =>
      cases content
      exact ⟨_, inner, different, ran, rest, rfl⟩
  | instantiated => cases content
  | sent => cases content
  | paused => cases content
  | callback => cases content
  | packet => cases content
  | foreign => cases content

theorem runMessages_cw721 {contract : Addr} {msg : Cw721ExecuteMsg} {data : Option ReplyData}
    {result : World σ × Option ReplyData}
    (ran : chain.runMessages contracts world [(WasmMsg.execute contract (.cw721 msg)).sub] data =
      .ok result) :
    ∃ outcome inner, contract ≠ chain.bridge ∧
      contracts.execute world.storage world.contracts chain.bridge contract (.cw721 msg) =
        .ok outcome ∧
      (chain.machine contracts).dispatch chain.depth
        { world with contracts := outcome.world } contract outcome.messages outcome.data =
          .ok inner ∧
      result.1 = inner.1 := by
  simp only [Chain.runMessages, Machine.dispatch_succ_cons, Machine.dispatch_nil, bind_eq_ok,
    Except.ok.injEq] at ran
  rcases ran with ⟨final, first, rfl⟩
  rcases runOne_cw721 first with ⟨outcome, inner, different, executed, rest, rfl⟩
  exact ⟨outcome, inner, different, executed, rest, rfl⟩

/-- A packet that arrived is settled. -/
theorem Booked.succeed (lawful : Lawful chain contracts codeId) (booked : Booked vouchers world)
    (sound : Sound chain contracts codeId world) {packet : IbcPacket} {after : World σ}
    (done : chain.settleTx contracts world packet (handlePacketSuccess chain.api) = .ok after) :
    Booked vouchers after := by
  rcases dispatched_of_settleTx done with ⟨storage, response, result, pending, handled, ran, rfl⟩
  rcases sound.emitted lawful pending [] with ⟨record, data, -, emitted⟩
  simp only [List.foldl_nil] at emitted
  by_cases came : world.storage.incomingClassTokenToChannel (data.classId, record.tokenId) =
      some packet.src.channelId
  · rcases emitted.burns came with ⟨attributes, burns⟩
    rw [handled] at burns
    simp only [Except.ok.injEq, Prod.mk.injEq] at burns
    rcases burns with ⟨rfl, rfl⟩
    rcases runMessages_cw721 ran with ⟨outcome, inner, different, executed, rest, reached⟩
    have start := @Booked.burned _ _ _ _ _ _ lawful booked _ _ _ _ _ _
      (world.commitments.erase packet) emitted.registered came executed
    have kept : Booked vouchers inner.1 ∧ _ :=
      (((bookRules lawful vouchers _ keepsBooks_never).toRules lawful).dispatch
        ⟨⟨start, rfl⟩, fun self => absurd self different⟩ rest).1
    rw [reached]
    exact kept.1
  · rcases emitted.keeps came with ⟨attributes, keeps⟩
    rw [handled] at keeps
    simp only [Except.ok.injEq, Prod.mk.injEq] at keeps
    rcases keeps with ⟨rfl, rfl⟩
    refine Booked.runMessages lawful ?_ ?_ ran
    · exact booked.congr rfl rfl
    · simp

/-! ## Runs -/

/-- IBC core delivers packets on channels whose identifiers have no slash. -/
def ProperLabel (label : Chain.Label) : Prop :=
  ∀ packet, label = .receive packet → '/' ∉ packet.dest.channelId.toList

theorem Booked.step (lawful : Lawful chain contracts codeId) (booked : Booked vouchers world)
    (sound : Sound chain contracts codeId world) {label : Chain.Label}
    (proper : ProperLabel label) : Booked vouchers (chain.step contracts world label) := by
  have done := transacted chain contracts world label
  generalize chain.step contracts world label = after at done
  cases done with
  | stayed => exact booked
  | executed account done => exact booked.executeTx lawful account done
  | received port done => exact booked.receive lawful port (proper _ rfl) done
  | refused _ done => exact booked.fail lawful done
  | accepted _ done => exact booked.succeed lawful sound done
  | timedOut done => exact booked.fail lawful done
  | @migrated msg _ done =>
      cases msg with
      | withUpdate pauser proxy =>
          simp only [Chain.migrateTx, migrate, Storage.setPauser, bind_eq_ok, mapError_eq_ok,
            pure_eq_ok] at done
          rcases done with ⟨_, ⟨_, -, _, ⟨_, -, rfl⟩, rfl⟩, rfl⟩
          exact booked.withMetadata rfl rfl rfl rfl id

theorem Booked.instantiateTx (lawful : Lawful chain contracts codeId) {msg : InstantiateMsg}
    {state : σ} (code : msg.cw721BaseCodeId = codeId)
    (instantiated : chain.instantiateTx contracts msg state = .ok world) :
    Booked vouchers world := by
  simp only [Chain.instantiateTx, instantiate, Storage.setPauser, bind_eq_ok, mapError_eq_ok,
    pure_eq_ok] at instantiated
  rcases instantiated with ⟨⟨storage, response⟩, ⟨_, ⟨pauser, -, rfl⟩, rfl, rfl⟩, result, ran,
    rfl⟩
  refine Booked.runMessages lawful ?_ ?_ ran
  · exact ⟨code, by simp, by simp, by simp, by simp⟩
  · intro sub member
    simp only [Option.mem_toList, Option.map_eq_some_iff] at member
    rcases member with ⟨proxy, -, rfl⟩
    exact .proxy _ _ _ _

/-- A class ID names one channel. -/
theorem ClassId.NamesChannel.unique {portId channelId other : String} {classId : ClassId}
    (names : classId.NamesChannel portId channelId) (namesOther : classId.NamesChannel portId other)
    (slashless : '/' ∉ channelId.toList) (otherSlashless : '/' ∉ other.toList) :
    channelId = other := by
  rcases names with ⟨rest, -, text⟩
  rcases namesOther with ⟨more, -, same⟩
  have lists := congrArg String.toList (text.symm.trans same)
  rw [toList_getEndpointPrefix_append, toList_getEndpointPrefix_append] at lists
  have tails := List.append_cancel_left lists
  simp only [List.cons.injEq, true_and] at tails
  exact String.toList_inj.mp (append_cons_inj slashless otherSlashless tails).1

/-- The token is a voucher that exists. -/
structure IsVoucherOf (vouchers : VoucherContracts chain contracts codeId) (world : World σ)
    (classId : ClassId) (contract : Addr) (tokenId : TokenId) : Prop where
  voucher : classId.IsVoucher
  registered : world.storage.classIdToNftContract classId = some contract
  present : vouchers.has world.contracts contract tokenId

/-- The settlement of a packet that arrived burns a voucher if and only if the packet was sent
over the channel that the class of the voucher names. -/
theorem Booked.burns_iff (booked : Booked vouchers world) {packet : IbcPacket}
    {record : SendRecord} {data : NonFungibleTokenPacketData} {contract : Addr}
    (emitted : Emitted chain world.storage packet record data)
    (voucher : IsVoucherOf vouchers world data.classId contract record.tokenId)
    (channel : '/' ∉ packet.src.channelId.toList) :
    ∃ storage response, handlePacketSuccess chain.api world.storage packet =
        .ok (storage, response) ∧
      ((WasmMsg.execute contract (.cw721 (.burn record.tokenId))).sub ∈ response.messages ↔
        data.classId.NamesChannel chain.portId packet.src.channelId) := by
  have same : record.contract = contract := by
    have entry := emitted.registered
    rw [voucher.registered] at entry
    cases entry
    rfl
  subst same
  have entry := (booked.booked voucher.voucher voucher.registered voucher.present).1
  rcases Option.ne_none_iff_exists'.mp entry with ⟨channelId, came⟩
  rcases booked.names came with ⟨slashless, names⟩
  by_cases returning : channelId = packet.src.channelId
  · subst returning
    rcases emitted.burns came with ⟨attributes, burns⟩
    exact ⟨_, _, burns, by simp [names]⟩
  · have stays : world.storage.incomingClassTokenToChannel (data.classId, record.tokenId) ≠
        some packet.src.channelId := by
      rw [came]
      simpa using returning
    rcases emitted.keeps stays with ⟨attributes, keeps⟩
    refine ⟨_, _, keeps, ?_⟩
    simp only [List.not_mem_nil, false_iff]
    intro namesOther
    exact returning (names.unique namesOther slashless channel)

end Rules

/-- In every reachable state, among whatever contracts and with whatever at the other ends of
the channels: an entry for what came in is under a class with the prefix of its channel; every
voucher that exists has such an entry, and one for its metadata; and when a packet with a voucher
that still exists arrived, the voucher is burned if and only if the packet was sent over the
channel in its class ID. -/
theorem vouchers_booked_of_run {chain : Chain} {contracts : Contracts σ} {msg : InstantiateMsg}
    (lawful : Lawful chain contracts msg.cw721BaseCodeId)
    (vouchers : VoucherContracts chain contracts msg.cw721BaseCodeId)
    (identifiers : ∀ channelId, chain.counterparty channelId ≠ none → '/' ∉ channelId.toList)
    {state : σ} {genesis : World σ}
    (instantiated : chain.instantiateTx contracts msg state = .ok genesis)
    (labels : List Chain.Label) (proper : ∀ label ∈ labels, ProperLabel label) {world : World σ}
    (reached : labels.foldl (chain.step contracts) genesis = world) :
    (∀ classId tokenId channelId,
      world.storage.incomingClassTokenToChannel (classId, tokenId) = some channelId →
      classId.NamesChannel chain.portId channelId) ∧
    (∀ classId contract tokenId, IsVoucherOf vouchers world classId contract tokenId →
      (∃ channelId,
        world.storage.incomingClassTokenToChannel (classId, tokenId) = some channelId ∧
        classId.NamesChannel chain.portId channelId) ∧
      ∃ metadata, world.storage.tokenMetadata (classId, tokenId) = some metadata) ∧
    ∀ packet ∈ world.commitments, ∀ data ack,
      chain.api.packetData.fromBinary packet.data = .ok data →
      tryGetAckError chain.api ack = none →
      ∀ contract, ∀ tokenId ∈ data.tokenIds,
        IsVoucherOf vouchers world data.classId contract tokenId →
        ∃ storage response,
          ibcPacketAck chain.api world.storage packet ack = .ok (storage, response) ∧
          ((WasmMsg.execute contract (.cw721 (.burn tokenId))).sub ∈ response.messages ↔
            data.classId.NamesChannel chain.portId packet.src.channelId) := by
  have start : Booked vouchers genesis ∧ Sound chain contracts msg.cw721BaseCodeId genesis :=
    ⟨Booked.instantiateTx lawful rfl instantiated, Sound.instantiateTx lawful rfl instantiated⟩
  have kept : ∀ (world : World σ) label,
      (Booked vouchers world ∧ Sound chain contracts msg.cw721BaseCodeId world) →
      ProperLabel label →
      Booked vouchers (chain.step contracts world label) ∧
        Sound chain contracts msg.cw721BaseCodeId (chain.step contracts world label) :=
    fun world label both proper =>
      ⟨both.1.step lawful both.2 proper, (both.2.step lawful label).1⟩
  have both := Follows.invariant kept (follows_of_mem proper) start
  rw [reached] at both
  rcases both with ⟨booked, sound⟩
  refine ⟨fun _ _ _ entry => (booked.names entry).2, ?_, ?_⟩
  · intro classId contract tokenId voucher
    rcases booked.booked voucher.voucher voucher.registered voucher.present with ⟨came, described⟩
    rcases Option.ne_none_iff_exists'.mp came with ⟨channelId, entry⟩
    exact ⟨⟨channelId, entry, (booked.names entry).2⟩, Option.ne_none_iff_exists'.mp described⟩
  · intro packet pending data ack decoded read contract tokenId member voucher
    rcases sound.emitted lawful pending [] with ⟨record, found, -, emitted⟩
    simp only [List.foldl_nil] at emitted
    have same := emitted.decoded
    rw [decoded] at same
    cases same
    rw [emitted.tokens, List.mem_singleton] at member
    subst member
    simp only [ibcPacketAck, read]
    exact booked.burns_iff emitted voucher (identifiers _ emitted.opened)

/-! ## cw721-base -/

/-- An NFT appears in a collection only if its minter mints it. -/
theorem Collection.execute_appears {api : Api} {collection after : Collection} {sender : Addr}
    {msg : Cw721ExecuteMsg} {tokenId : TokenId}
    (executed : collection.execute api sender msg = .ok after)
    (present : after.tokens tokenId ≠ none) :
    collection.tokens tokenId ≠ none ∨
      (collection.minter = sender ∧ ∃ owner uri, msg = .mint tokenId owner uri) := by
  have saved : ∀ {other : TokenId} {old new : TokenInfo}, collection.tokens other = some old →
      collection.tokens.save other new tokenId ≠ none → collection.tokens tokenId ≠ none := by
    intro other old new there appears
    by_cases same : tokenId = other
    · simp [same, there]
    · rwa [StoreMap.save_of_ne same] at appears
  cases msg with
  | mint minted owner tokenUri =>
      rcases Collection.mint_eq_ok.mp executed with ⟨isMinter, -, -, rfl⟩
      by_cases same : tokenId = minted
      · subst same
        exact .inr ⟨isMinter, owner, tokenUri, rfl⟩
      · left
        simpa [StoreMap.save_of_ne same] using present
  | burn burned =>
      rcases Collection.burn_eq_ok.mp executed with ⟨token, -, -, rfl⟩
      left
      intro unused
      simp [StoreMap.remove_apply, unused] at present
  | transferNft recipient moved =>
      rcases Collection.transferNft_eq_ok.mp executed with ⟨token, there, -, -, rfl⟩
      exact .inl (saved there present)
  | sendNft contract moved msg =>
      rcases Collection.transferNft_eq_ok.mp executed with ⟨token, there, -, -, rfl⟩
      exact .inl (saved there present)
  | approve spender moved =>
      rcases Collection.updateApprovals_eq_ok executed with ⟨token, approvals, there, -, rfl⟩
      exact .inl (saved there present)
  | revoke spender moved =>
      rcases Collection.updateApprovals_eq_ok executed with ⟨token, approvals, there, -, rfl⟩
      exact .inl (saved there present)
  | approveAll operator =>
      rcases Collection.updateOperators_eq_ok executed with ⟨operators, rfl, -⟩
      exact .inl present
  | revokeAll operator =>
      rcases Collection.updateOperators_eq_ok executed with ⟨operators, rfl, -⟩
      exact .inl present

namespace Deployment

variable {deployment : Deployment} {contracts : Contracts Ledger}

/-- A collection of which the bridge is the minter. -/
def Vouches (deployment : Deployment) (ledger : Ledger) (contract : Addr) : Prop :=
  ∃ info, ledger.infoAt deployment.api contract = some info ∧ info.minter = deployment.bridge

theorem execute_cw721 (conforms : Conforms deployment.contracts contracts) {storage : Storage}
    {ledger : Ledger} {sender contract : Addr} {msg : ExecMsg}
    {reaction : Reaction Ledger CosmosMsg ReplyData}
    (executed : contracts.execute storage ledger sender contract msg = .ok reaction) :
    ∃ call collection next, msg = .cw721 call ∧
      ledger.contractAt deployment.api contract = some collection ∧
      collection.execute deployment.api sender call = .ok next ∧
      ∀ query, reaction.world.contractAt deployment.api query =
        if query = contract then some next else ledger.contractAt deployment.api query := by
  have ran := conforms.execute executed
  cases msg with
  | cw721 call =>
      simp only [Deployment.contracts, bind_eq_ok, pure_eq_ok] at ran
      rcases ran with ⟨after, called, rfl⟩
      rcases Ledger.call_eq_ok.mp called with ⟨collection, next, found, done, rfl⟩
      exact ⟨call, collection, next, rfl, found, done,
        Ledger.contractAt_put (Ledger.contractAt_eq_some.mp found).1⟩
  | bridge msg => cases ran
  | other msg => cases ran

theorem instantiate_cw721 (conforms : Conforms deployment.contracts contracts)
    {storage : Storage} {ledger : Ledger} {sender contract : Addr} {code : Nat} {msg : InitMsg}
    {reaction : Reaction Ledger CosmosMsg ReplyData}
    (instantiated : contracts.instantiate storage ledger sender code msg =
      .ok (contract, reaction)) :
    ∃ init, msg = .cw721 init ∧ ledger.infoAt deployment.api contract = none ∧
      reaction.world.infoAt deployment.api = StoreMap.save (ledger.infoAt deployment.api) contract
        ⟨init.name, ⟨init.minter⟩, .empty⟩ ∧
      reaction.world.nfts deployment.api = ledger.nfts deployment.api := by
  have ran := conforms.instantiate instantiated
  cases msg with
  | cw721 init =>
      simp only [Deployment.contracts, bind_eq_ok, pure_eq_ok, Prod.mk.injEq] at ran
      rcases ran with ⟨⟨fresh, after⟩, done, rfl, rfl⟩
      rcases instantiate_eq_ok done with ⟨-, free, infos, tokens, -⟩
      exact ⟨init, rfl, free, infos, tokens⟩
  | other msg => cases ran

/-- The voucher collections of a chain with cw721-base contracts. -/
def voucherContracts (conforms : Conforms deployment.contracts contracts) (codeId : Nat) :
    VoucherContracts deployment.toChain contracts codeId where
  isVoucher := deployment.Vouches
  has ledger contract tokenId := ledger.nfts deployment.api (contract, tokenId) ≠ none
  execute_kept := by
    intro storage ledger sender contract msg reaction executed other vouches
    rcases vouches with ⟨info, known, minter⟩
    rcases execute_cw721 conforms executed with ⟨call, collection, next, rfl, found, done, after⟩
    simp only [Vouches, Ledger.infoAt, after]
    split
    next same =>
      subst same
      rcases Ledger.infoAt_eq_some.mp known with ⟨before, there, rfl⟩
      rw [found] at there
      cases there
      exact ⟨_, rfl, (Collection.execute_fixed done).2.1.trans minter⟩
    next => exact ⟨info, known, minter⟩
  reply_kept := by
    intro storage ledger contract id result reaction replied
    cases conforms.reply replied
  instantiate_kept := by
    intro storage ledger sender code msg contract reaction instantiated other vouches
    rcases vouches with ⟨info, known, minter⟩
    rcases instantiate_cw721 conforms instantiated with ⟨init, rfl, free, infos, -⟩
    refine ⟨info, ?_, minter⟩
    rw [infos, StoreMap.save_of_ne]
    · exact known
    · rintro rfl
      rw [free] at known
      cases known
  minted := by
    intro storage ledger sender contract msg reaction executed other tokenId vouches present
    rcases vouches with ⟨info, known, minter⟩
    rcases execute_cw721 conforms executed with ⟨call, collection, next, rfl, found, done, after⟩
    simp only [Ledger.nfts, after] at present ⊢
    split at present
    next same =>
      subst same
      rcases Ledger.infoAt_eq_some.mp known with ⟨before, there, rfl⟩
      rw [found] at there
      cases there
      rcases Collection.execute_appears done present with there | ⟨isMinter, owner, uri, rfl⟩
      · left
        rw [found]
        exact there
      · exact .inr ⟨rfl, isMinter.symm.trans minter, owner, uri, rfl⟩
    next => exact .inl present
  reply_has := by
    intro storage ledger contract id result reaction replied
    cases conforms.reply replied
  instantiate_has := by
    intro storage ledger sender code msg contract reaction instantiated other tokenId _ present
    rcases instantiate_cw721 conforms instantiated with ⟨init, rfl, -, -, tokens⟩
    rwa [tokens] at present
  burned := by
    intro storage ledger contract tokenId reaction _ executed present
    rcases execute_cw721 conforms executed with ⟨call, collection, next, same, found, done, after⟩
    cases same
    rcases Collection.burn_eq_ok.mp done with ⟨token, -, -, rfl⟩
    simp [Ledger.nfts, after] at present
  collection := by
    intro storage ledger name symbol contract reaction instantiated
    rcases instantiate_cw721 conforms instantiated with ⟨init, same, free, infos, tokens⟩
    cases same
    refine ⟨⟨_, by rw [infos, StoreMap.save_self], rfl⟩, ?_⟩
    intro tokenId present
    rw [tokens] at present
    rcases Option.ne_none_iff_exists'.mp present with ⟨token, there⟩
    rcases Ledger.infoAt_of_nfts there with ⟨info, known⟩
    rw [free] at known
    cases known

end Deployment

namespace Sample

/-- Bob receives a voucher and sends it back. -/
def sentBack : List Chain.Label :=
  [.receive (artPacket "first" "one" 0), .execute ⟨"bob"⟩ (.execute ⟨"contract0"⟩
    (.cw721 (.sendNft "bridge" ⟨"one"⟩ (request "carol" "channel-0"))))]

end Sample

/-- The voucher is in the books while the packet is under way. -/
theorem vouchers_booked_of_sample :
    (Sample.run Sample.sentBack).commitments.length = 1 ∧
    (∃ channelId, (Sample.run Sample.sentBack).storage.incomingClassTokenToChannel
        (Sample.artClass, ⟨"one"⟩) = some channelId ∧
      Sample.artClass.NamesChannel "wasm.bridge" channelId) ∧
    ∃ metadata, (Sample.run Sample.sentBack).storage.tokenMetadata
      (Sample.artClass, ⟨"one"⟩) = some metadata := by
  have facts : (Sample.run Sample.sentBack).commitments.length = 1 ∧
      (Sample.run Sample.sentBack).storage.classIdToNftContract Sample.artClass =
        some ⟨"contract0"⟩ ∧
      ((Sample.run Sample.sentBack).contracts.nfts Sample.api
        (⟨"contract0"⟩, ⟨"one"⟩)).isSome = true := by
    decide +kernel
  have conforms : Conforms Sample.chain.contracts Sample.chain.contracts := .refl _
  have proper : ∀ label ∈ Sample.sentBack, ProperLabel label := by
    intro label member packet same
    subst same
    simp only [Sample.sentBack, List.mem_cons, List.not_mem_nil, or_false, reduceCtorEq,
      Chain.Label.receive.injEq] at member
    subst member
    decide
  have books := (vouchers_booked_of_run (Deployment.lawful conforms 1)
    (Deployment.voucherContracts conforms 1) Sample.counterparty_slashless
    Sample.instantiateTx_genesis Sample.sentBack proper (rfl : _ = Sample.run Sample.sentBack)).2.1
  have there : (Sample.run Sample.sentBack).contracts.nfts Sample.api
      (⟨"contract0"⟩, ⟨"one"⟩) ≠ none :=
    Option.isSome_iff_ne_none.mp facts.2.2
  have voucher : Sample.artClass.IsVoucher := by
    unfold ClassId.IsVoucher
    decide
  exact ⟨facts.1, books Sample.artClass ⟨"contract0"⟩ ⟨"one"⟩ ⟨voucher, facts.2.1, there⟩⟩

end Ics721
