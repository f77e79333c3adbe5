import Ics721.Bridge.Bookkeeping

/-!
# Forwarding a voucher

A packet that creates a voucher takes its metadata apart: the URI goes to the collection, the
data of the token and the record of the class stay with the bridge.  A packet that sends the
voucher on puts it together again.  In between the metadata stays where it is, as long as no
other packet of the class arrives, whatever else happens on the chain.
-/

namespace Ics721

open Library

variable {σ : Type}

/-- Voucher collections that return the URI a token was minted with. -/
structure VoucherUris (chain : Chain) (contracts : Contracts σ) (codeId : Nat) extends
    VoucherContracts chain contracts codeId where
  /-- The URI of a token that the collection has. -/
  uri : σ → Addr → TokenId → Option String
  told : ∀ {state contract tokenId answer}, isVoucher state contract →
    contracts.nftInfo state contract tokenId = .ok answer →
    has state contract tokenId ∧ answer = uri state contract tokenId
  execute_uri : ∀ {storage state sender contract msg reaction},
    contracts.execute storage state sender contract msg = .ok reaction →
    ∀ {other tokenId}, isVoucher state other → has state other tokenId →
      has reaction.world other tokenId →
      uri reaction.world other tokenId = uri state other tokenId
  reply_uri : ∀ {storage state contract id result reaction},
    contracts.reply storage state contract id result = .ok reaction →
    ∀ {other tokenId}, isVoucher state other → has state other tokenId →
      has reaction.world other tokenId →
      uri reaction.world other tokenId = uri state other tokenId
  instantiate_uri : ∀ {storage state sender code msg contract reaction},
    contracts.instantiate storage state sender code msg = .ok (contract, reaction) →
    ∀ {other tokenId}, isVoucher state other → has state other tokenId →
      has reaction.world other tokenId →
      uri reaction.world other tokenId = uri state other tokenId
  mint : ∀ {storage state contract tokenId owner minted reaction}, isVoucher state contract →
    contracts.execute storage state chain.bridge contract
      (.cw721 (.mint tokenId owner minted)) = .ok reaction →
    reaction.messages = [] ∧ uri reaction.world contract tokenId = minted

section Rules

variable {chain : Chain} {contracts : Contracts σ} {codeId : Nat}
variable {uris : VoucherUris chain contracts codeId} {world : World σ}

/-! ## Creation -/

/-- The bridge mints tokens of a collection: nothing but the collection changes, and the tokens
have the URIs they are minted with. -/
theorem dispatch_mints {depth : Nat} {contract : Addr} {owner : String} {tokens : List Token}
    {data : Option ReplyData} {result : World σ × Option ReplyData}
    (ran : (chain.machine contracts).dispatch (depth + 1) world chain.bridge
      ((tokens.map fun token =>
        WasmMsg.execute contract (.cw721 (.mint token.id owner token.uri))).map (·.sub)) data =
          .ok result)
    (isVoucher : uris.isVoucher world.contracts contract) :
    ∃ state, result.1 = { world with contracts := state } ∧ uris.isVoucher state contract ∧
      (∀ tokenId, tokenId ∉ tokens.map (·.id) → uris.has state contract tokenId →
        uris.has world.contracts contract tokenId ∧
          uris.uri state contract tokenId = uris.uri world.contracts contract tokenId) ∧
      ∀ token ∈ tokens, (∀ other ∈ tokens, other.id = token.id → other = token) →
        uris.has state contract token.id → uris.uri state contract token.id = token.uri := by
  induction tokens generalizing world data with
  | nil =>
      simp only [List.map_nil, Machine.dispatch_nil, Except.ok.injEq] at ran
      subst ran
      exact ⟨world.contracts, rfl, isVoucher, by simp, by simp⟩
  | cons head tokens ih =>
      simp only [List.map_cons, Machine.dispatch_succ_cons, bind_eq_ok] at ran
      rcases ran with ⟨middle, first, rest⟩
      rcases runOne_cw721 first with ⟨outcome, inner, -, executed, silent, rfl⟩
      rcases uris.mint isVoucher executed with ⟨quiet, minted⟩
      rw [quiet, Machine.dispatch_nil, Except.ok.injEq] at silent
      subst silent
      have still := uris.execute_kept executed isVoucher
      rcases ih rest still with ⟨state, reached, kept, others, tokens_⟩
      have unminted : ∀ tokenId, tokenId ≠ head.id → uris.has outcome.world contract tokenId →
          uris.has world.contracts contract tokenId := by
        intro tokenId different present
        rcases uris.minted executed isVoucher present with before | ⟨-, -, _, _, same⟩
        · exact before
        · cases same
          exact absurd rfl different
      refine ⟨state, reached, kept, ?_, ?_⟩
      · intro tokenId unlisted present
        simp only [List.map_cons, List.mem_cons, not_or] at unlisted
        rcases others tokenId unlisted.2 present with ⟨middle, same⟩
        have before := unminted tokenId unlisted.1 middle
        exact ⟨before, same.trans (uris.execute_uri executed isVoucher before middle)⟩
      · intro token member agree present
        have later : token ∈ tokens → uris.uri state contract token.id = token.uri :=
          fun listed => tokens_ token listed
            (fun other listed => agree other (List.mem_cons_of_mem _ listed)) present
        rcases List.mem_cons.mp member with rfl | listed
        · by_cases again : token.id ∈ tokens.map (·.id)
          · rcases List.mem_map.mp again with ⟨other, listed, same⟩
            have identical := agree other (List.mem_cons_of_mem _ listed) same
            exact later (identical ▸ listed)
          · rcases others token.id again present with ⟨-, same⟩
            exact same.trans minted
        · exact later listed

theorem foldl_metadata_eq {classId : ClassId} {tokens : List Token} {token : Token}
    (agree : ∀ other ∈ tokens, other.id = token.id → other = token)
    (metadata : StoreMap (ClassId × TokenId) (Option Binary))
    (start : token ∈ tokens ∨ metadata (classId, token.id) = some token.data) :
    tokens.foldl (fun metadata token => metadata.save (classId, token.id) token.data) metadata
      (classId, token.id) = some token.data := by
  induction tokens generalizing metadata with
  | nil =>
      rcases start with member | saved
      · cases member
      · exact saved
  | cons head tokens ih =>
      apply ih (fun other listed => agree other (List.mem_cons_of_mem _ listed))
      simp only [StoreMap.save_apply]
      by_cases same : head.id = token.id
      · right
        rw [if_pos (by rw [same]), agree head List.mem_cons_self same]
      · rcases start with member | saved
        · rcases List.mem_cons.mp member with rfl | listed
          · exact absurd rfl same
          · exact .inl listed
        · right
          rw [if_neg (by simp [Ne.symm same])]
          exact saved

/-- What is left of a token when its voucher has been created: its URI in the collection, and
its data in the books. -/
theorem runOne_create_tokens (lawful : Lawful chain contracts codeId)
    {aggregator : ActionAggregator} {create : VoucherCreation} {receiver : Addr}
    (booked : Booked uris.toVoucherContracts world)
    (stocked : Stocked world.storage.incomingClassTokenToChannel aggregator)
    (present : aggregator.creation = some create) {depth : Nat} {data : Option ReplyData}
    {result : World σ × Option ReplyData}
    (ran : (chain.machine contracts).runOne ((chain.machine contracts).dispatch depth)
      chain.bridge (world, data) (WasmMsg.execute chain.bridge
        (.bridge (.callback (.createVouchers receiver.addr create)))).sub = .ok result)
    {token : Token} (member : token ∈ create.tokens)
    (agree : ∀ other ∈ create.tokens, other.id = token.id → other = token) :
    ∃ contract, result.1.storage.classIdToNftContract create.cls.id = some contract ∧
      uris.isVoucher result.1.contracts contract ∧
      result.1.storage.tokenMetadata (create.cls.id, token.id) = some token.data ∧
      (uris.has result.1.contracts contract token.id →
        uris.uri result.1.contracts contract token.id = token.uri) := by
  have keeps : KeepsBooks uris.toVoucherContracts _ (Built chain.bridge receiver aggregator) :=
    keepsBooks_built stocked
  rcases Chain.runOne_callback.mp ran with ⟨-, storage, response, inner, executed, rest, rfl⟩
  have permitted : Built chain.bridge receiver aggregator (.createVouchers receiver.addr create) :=
    .create present
  rcases keeps world _ storage response booked rfl permitted executed with
    ⟨kept, same, -, own⟩
  simp only [executeCallback, ne_eq, not_true_eq_false, if_false, callbackCreateVouchers,
    Except.ok.injEq, Prod.mk.injEq] at executed
  rcases executed with ⟨-, rfl⟩
  simp only [Machine.dispatch_append, bind_eq_ok] at rest
  rcases rest with ⟨middle, instantiated, minted⟩
  let rules := bookRules lawful uris.toVoucherContracts _ keeps
  have ready : rules.Ready chain.bridge { world with storage := storage } _ :=
    ⟨⟨kept, same⟩, fun _ sub listed => own sub (List.mem_append_left _ listed)⟩
  have books : Booked uris.toVoucherContracts middle.1 ∧ _ :=
    ((rules.toRules lawful).dispatch ready instantiated).1
  cases depth with
  | zero => cases minted
  | succ depth =>
      simp only [Machine.dispatch_succ_cons, Machine.dispatch_nil, bind_eq_ok,
        Except.ok.injEq] at minted
      rcases minted with ⟨final, called, rfl⟩
      rcases Chain.runOne_callback.mp called with
        ⟨-, storage, response, inner, executed, mints, rfl⟩
      simp only [executeCallback, ne_eq, not_true_eq_false, if_false, callbackMint, bind_eq_ok,
        mapError_eq_ok, pure_eq_ok, Prod.mk.injEq] at executed
      rcases executed with ⟨owner, -, contract, loaded, rfl, rfl⟩
      have entry := Storage.loadNftContract_eq_ok.mp loaded
      have isVoucher := (books.1.registered (stocked create present).1 entry).2
      cases depth with
      | zero =>
          cases tokens : create.tokens with
          | nil =>
              rw [tokens] at member
              cases member
          | cons head rest =>
              rw [tokens] at mints
              cases mints
      | succ depth =>
          rcases dispatch_mints mints isVoucher with ⟨state, reached, still, -, told⟩
          refine ⟨contract, ?_, ?_, ?_, ?_⟩
          · rw [reached]
            exact entry
          · rw [reached]
            exact still
          · rw [reached]
            exact foldl_metadata_eq agree _ (.inl member)
          · rw [reached]
            exact told token member agree

/-- A packet created vouchers. -/
theorem creation_of_delivered {packet : IbcPacket} {data : NonFungibleTokenPacketData}
    {storage : Storage} (valid : data.validate = .ok ()) {token : Token}
    (created : token ∈ data.created packet storage) :
    (data.aggregate (selectActions packet data storage).2).creation =
      some ⟨data.carriedClass packet.dest, data.created packet storage⟩ := by
  rw [data.aggregate_creation (uniform_selectActions packet data storage),
    data.createdTokens_selectActions valid, if_neg (List.ne_nil_of_mem created)]
  rfl

/-- A token that is in the packet once and is not redeemed is created, and nothing else is
created under its ID. -/
theorem NonFungibleTokenPacketData.created_once {packet : IbcPacket}
    {data : NonFungibleTokenPacketData} {storage : Storage} {tokenId : TokenId} {index : Nat}
    (place : data.tokenIds[index]? = some tokenId)
    (once : ∀ other, data.tokenIds[other]? = some tokenId → other = index)
    (creates : data.redeems packet storage index = false) :
    data.tokenAt tokenId index ∈ data.created packet storage ∧
      ∀ other ∈ data.created packet storage, other.id = tokenId →
        other = data.tokenAt tokenId index := by
  have member : ∀ token, token ∈ data.created packet storage ↔ ∃ id_ at_,
      data.tokenIds[at_]? = some id_ ∧ data.redeems packet storage at_ = false ∧
        data.tokenAt id_ at_ = token := by
    intro token
    simp only [created, List.mem_filterMap, Prod.exists, List.mem_zipIdx_iff_getElem?,
      Option.ite_none_left_eq_some, Bool.not_eq_true, Option.some.injEq]
  constructor
  · exact (member _).mpr ⟨tokenId, index, place, creates, rfl⟩
  · intro other created same
    rcases (member other).mp created with ⟨id_, at_, there, -, rfl⟩
    change id_ = tokenId at same
    subst same
    rw [once at_ there]

/-! ## What is carried -/

/-- A voucher: the record of its class, its collection, and the token with what belongs to it. -/
structure CarriedVoucher where
  cls : Class
  contract : Addr
  token : Token

namespace CarriedVoucher

variable (voucher : CarriedVoucher)

/-- The packet brings along all that belongs to the voucher. -/
structure Describes (data : NonFungibleTokenPacketData) : Prop where
  classUri : data.classUri = voucher.cls.uri
  classData : data.classData = voucher.cls.data
  tokenUris : data.tokenUris = voucher.token.uri.map fun uri => [uri]
  tokenData : data.tokenData = voucher.token.data.map fun tokenData => [tokenData]

/-- If the payload is about the voucher, it describes the voucher. -/
def Faithful (api : Api) (payload : Binary) : Prop :=
  ∀ data, api.packetData.fromBinary payload = .ok data → data.classId = voucher.cls.id →
    data.tokenIds = [voucher.token.id] → voucher.Describes data

/-- The bridge does not call itself with anything that concerns the class. -/
structure Spared (bridge : Addr) (built : CallbackMsg → Prop) : Prop where
  create : ∀ {receiver create}, built (.createVouchers receiver create) →
    create.cls.id ≠ voucher.cls.id ∧ built (.mint create.cls.id receiver create.tokens)
  mint : ∀ {classId receiver tokens}, built (.mint classId receiver tokens) →
    classId ≠ voucher.cls.id
  conjunction : ∀ {operands}, built (.conjunction operands) → ∀ msg ∈ operands,
    ∃ callback, msg = .execute bridge (.bridge (.callback callback)) ∧ built callback

/-- What the bridge emits, none of which mints the voucher or changes what belongs to it. -/
inductive Leaves (chain : Chain) (codeId : Nat) (built : CallbackMsg → Prop) :
    SubMsg CosmosMsg → Prop where
  | cw721 {contract : Addr} {msg : Cw721ExecuteMsg}
      (other : contract = voucher.contract → ∀ owner uri, msg ≠ .mint voucher.token.id owner uri) :
      Leaves chain codeId built (WasmMsg.execute contract (.cw721 msg)).sub
  | callback {msg : CallbackMsg} (permitted : built msg) :
      Leaves chain codeId built (WasmMsg.execute chain.bridge (.bridge (.callback msg))).sub
  | acked {msg : CallbackMsg} (permitted : built msg) :
      Leaves chain codeId built
        ⟨.wasm (.execute chain.bridge (.bridge (.callback msg))), .always, ackAndDoNothing⟩
  | collection {name : String} (symbol label : String) (different : name ≠ voucher.cls.id.id) :
      Leaves chain codeId built
        ⟨.wasm (.instantiate none codeId (.cw721 ⟨name, symbol, chain.bridge.addr⟩) label),
          .success, instantiateCw721ReplyId⟩
  | proxy (admin : Option String) (code : Nat) (msg : Binary) (label : String) :
      Leaves chain codeId built
        ⟨.wasm (.instantiate admin code (.other msg) label), .success, instantiateProxyReplyId⟩
  | packet (channelId : String) {data : Binary} (timeout : IbcTimeout)
      (faithful : voucher.Faithful chain.api data) :
      Leaves chain codeId built (CosmosMsg.ibc (.sendPacket channelId data timeout)).sub

variable {voucher}

theorem spared_never (bridge : Addr) : voucher.Spared bridge Never where
  create never := False.elim never
  mint never := False.elim never
  conjunction never := False.elim never

theorem spared_built {bridge receiver : Addr} {aggregator : ActionAggregator}
    (different : ∀ create, aggregator.creation = some create → create.cls.id ≠ voucher.cls.id) :
    voucher.Spared bridge (Built bridge receiver aggregator) where
  create permitted := by
    cases permitted with
    | create present => exact ⟨different _ present, .mint present⟩
  mint permitted := by
    cases permitted with
    | mint present => exact different _ present
  conjunction permitted := by
    cases permitted with
    | conjunction =>
        intro msg operand
        exact Own.of_operand operand

theorem Leaves.of_callback {built : CallbackMsg → Prop} {sub : SubMsg CosmosMsg}
    {callback : CallbackMsg} (leaves : voucher.Leaves chain codeId built sub)
    (content : sub.msg = .wasm (.execute chain.bridge (.bridge (.callback callback)))) :
    built callback := by
  cases leaves with
  | callback permitted =>
      cases content
      exact permitted
  | acked permitted =>
      cases content
      exact permitted
  | cw721 => cases content
  | collection => cases content
  | proxy => cases content
  | packet => cases content

end CarriedVoucher

/-- The metadata of a voucher is where it was left.  Packets that were sent before are `old`. -/
structure Remembers (uris : VoucherUris chain contracts codeId) (voucher : CarriedVoucher)
    (old : List IbcPacket) (world : World σ) : Prop where
  code : world.storage.cw721CodeId = codeId
  collection : ∀ classId,
    world.storage.classIdToNftContract classId = some voucher.contract ↔ classId = voucher.cls.id
  class_ : ∀ contract,
    world.storage.nftContractToClassId contract = some voucher.cls.id ↔
      contract = voucher.contract
  ids : ∀ {classId cls}, world.storage.classIdToClass classId = some cls → cls.id = classId
  there : contracts.isContract world.contracts voucher.contract = true
  isVoucher : uris.isVoucher world.contracts voucher.contract
  record : world.storage.classIdToClass voucher.cls.id = some voucher.cls
  metadata : uris.has world.contracts voucher.contract voucher.token.id →
    world.storage.tokenMetadata (voucher.cls.id, voucher.token.id) = some voucher.token.data
  uri : uris.has world.contracts voucher.contract voucher.token.id →
    uris.uri world.contracts voucher.contract voucher.token.id = voucher.token.uri
  packets : ∀ packet ∈ world.commitments, packet ∉ old →
    packet.src.portId = chain.portId ∧ voucher.Faithful chain.api packet.data

namespace Remembers

variable {voucher : CarriedVoucher} {old : List IbcPacket} {built : CallbackMsg → Prop}

/-- Another contract did something, and left the voucher as it was if it is still there. -/
theorem withContracts (remembers : Remembers uris voucher old world) {after : σ}
    (kept : ∀ {other}, contracts.isContract world.contracts other = true →
      contracts.isContract after other = true)
    (keptVoucher : ∀ {other}, uris.isVoucher world.contracts other → uris.isVoucher after other)
    (same : uris.has after voucher.contract voucher.token.id →
      uris.has world.contracts voucher.contract voucher.token.id ∧
        uris.uri after voucher.contract voucher.token.id =
          uris.uri world.contracts voucher.contract voucher.token.id) :
    Remembers uris voucher old { world with contracts := after } where
  code := remembers.code
  collection := remembers.collection
  class_ := remembers.class_
  ids := remembers.ids
  there := kept remembers.there
  isVoucher := keptVoucher remembers.isVoucher
  record := remembers.record
  metadata present := remembers.metadata (same present).1
  uri present := (same present).2.trans (remembers.uri (same present).1)
  packets := remembers.packets

/-- Nothing was registered or recorded. -/
theorem withStorage (remembers : Remembers uris voucher old world) {storage : Storage}
    {commitments : List IbcPacket} {sequence : Nat} {sends : List SendRecord}
    (code : storage.cw721CodeId = world.storage.cw721CodeId)
    (collections : storage.classIdToNftContract = world.storage.classIdToNftContract)
    (classes : storage.nftContractToClassId = world.storage.nftContractToClassId)
    (records : storage.classIdToClass = world.storage.classIdToClass)
    (metadata : storage.tokenMetadata (voucher.cls.id, voucher.token.id) =
      world.storage.tokenMetadata (voucher.cls.id, voucher.token.id))
    (fewer : ∀ packet ∈ commitments, packet ∈ world.commitments) :
    Remembers uris voucher old ⟨storage, world.contracts, commitments, sequence, sends⟩ where
  code := code.trans remembers.code
  collection := by
    simp only [collections]
    exact remembers.collection
  class_ := by
    simp only [classes]
    exact remembers.class_
  ids := by
    simp only [records]
    exact remembers.ids
  there := remembers.there
  isVoucher := remembers.isVoucher
  record := by
    simp only [records]
    exact remembers.record
  metadata := by
    simp only [metadata]
    exact remembers.metadata
  uri := remembers.uri
  packets packet member := remembers.packets packet (fewer packet member)

/-- A contract was registered that had no class, under a class of its own. -/
theorem register (remembers : Remembers uris voucher old world) {storage : Storage}
    {classId : ClassId} {contract : Addr} (different : classId ≠ voucher.cls.id)
    (fresh : contract ≠ voucher.contract)
    (code : storage.cw721CodeId = world.storage.cw721CodeId)
    (collections : storage.classIdToNftContract =
      world.storage.classIdToNftContract.save classId contract)
    (classes : storage.nftContractToClassId =
      world.storage.nftContractToClassId.save contract classId)
    (records : storage.classIdToClass = world.storage.classIdToClass ∨
      ∃ cls, cls.id = classId ∧
        storage.classIdToClass = world.storage.classIdToClass.save classId cls)
    (metadata : storage.tokenMetadata = world.storage.tokenMetadata) :
    Remembers uris voucher old { world with storage := storage } where
  code := code.trans remembers.code
  collection := by
    intro query
    simp only [collections, StoreMap.save_apply]
    split
    next same =>
      subst same
      simp [fresh, different]
    next => exact remembers.collection query
  class_ := by
    intro query
    simp only [classes, StoreMap.save_apply]
    split
    next same =>
      subst same
      simp [fresh, different]
    next => exact remembers.class_ query
  ids := by
    intro query cls found
    rcases records with same | ⟨own, id_, saved⟩
    · rw [same] at found
      exact remembers.ids found
    · rw [saved, StoreMap.save_apply] at found
      split at found
      next same =>
        cases found
        rw [same]
        exact id_
      next => exact remembers.ids found
  there := remembers.there
  isVoucher := remembers.isVoucher
  record := by
    rcases records with same | ⟨own, -, saved⟩
    · rw [same]
      exact remembers.record
    · rw [saved, StoreMap.save_of_ne (Ne.symm different)]
      exact remembers.record
  metadata := by
    simp only [metadata]
    exact remembers.metadata
  uri := remembers.uri
  packets := remembers.packets

/-- An NFT is sent.  If it is the voucher, the packet describes it. -/
theorem receiveNft (lawful : Lawful chain contracts codeId)
    (slash : '/' ∈ voucher.cls.id.id.toList) (remembers : Remembers uris voucher old world)
    {record : SendRecord} {storage : Storage} {response : Response}
    (received : Ics721.receiveNft chain.api (contracts.querier world.contracts) world.storage
      record.contract record.tokenId record.sender record.msg = .ok (storage, response)) :
    Remembers uris voucher old { world with storage := storage } ∧
      ∀ sub ∈ response.messages, voucher.Leaves chain codeId built sub := by
  simp only [Ics721.receiveNft, bind_eq_ok, mapError_eq_ok, pure_eq_ok,
    Prod.mk.injEq] at received
  rcases received with ⟨sender, -, outgoing, -, ⟨registered, cls⟩, selected, answer, queried, rfl,
    rfl⟩
  have isContract := lawful.nftInfo_contract queried
  have decoded : ∀ data, chain.api.packetData.fromBinary (chain.api.packetData.toBinary
      (outgoingPacketData registered cls record.tokenId answer sender outgoing)) = .ok data →
      data = outgoingPacketData registered cls record.tokenId answer sender outgoing := by
    intro data read
    rw [chain.api.packetData.from_to] at read
    exact (Except.ok.inj read).symm
  unfold classForContract at selected
  split at selected
  next classId entry =>
    simp only [bind_eq_ok, Storage.loadClass_eq_ok, pure_eq_ok, Prod.mk.injEq] at selected
    rcases selected with ⟨found, recorded, rfl, rfl⟩
    refine ⟨remembers.withStorage rfl rfl rfl rfl rfl fun _ => id, ?_⟩
    intro sub member
    rw [List.mem_singleton.mp member]
    apply CarriedVoucher.Leaves.packet
    intro data read class_ tokens
    cases decoded data read
    have named : classId = voucher.cls.id := (remembers.ids recorded).symm.trans class_
    subst named
    have same : record.contract = voucher.contract := (remembers.class_ _).mp entry
    have token : record.tokenId = voucher.token.id := by simpa [outgoingPacketData] using tokens
    have full : found = voucher.cls := Option.some.inj (recorded.symm.trans remembers.record)
    rw [same, token] at queried
    rcases uris.told remembers.isVoucher queried with ⟨present, told⟩
    have metadata := remembers.metadata present
    have answered := told.trans (remembers.uri present)
    constructor
    · simp [outgoingPacketData, full]
    · simp [outgoingPacketData, full]
    · simp [outgoingPacketData, answered]
    · simp [outgoingPacketData, full, token, metadata]
  next unregistered =>
    simp only [Except.ok.injEq, Prod.mk.injEq] at selected
    rcases selected with ⟨rfl, rfl⟩
    have free := chain.api.valid_no_slash _ (lawful.contract_valid isContract)
    have different : (⟨record.contract.addr⟩ : ClassId) ≠ voucher.cls.id := by
      intro same
      rw [← same] at slash
      exact free slash
    have fresh : record.contract ≠ voucher.contract := by
      intro same
      rw [same, (remembers.class_ _).mpr rfl] at unregistered
      cases unregistered
    refine ⟨remembers.register different fresh rfl rfl rfl (.inr ⟨_, rfl, rfl⟩) rfl, ?_⟩
    intro sub member
    rw [List.mem_singleton.mp member]
    apply CarriedVoucher.Leaves.packet
    intro data read class_
    cases decoded data read
    exact absurd class_ different

/-- The bridge calls itself with something that does not concern the class. -/
theorem executeCallback (spared : voucher.Spared chain.bridge built)
    (remembers : Remembers uris voucher old world) {callback : CallbackMsg} {storage : Storage}
    {response : Response} (permitted : built callback)
    (executed : Ics721.executeCallback chain.api chain.bridge world.storage chain.bridge callback =
      .ok (storage, response)) :
    Remembers uris voucher old { world with storage := storage } ∧
      ∀ sub ∈ response.messages, voucher.Leaves chain codeId built sub := by
  simp only [Ics721.executeCallback, ne_eq, not_true_eq_false, if_false] at executed
  cases callback with
  | createVouchers receiver create =>
      rcases spared.create permitted with ⟨different, minting⟩
      simp only [callbackCreateVouchers, Except.ok.injEq, Prod.mk.injEq] at executed
      rcases executed with ⟨rfl, rfl⟩
      constructor
      · constructor
        · exact remembers.code
        · exact remembers.collection
        · exact remembers.class_
        · intro query cls found
          simp only [StoreMap.save_apply] at found
          split at found
          next same =>
            cases found
            exact same.symm
          next => exact remembers.ids found
        · exact remembers.there
        · exact remembers.isVoucher
        · simp only [StoreMap.save_of_ne (Ne.symm different)]
          exact remembers.record
        · exact remembers.metadata
        · exact remembers.uri
        · exact remembers.packets
      · intro sub member
        simp only [List.mem_append, List.mem_singleton] at member
        rcases member with instantiation | rfl
        · split at instantiation
          next => cases instantiation
          next =>
            rw [List.mem_singleton.mp instantiation, remembers.code]
            apply CarriedVoucher.Leaves.collection
            intro same
            apply different
            cases id_ : create.cls.id
            rw [id_] at same
            exact congrArg ClassId.mk same
        · exact .callback minting
  | redeemVouchers receiver redeem =>
      simp only [callbackRedeemVouchers, bind_eq_ok, mapError_eq_ok, pure_eq_ok,
        Prod.mk.injEq] at executed
      rcases executed with ⟨contract, -, owner, -, rfl, rfl⟩
      refine ⟨remembers, ?_⟩
      intro sub member
      simp only [List.map_map, List.mem_map, Function.comp_apply] at member
      rcases member with ⟨tokenId, -, rfl⟩
      exact .cw721 (by simp)
  | mint classId receiver tokens =>
      have different := spared.mint permitted
      simp only [callbackMint, bind_eq_ok, mapError_eq_ok, pure_eq_ok,
        Prod.mk.injEq] at executed
      rcases executed with ⟨owner, -, contract, loaded, rfl, rfl⟩
      have entry := Storage.loadNftContract_eq_ok.mp loaded
      constructor
      · refine remembers.withStorage rfl rfl rfl rfl ?_ fun _ => id
        apply StoreMap.foldl_save_of_not_mem
        intro token listed same
        exact different (congrArg Prod.fst same)
      · intro sub member
        simp only [List.map_map, List.mem_map, Function.comp_apply] at member
        rcases member with ⟨token, -, rfl⟩
        apply CarriedVoucher.Leaves.cw721
        intro same
        rw [same] at entry
        exact absurd ((remembers.collection classId).mp entry) different
  | conjunction operands =>
      simp only [Except.ok.injEq, Prod.mk.injEq] at executed
      rcases executed with ⟨rfl, rfl⟩
      refine ⟨remembers, ?_⟩
      intro sub member
      rcases List.mem_map.mp member with ⟨msg, operand, rfl⟩
      rcases spared.conjunction permitted msg operand with ⟨called, rfl, allowed⟩
      exact .callback allowed

/-- The bridge hands a packet to IBC core. -/
theorem sendPacket (remembers : Remembers uris voucher old world) {channelId : String}
    {data : Binary} {timeout : IbcTimeout} {after : World σ}
    (faithful : voucher.Faithful chain.api data)
    (accepted : chain.sendPacket world channelId data timeout = .ok after) :
    Remembers uris voucher old after := by
  unfold Chain.sendPacket at accepted
  split at accepted
  next => cases accepted
  next =>
    cases accepted
    refine { remembers with packets := ?_ }
    intro packet member recent
    rcases List.mem_append.mp member with before | last
    · exact remembers.packets packet before recent
    · rw [List.mem_singleton.mp last]
      exact ⟨rfl, faithful⟩

/-- A collection that the bridge has instantiated is registered in the reply. -/
theorem replyInstantiateCw721 (lawful : Lawful chain contracts codeId)
    (remembers : Remembers uris voucher old world) {name symbol : String} {contract : Addr}
    (different : name ≠ voucher.cls.id.id) {outcome : Reaction σ CosmosMsg ReplyData}
    {storage : Storage} {response : Response}
    (instantiated : contracts.instantiate world.storage world.contracts chain.bridge codeId
      (.cw721 ⟨name, symbol, chain.bridge.addr⟩) = .ok (contract, outcome))
    (later : Remembers uris voucher old { world with contracts := outcome.world })
    (replied : Ics721.replyInstantiateCw721 chain.api (contracts.querier outcome.world)
      world.storage ⟨instantiateCw721ReplyId, .ok (some (.instantiated contract.addr))⟩ =
        .ok (storage, response)) :
    Remembers uris voucher old { world with storage := storage, contracts := outcome.world } := by
  rcases lawful.instantiate_fresh instantiated with ⟨unused, -, -⟩
  have fresh : contract ≠ voucher.contract := by
    rintro rfl
    rw [remembers.there] at unused
    cases unused
  simp only [Ics721.replyInstantiateCw721, parseReplyInstantiateData, mapError_ok, ok_bind,
    bind_eq_ok, mapError_eq_ok, Api.addrValidate_eq_ok, pure_eq_ok, Prod.mk.injEq] at replied
  rcases replied with ⟨_, ⟨-, rfl⟩, found, queried, rfl, -⟩
  have given := (lawful.instantiate_cw721 instantiated).2 found queried
  simp only at given
  refine later.register ?_ fresh rfl rfl rfl (.inl rfl) rfl
  intro same
  apply different
  rw [← given, ← same]

end Remembers

/-- The metadata of a voucher stays where it is in the course of every transaction that does
not concern its class. -/
def remembersRules (lawful : Lawful chain contracts codeId)
    (uris : VoucherUris chain contracts codeId) {voucher : CarriedVoucher}
    (slash : '/' ∈ voucher.cls.id.id.toList) (old : List IbcPacket)
    {built : CallbackMsg → Prop} (spared : voucher.Spared chain.bridge built) :
    BridgeRules chain contracts where
  holds := Remembers uris voucher old
  grows _ _ := True
  own _ := voucher.Leaves chain codeId built
  refl _ := trivial
  trans _ _ := trivial
  own_kept own _ := own
  called := by
    intro world caller contract msg sub outcome remembers own content different ran
    refine ⟨remembers.withContracts (lawful.execute_kept ran) (uris.execute_kept ran) ?_, trivial⟩
    intro present
    rcases uris.minted ran remembers.isVoucher present with before | ⟨same, self, owner, uri, rfl⟩
    · exact ⟨before, uris.execute_uri ran remembers.isVoucher before present⟩
    · have leaves := own self
      generalize sub = emitted at leaves content
      cases leaves with
      | cw721 other =>
          cases content
          exact absurd rfl (other same _ _)
      | callback => cases content
      | acked => cases content
      | collection => cases content
      | proxy => cases content
      | packet => cases content
  instantiated := by
    intro world caller contract admin code msg label sub outcome remembers _ _ ran
    refine ⟨remembers.withContracts (lawful.instantiate_kept ran) (uris.instantiate_kept ran) ?_,
      trivial⟩
    intro present
    have before := uris.instantiate_has ran remembers.isVoucher present
    exact ⟨before, uris.instantiate_uri ran remembers.isVoucher before present⟩
  answered := by
    intro world caller id_ result outcome remembers _ ran
    refine ⟨remembers.withContracts (lawful.reply_kept ran) (uris.reply_kept ran) ?_, trivial⟩
    intro present
    have before := uris.reply_has ran remembers.isVoucher present
    exact ⟨before, uris.reply_uri ran remembers.isVoucher before present⟩
  sent := by
    intro world caller msg record storage response remembers _ _ _ received
    rcases remembers.receiveNft lawful slash received with ⟨kept, leaves⟩
    exact ⟨{ kept with }, trivial, leaves⟩
  packet := by
    intro world after sub channelId data timeout remembers leaves content accepted
    cases leaves with
    | packet channelId timeout faithful =>
        cases content
        exact ⟨remembers.sendPacket faithful accepted, trivial⟩
    | cw721 => cases content
    | callback => cases content
    | acked => cases content
    | collection => cases content
    | proxy => cases content
  paused := by
    intro world caller storage remembers _ paused
    simp only [Storage.pause, bind_eq_ok, ite_error_eq_ok, pure_eq_ok] at paused
    rcases paused with ⟨-, -, -, rfl⟩
    exact ⟨remembers.withStorage rfl rfl rfl rfl rfl fun _ => id, trivial⟩
  callback := by
    intro world sub callback storage response remembers _ leaves content executed
    rcases remembers.executeCallback spared (leaves.of_callback content) executed with
      ⟨kept, emitted⟩
    exact ⟨kept, trivial, emitted⟩
  replied := by
    intro world after sub data storage response remembers leaves later _ answers called replied
    have silent := reply_messages replied
    cases leaves with
    | cw721 => cases called
    | callback => cases called
    | packet => cases called
    | acked =>
        rw [reply_ackSuccess] at replied
        cases replied
        exact ⟨later, trivial, by simp⟩
    | proxy =>
        rw [reply_instantiateProxy] at replied
        simp only [replyInstantiateProxy, bind_eq_ok, pure_eq_ok, Prod.mk.injEq] at replied
        rcases replied with ⟨_, -, _, -, rfl, -⟩
        exact ⟨later.withStorage rfl rfl rfl rfl rfl fun _ => id, trivial, by simp [silent]⟩
    | collection symbol label different =>
        rcases answers _ _ _ _ rfl with ⟨contract, outcome, instantiated, at_once⟩
        rcases at_once (lawful.instantiate_cw721 instantiated).1 with ⟨rfl, rfl⟩
        rw [reply_instantiateCw721] at replied
        exact ⟨remembers.replyInstantiateCw721 lawful different instantiated later replied, trivial,
          by simp [silent]⟩
  caught := by
    intro world sub error storage response leaves remembers called replied
    cases leaves with
    | cw721 => cases called
    | callback => cases called
    | packet => cases called
    | proxy => cases called
    | collection => cases called
    | acked =>
        rw [reply_ackFail] at replied
        cases replied
        exact ⟨remembers, trivial, by simp⟩

/-! ## Steps -/

namespace Remembers

variable {voucher : CarriedVoucher} {old : List IbcPacket} {after : World σ}

/-- A packet of another class is received. -/
theorem receive (lawful : Lawful chain contracts codeId)
    (slash : '/' ∈ voucher.cls.id.id.toList) (remembers : Remembers uris voucher old world)
    {packet : IbcPacket} {ack : Binary}
    (unrelated : Unrelated chain.api voucher.cls.id (.receive packet))
    (done : chain.receiveTx contracts world packet = .ok (after, ack)) :
    Remembers uris voucher old after := by
  cases checked : checkIbcPacket chain.api world.storage packet with
  | error error =>
      rw [Chain.receiveTx_eq, checked] at done
      cases done
      exact remembers
  | ok outcome =>
      rcases outcome with ⟨data, receiver⟩
      have other := unrelated packet data rfl (checkIbcPacket_eq_ok.mp checked).2.1
      have folded := sameButTransit_selectFrom packet.dest data.classId
        (tryPopSourcePrefix packet.src data.classId.id) world.storage data.incoming
      rw [← selectActions_eq] at folded
      have spared : voucher.Spared chain.bridge (Built chain.bridge receiver
          (data.aggregate (selectActions packet data world.storage).2)) := by
        apply CarriedVoucher.spared_built
        intro create present same
        rw [creation_record present] at same
        exact other same
      apply (remembersRules lawful uris slash old spared).receiveTx lawful remembers _ done
      intro again owner accepted
      rw [checked] at accepted
      cases accepted
      constructor
      · exact remembers.withStorage folded.code folded.contracts folded.classes folded.records
          (congrFun folded.metadata _) fun _ => id
      · rcases Own.of_message (data.aggregate (selectActions packet data world.storage).2)
          chain.bridge receiver with ⟨callback, message, permitted⟩
        rw [ActionAggregator.intoSubmessage, message]
        exact .acked permitted

/-- Something is run that mints nothing. -/
theorem runMessages (lawful : Lawful chain contracts codeId)
    (slash : '/' ∈ voucher.cls.id.id.toList) (remembers : Remembers uris voucher old world)
    {messages : List (SubMsg CosmosMsg)} {data : Option ReplyData}
    {result : World σ × Option ReplyData}
    (leaves : ∀ sub ∈ messages, voucher.Leaves chain codeId Never sub)
    (ran : chain.runMessages contracts world messages data = .ok result) :
    Remembers uris voucher old result.1 :=
  ((remembersRules lawful uris slash old (CarriedVoucher.spared_never chain.bridge)).runMessages
    lawful remembers leaves ran).1

/-- A packet that failed is refunded. -/
theorem fail (lawful : Lawful chain contracts codeId)
    (slash : '/' ∈ voucher.cls.id.id.toList) (remembers : Remembers uris voucher old world)
    {packet : IbcPacket} {error : String}
    (done : chain.settleTx contracts world packet
      (fun storage packet => handlePacketFail chain.api storage packet error) = .ok after) :
    Remembers uris voucher old after := by
  rcases dispatched_of_settleTx done with ⟨storage, response, result, -, handled, ran, rfl⟩
  simp only [handlePacketFail, bind_eq_ok, mapError_eq_ok, pure_eq_ok, Prod.mk.injEq] at handled
  rcases handled with ⟨message, -, contract, -, sender, -, rfl, rfl⟩
  refine runMessages lawful slash ?_ ?_ ran
  · exact remembers.withStorage rfl rfl rfl rfl rfl fun _ => List.mem_of_mem_erase
  · intro sub member
    simp only [List.map_map, List.mem_map, Function.comp_apply] at member
    rcases member with ⟨tokenId, -, rfl⟩
    exact .cw721 (by simp)

/-- A token was burned.  If it was the voucher, there is nothing left to describe. -/
theorem burned (lawful : Lawful chain contracts codeId)
    (remembers : Remembers uris voucher old world)
    {classId : ClassId} {contract : Addr} {tokenId : TokenId}
    {outcome : Reaction σ CosmosMsg ReplyData} {storage : Storage} {commitments : List IbcPacket}
    (entry : world.storage.classIdToNftContract classId = some contract)
    (executed : contracts.execute storage world.contracts chain.bridge contract
      (.cw721 (.burn tokenId)) = .ok outcome)
    (fewer : ∀ packet ∈ commitments, packet ∈ world.commitments) :
    Remembers uris voucher old { world with
      storage := { world.storage with
        incomingClassTokenToChannel := world.storage.incomingClassTokenToChannel.remove
          (classId, tokenId)
        tokenMetadata := world.storage.tokenMetadata.remove (classId, tokenId) }
      contracts := outcome.world
      commitments := commitments } := by
  have unminted : uris.has outcome.world voucher.contract voucher.token.id →
      uris.has world.contracts voucher.contract voucher.token.id := by
    intro present
    rcases uris.minted executed remembers.isVoucher present with before | ⟨-, -, _, _, mints⟩
    · exact before
    · cases mints
  constructor
  · exact remembers.code
  · exact remembers.collection
  · exact remembers.class_
  · exact remembers.ids
  · exact lawful.execute_kept executed remembers.there
  · exact uris.execute_kept executed remembers.isVoucher
  · exact remembers.record
  · intro present
    have other : (voucher.cls.id, voucher.token.id) ≠ (classId, tokenId) := by
      intro same
      rw [Prod.mk.injEq] at same
      rcases same with ⟨rfl, rfl⟩
      have own := (remembers.collection voucher.cls.id).mpr rfl
      rw [entry] at own
      cases own
      exact uris.burned remembers.isVoucher executed present
    simp only [StoreMap.remove_of_ne other]
    exact remembers.metadata (unminted present)
  · intro present
    have before := unminted present
    have same := uris.execute_uri executed remembers.isVoucher before present
    exact same.trans (remembers.uri before)
  · exact fun packet member => remembers.packets packet (fewer packet member)

/-- A packet that arrived is settled. -/
theorem succeed (lawful : Lawful chain contracts codeId)
    (slash : '/' ∈ voucher.cls.id.id.toList) (remembers : Remembers uris voucher old world)
    (sound : Sound chain contracts codeId world) {packet : IbcPacket}
    (done : chain.settleTx contracts world packet (handlePacketSuccess chain.api) = .ok after) :
    Remembers uris voucher old after := by
  rcases dispatched_of_settleTx done with ⟨storage, response, result, pending, handled, ran, rfl⟩
  rcases sound.emitted lawful pending [] with ⟨record, data, -, emitted⟩
  simp only [List.foldl_nil] at emitted
  by_cases came : world.storage.incomingClassTokenToChannel (data.classId, record.tokenId) =
      some packet.src.channelId
  · rcases emitted.burns came with ⟨attributes, burns⟩
    rw [handled] at burns
    simp only [Except.ok.injEq, Prod.mk.injEq] at burns
    rcases burns with ⟨rfl, rfl⟩
    rcases runMessages_cw721 ran with ⟨outcome, inner, different, executed, rest, reached⟩
    have start := remembers.burned lawful emitted.registered executed
      fun other (member : other ∈ world.commitments.erase packet) => List.mem_of_mem_erase member
    rw [reached]
    exact (((remembersRules lawful uris slash old
      (CarriedVoucher.spared_never chain.bridge)).toRules lawful).dispatch
        ⟨start, fun self => absurd self different⟩ rest).1
  · rcases emitted.keeps came with ⟨attributes, keeps⟩
    rw [handled] at keeps
    simp only [Except.ok.injEq, Prod.mk.injEq] at keeps
    rcases keeps with ⟨rfl, rfl⟩
    refine runMessages lawful slash ?_ ?_ ran
    · exact remembers.withStorage rfl rfl rfl rfl rfl fun _ => List.mem_of_mem_erase
    · simp

/-- Only packets of the class change what belongs to the voucher. -/
theorem step (lawful : Lawful chain contracts codeId)
    (slash : '/' ∈ voucher.cls.id.id.toList) (remembers : Remembers uris voucher old world)
    (sound : Sound chain contracts codeId world) {label : Chain.Label}
    (unrelated : Unrelated chain.api voucher.cls.id label) :
    Remembers uris voucher old (chain.step contracts world label) := by
  have done := transacted chain contracts world label
  generalize chain.step contracts world label = after at done
  cases done with
  | stayed => exact remembers
  | executed account done =>
      exact ((remembersRules lawful uris slash old
        (CarriedVoucher.spared_never chain.bridge)).executeTx lawful account remembers done).1
  | received _ done => exact remembers.receive lawful slash unrelated done
  | refused _ done => exact remembers.fail lawful slash done
  | accepted _ done => exact remembers.succeed lawful slash sound done
  | timedOut done => exact remembers.fail lawful slash done
  | @migrated msg _ done =>
      cases msg with
      | withUpdate pauser proxy =>
          simp only [Chain.migrateTx, migrate, Storage.setPauser, bind_eq_ok, mapError_eq_ok,
            pure_eq_ok] at done
          rcases done with ⟨_, ⟨_, -, _, ⟨_, -, rfl⟩, rfl⟩, rfl⟩
          exact remembers.withStorage rfl rfl rfl rfl rfl fun _ => id

/-- The metadata stays where it is in the course of every run in which no packet of the class
arrives. -/
theorem run (lawful : Lawful chain contracts codeId)
    (slash : '/' ∈ voucher.cls.id.id.toList) (remembers : Remembers uris voucher old world)
    (sound : Sound chain contracts codeId world) {labels : List Chain.Label}
    (unrelated : ∀ label ∈ labels, Unrelated chain.api voucher.cls.id label) :
    Remembers uris voucher old (labels.foldl (chain.step contracts) world) ∧
      Sound chain contracts codeId (labels.foldl (chain.step contracts) world) := by
  have kept : ∀ (world : World σ) label,
      (Remembers uris voucher old world ∧ Sound chain contracts codeId world) →
      Unrelated chain.api voucher.cls.id label →
      Remembers uris voucher old (chain.step contracts world label) ∧
        Sound chain contracts codeId (chain.step contracts world label) :=
    fun world label both unrelated =>
      ⟨both.1.step lawful slash both.2 unrelated, (both.2.step lawful label).1⟩
  exact Follows.invariant kept (follows_of_mem unrelated) ⟨remembers, sound⟩

end Remembers

/-! ## Reception -/

/-- When a packet has been acknowledged with success, what belongs to a voucher that it created
is where it should be. -/
theorem remembers_of_receiveTx (lawful : Lawful chain contracts codeId)
    (booked : Booked uris.toVoucherContracts world) (sound : Sound chain contracts codeId world)
    {packet : IbcPacket} {data : NonFungibleTokenPacketData} {after : World σ}
    (port : packet.dest.portId = chain.portId) (channel : '/' ∉ packet.dest.channelId.toList)
    (decoded : chain.api.packetData.fromBinary packet.data = .ok data)
    (done : chain.receiveTx contracts world packet = .ok (after, ackSuccess chain.api))
    {tokenId : TokenId} {index : Nat} (place : data.tokenIds[index]? = some tokenId)
    (once : ∀ other, data.tokenIds[other]? = some tokenId → other = index)
    (creates : data.redeems packet world.storage index = false) :
    ∃ contract, Remembers uris
      ⟨data.carriedClass packet.dest, contract, data.tokenAt tokenId index⟩ after.commitments
      after := by
  have final := (sound.receiveTx lawful done).1
  rcases delivered_of_success done with ⟨other, receiver, reply, checked, delivered⟩
  rcases checkIbcPacket_eq_ok.mp checked with ⟨-, same, valid, -⟩
  rw [decoded] at same
  cases same
  have nonempty := (NonFungibleTokenPacketData.validate_eq_ok.mp valid).1
  rcases NonFungibleTokenPacketData.created_once place once creates with ⟨created, agree⟩
  have present := creation_of_delivered valid created
  have stocked := stocked_selectActions packet data world.storage
  have slash := slash_mem_voucherClassId packet.dest data.classId
  have record := deliver_record lawful present slash delivered
  rcases deliver_create present delivered with
    ⟨redeems, depth, inner, before, callbacks, redeemed, minted⟩
  have keeps : KeepsBooks uris.toVoucherContracts _ (Built chain.bridge receiver
      (data.aggregate (selectActions packet data world.storage).2)) := keepsBooks_built stocked
  let rules := bookRules lawful uris.toVoucherContracts _ keeps
  have ready : rules.Ready chain.bridge
      { world with storage := (selectActions packet data world.storage).1 } redeems := by
    refine ⟨⟨booked.noted port channel nonempty, rfl⟩, ?_⟩
    intro _ sub member
    rcases callbacks sub member with ⟨callback, permitted, rfl⟩
    exact .callback permitted
  have books : Booked uris.toVoucherContracts before.1 ∧
      before.1.storage.incomingClassTokenToChannel = _ :=
    ((rules.toRules lawful).dispatch ready redeemed).1
  rcases runOne_create_tokens lawful books.1 (books.2 ▸ stocked) present minted created agree with
    ⟨contract, entry, isVoucher, metadata, uri⟩
  refine ⟨contract, ?_⟩
  constructor
  · exact final.registry.code
  · intro classId
    constructor
    · intro found
      exact final.registry.contract_inj found entry
    · rintro rfl
      exact entry
  · intro query
    constructor
    · intro found
      have other := (final.registry.inverse _ _).mpr found
      exact Option.some.inj (other.symm.trans entry)
    · rintro rfl
      exact (final.registry.inverse _ _).mp entry
  · exact final.registry.class_id
  · exact final.registry.contract_known entry
  · exact isVoucher
  · exact record
  · exact fun _ => metadata
  · exact uri
  · exact fun packet member recent => absurd member recent

end Rules

/-! ## cw721-base -/

/-- The URI of an NFT stays what it is for as long as the NFT is there. -/
theorem Collection.execute_tokenUri {api : Api} {collection after : Collection} {sender : Addr}
    {msg : Cw721ExecuteMsg} {tokenId : TokenId} {old new : TokenInfo}
    (executed : collection.execute api sender msg = .ok after)
    (before : collection.tokens tokenId = some old) (later : after.tokens tokenId = some new) :
    new.tokenUri = old.tokenUri := by
  have saved : ∀ {moved : TokenId} {found next : TokenInfo},
      collection.tokens moved = some found →
      collection.tokens.save moved next tokenId = some new → next.tokenUri = found.tokenUri →
      new.tokenUri = old.tokenUri := by
    intro moved found next there entry same
    rw [StoreMap.save_apply] at entry
    split at entry
    next own =>
      cases entry
      rw [own, there] at before
      cases before
      exact same
    next =>
      rw [before] at entry
      cases entry
      rfl
  cases msg with
  | mint minted owner tokenUri =>
      rcases Collection.mint_eq_ok.mp executed with ⟨-, -, unused, rfl⟩
      have other : tokenId ≠ minted := by
        rintro rfl
        rw [before] at unused
        cases unused
      simp only [StoreMap.save_of_ne other, before, Option.some.injEq] at later
      rw [later]
  | burn burned =>
      rcases Collection.burn_eq_ok.mp executed with ⟨token, -, -, rfl⟩
      have same := StoreMap.of_remove later
      rw [before] at same
      cases same
      rfl
  | transferNft recipient moved =>
      rcases Collection.transferNft_eq_ok.mp executed with ⟨token, there, -, -, rfl⟩
      exact saved there later rfl
  | sendNft contract moved msg =>
      rcases Collection.transferNft_eq_ok.mp executed with ⟨token, there, -, -, rfl⟩
      exact saved there later rfl
  | approve spender moved =>
      rcases Collection.updateApprovals_eq_ok executed with ⟨token, approvals, there, -, rfl⟩
      exact saved there later rfl
  | revoke spender moved =>
      rcases Collection.updateApprovals_eq_ok executed with ⟨token, approvals, there, -, rfl⟩
      exact saved there later rfl
  | approveAll operator =>
      rcases Collection.updateOperators_eq_ok executed with ⟨operators, rfl, -⟩
      rw [before] at later
      cases later
      rfl
  | revokeAll operator =>
      rcases Collection.updateOperators_eq_ok executed with ⟨operators, rfl, -⟩
      rw [before] at later
      cases later
      rfl

namespace Deployment

variable {deployment : Deployment} {contracts : Contracts Ledger}

/-- The URIs of vouchers on a chain with cw721-base contracts. -/
def voucherUris (conforms : Conforms deployment.contracts contracts) (codeId : Nat) :
    VoucherUris deployment.toChain contracts codeId where
  toVoucherContracts := voucherContracts conforms codeId
  uri ledger contract tokenId :=
    (ledger.nfts deployment.api (contract, tokenId)).bind TokenInfo.tokenUri
  told := by
    intro ledger contract tokenId answer _ queried
    have answered := conforms.nftInfo queried
    simp only [Deployment.contracts] at answered
    split at answered
    next token present =>
      cases answered
      exact ⟨by simp [voucherContracts, present], by simp [present]⟩
    next => cases answered
  execute_uri := by
    intro storage ledger sender contract msg reaction executed other tokenId _ before later
    rcases execute_cw721 conforms executed with ⟨call, collection, next, rfl, found, done, after⟩
    rcases Option.ne_none_iff_exists'.mp before with ⟨old, there⟩
    rcases Option.ne_none_iff_exists'.mp later with ⟨new, still⟩
    simp only [there, still, Option.bind_some]
    simp only [Ledger.nfts, after] at there still
    split at still
    next same =>
      subst same
      rw [found] at there
      exact Collection.execute_tokenUri done there still
    next =>
      rw [there] at still
      cases still
      rfl
  reply_uri := by
    intro storage ledger contract id_ result reaction replied
    cases conforms.reply replied
  instantiate_uri := by
    intro storage ledger sender code msg contract reaction instantiated other tokenId _ _ _
    rcases instantiate_cw721 conforms instantiated with ⟨init, -, -, -, tokens⟩
    rw [tokens]
  mint := by
    intro storage ledger contract tokenId owner minted reaction _ executed
    rcases execute_cw721 conforms executed with ⟨call, collection, next, same, -, done, after⟩
    cases same
    rcases Collection.mint_eq_ok.mp done with ⟨-, -, -, rfl⟩
    constructor
    · have ran := conforms.execute executed
      simp only [Deployment.contracts, bind_eq_ok, pure_eq_ok] at ran
      rcases ran with ⟨ledger, -, rfl⟩
      rfl
    · simp [Ledger.nfts, after]

end Deployment

end Ics721
