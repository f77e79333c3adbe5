import Ics721.Bridge.Rules
import Ics721.Chain.Sample
import Ics721.Cw721.Conformance
import Ics721.Receive.Attributes
import Ics721.Receive.Partition
import Ics721.Receive.Transaction
import Ics721.Settlement.Emitted

/-!
# What one bridge sends, another accepts

The bridge does not validate the packets it sends.  Their class metadata comes from whatever
earlier packets stored, their token data from another map and their URI from the collection.
Still they pass the validation of a receiving bridge, because nothing that fails it is ever
stored.
-/

namespace Ics721

open Library

variable {σ : Type}

/-- The record of a class has nothing that a packet may not have. -/
def Class.Valid (cls : Class) : Prop :=
  cls.id.id ≠ "" ∧ cls.uri ≠ some "" ∧ cls.data ≠ some []

/-- The bytes are a packet with one token that passes validation. -/
def Postable (api : Api) (bytes : Binary) : Prop :=
  ∃ data tokenId, bytes = api.packetData.toBinary data ∧ data.tokenIds = [tokenId] ∧
    data.validate = .ok ()

/-- All records of classes and all packets under way are valid. -/
structure Presentable (api : Api) (world : World σ) : Prop where
  records : ∀ {classId cls}, world.storage.classIdToClass classId = some cls → cls.Valid
  packets : ∀ packet ∈ world.commitments, Postable api packet.data

theorem Presentable.of_records {api : Api} {world after : World σ}
    (presentable : Presentable api world)
    (records : after.storage.classIdToClass = world.storage.classIdToClass)
    (packets : after.commitments = world.commitments) : Presentable api after where
  records := by
    rw [records]
    exact presentable.records
  packets := by
    rw [packets]
    exact presentable.packets

theorem Presentable.saveClass {api : Api} {world : World σ} {storage : Storage} {cls : Class}
    (presentable : Presentable api world) (valid : cls.Valid)
    (saved : storage.classIdToClass = world.storage.classIdToClass.save cls.id cls) :
    Presentable api { world with storage := storage } where
  records := by
    intro classId found recorded
    simp only [saved, StoreMap.save_apply] at recorded
    split at recorded
    next =>
      cases recorded
      exact valid
    next => exact presentable.records recorded
  packets := presentable.packets

/-- What a request sends passes validation if the record of the class does. -/
theorem validate_outgoing {storage : Storage} {cls : Class} {tokenId : TokenId}
    {uri : Option String} {sender : Addr} {outgoing : IbcOutgoingMsg} (valid : cls.Valid) :
    (outgoingPacketData storage cls tokenId uri sender outgoing).validate = .ok () := by
  rw [NonFungibleTokenPacketData.validate_eq_ok]
  refine ⟨valid.1, valid.2.1, valid.2.2, ?_, ?_, ?_⟩
  · simp [outgoingPacketData]
  · intro list member
    simp only [outgoingPacketData, Option.mem_def, Option.map_eq_some_iff] at member
    rcases member with ⟨_, -, rfl⟩
    rfl
  · intro list member
    simp only [outgoingPacketData, Option.mem_def, Option.map_eq_some_iff] at member
    rcases member with ⟨_, -, rfl⟩
    rfl

/-- The class of a collection that sends an NFT. -/
theorem Presentable.classForContract {api : Api} {world : World σ} {contract : Addr}
    {storage : Storage} {cls : Class} (presentable : Presentable api world)
    (nonempty : contract.addr ≠ "")
    (selected : Ics721.classForContract world.storage contract = .ok (storage, cls)) :
    cls.Valid ∧ Presentable api { world with storage := storage } := by
  unfold Ics721.classForContract at selected
  split at selected
  next classId entry =>
    simp only [bind_eq_ok, Storage.loadClass_eq_ok, pure_eq_ok, Prod.mk.injEq] at selected
    rcases selected with ⟨found, recorded, rfl, rfl⟩
    exact ⟨presentable.records recorded, presentable⟩
  next =>
    simp only [Except.ok.injEq, Prod.mk.injEq] at selected
    rcases selected with ⟨rfl, rfl⟩
    have valid : Class.Valid ⟨⟨contract.addr⟩, none, none⟩ := ⟨nonempty, by simp, by simp⟩
    exact ⟨valid, presentable.saveClass valid rfl⟩

section Rules

variable {chain : Chain} {contracts : Contracts σ} {codeId : Nat}

/-- Messages of the bridge whose packets pass validation. -/
def Decent (chain : Chain) (built : CallbackMsg → Prop) (sub : SubMsg CosmosMsg) : Prop :=
  Own chain.bridge built sub ∨
    ∃ channelId data timeout, sub = (CosmosMsg.ibc (.sendPacket channelId data timeout)).sub ∧
      Postable chain.api data

/-- A request sends a packet that passes validation. -/
theorem Presentable.receiveNft (lawful : Lawful chain contracts codeId) {world : World σ}
    {record : SendRecord} {storage : Storage} {response : Response}
    {built : CallbackMsg → Prop} (presentable : Presentable chain.api world)
    (received : Ics721.receiveNft chain.api (contracts.querier world.contracts) world.storage
      record.contract record.tokenId record.sender record.msg = .ok (storage, response)) :
    Presentable chain.api { world with storage := storage } ∧
      ∀ sub ∈ response.messages, Decent chain built sub := by
  simp only [Ics721.receiveNft, bind_eq_ok, mapError_eq_ok, pure_eq_ok,
    Prod.mk.injEq] at received
  rcases received with ⟨sender, -, outgoing, -, ⟨registered, cls⟩, selected, uri, queried, rfl,
    rfl⟩
  have isContract := lawful.nftInfo_contract queried
  have nonempty := chain.api.valid_ne_empty _ (lawful.contract_valid isContract)
  rcases presentable.classForContract nonempty selected with ⟨valid, kept⟩
  refine ⟨⟨kept.records, kept.packets⟩, ?_⟩
  intro sub member
  rw [List.mem_singleton.mp member]
  exact .inr ⟨_, _, _, rfl, _, record.tokenId, rfl, rfl, validate_outgoing valid⟩

theorem Presentable.sendPacket {world after : World σ} {channelId : String} {data : Binary}
    {timeout : IbcTimeout} (presentable : Presentable chain.api world)
    (postable : Postable chain.api data)
    (accepted : chain.sendPacket world channelId data timeout = .ok after) :
    Presentable chain.api after := by
  unfold Chain.sendPacket at accepted
  split at accepted
  next => cases accepted
  next =>
    cases accepted
    refine ⟨presentable.records, ?_⟩
    intro packet member
    simp only [List.mem_append, List.mem_singleton] at member
    rcases member with before | rfl
    · exact presentable.packets packet before
    · exact postable

/-- The classes of what the bridge creates are valid. -/
def Creates (built : CallbackMsg → Prop) : Prop :=
  ∀ receiver create, built (.createVouchers receiver create) → create.cls.Valid

theorem Presentable.executeCallback {built : CallbackMsg → Prop} {world : World σ}
    {callback : CallbackMsg} {storage : Storage} {response : Response}
    (creates : Creates built) (presentable : Presentable chain.api world)
    (permitted : built callback)
    (executed : Ics721.executeCallback chain.api chain.bridge world.storage chain.bridge callback =
      .ok (storage, response)) :
    Presentable chain.api { world with storage := storage } := by
  simp only [Ics721.executeCallback, ne_eq, not_true_eq_false, if_false] at executed
  cases callback with
  | createVouchers receiver create =>
      simp only [callbackCreateVouchers, Except.ok.injEq, Prod.mk.injEq] at executed
      rcases executed with ⟨rfl, -⟩
      exact presentable.saveClass (creates receiver create permitted) rfl
  | redeemVouchers receiver redeem =>
      simp only [callbackRedeemVouchers, bind_eq_ok, pure_eq_ok, Prod.mk.injEq] at executed
      rcases executed with ⟨_, -, _, -, rfl, -⟩
      exact presentable
  | mint classId receiver tokens =>
      simp only [callbackMint, bind_eq_ok, pure_eq_ok, Prod.mk.injEq] at executed
      rcases executed with ⟨_, -, _, -, rfl, -⟩
      exact presentable.of_records rfl rfl
  | conjunction operands =>
      simp only [Except.ok.injEq, Prod.mk.injEq] at executed
      rcases executed with ⟨rfl, -⟩
      exact presentable

theorem reply_records {api : Api} {querier : Querier} {storage after : Storage} {answer : Reply}
    {response : Response} (replied : reply api querier storage answer = .ok (after, response)) :
    after.classIdToClass = storage.classIdToClass := by
  cases (reply_cases replied).1 with
  | same => rfl
  | registered => rfl
  | proxied => rfl

/-- Nothing that fails validation is stored or sent. -/
def presentableRules (lawful : Lawful chain contracts codeId) {built : CallbackMsg → Prop}
    (creates : Creates built) (closed : Closed chain.api chain.bridge built) :
    BridgeRules chain contracts where
  holds := Presentable chain.api
  grows _ _ := True
  own _ := Decent chain built
  refl _ := trivial
  trans _ _ := trivial
  own_kept own _ := own
  called holds _ _ _ _ := ⟨holds.of_records rfl rfl, trivial⟩
  instantiated holds _ _ _ := ⟨holds.of_records rfl rfl, trivial⟩
  answered holds _ _ := ⟨holds.of_records rfl rfl, trivial⟩
  sent holds _ _ _ received := by
    rcases holds.receiveNft lawful received with ⟨kept, decent⟩
    exact ⟨kept.of_records rfl rfl, trivial, decent⟩
  packet holds own content accepted := by
    rcases own with own | ⟨_, _, _, rfl, postable⟩
    · cases own <;> cases content
    · cases content
      exact ⟨holds.sendPacket postable accepted, trivial⟩
  paused holds _ paused := by
    simp only [Storage.pause, bind_eq_ok, ite_error_eq_ok, pure_eq_ok] at paused
    rcases paused with ⟨-, -, -, rfl⟩
    exact ⟨holds.of_records rfl rfl, trivial⟩
  callback holds _ own content executed := by
    rcases own with own | ⟨_, _, _, rfl, -⟩
    · have permitted := own.of_callback content
      refine ⟨holds.executeCallback creates permitted executed, trivial, ?_⟩
      intro sub member
      exact .inl (closed _ _ _ _ permitted executed sub member)
    · cases content
  replied _ _ holds _ _ _ replied := by
    refine ⟨holds.of_records (reply_records replied) rfl, trivial, ?_⟩
    simp [reply_messages replied]
  caught _ holds _ replied := by
    refine ⟨holds.of_records (reply_records replied) rfl, trivial, ?_⟩
    simp [reply_messages replied]

/-! ## Steps -/

theorem Presentable.withSettled {world : World σ} {storage : Storage} {packet : IbcPacket}
    (presentable : Presentable chain.api world)
    (records : storage.classIdToClass = world.storage.classIdToClass) :
    Presentable chain.api
      { world with storage := storage, commitments := world.commitments.erase packet } where
  records := by
    intro classId cls recorded
    simp only [records] at recorded
    exact presentable.records recorded
  packets other member := presentable.packets other (List.mem_of_mem_erase member)

theorem Presentable.fail (lawful : Lawful chain contracts codeId) {world after : World σ}
    {packet : IbcPacket} {error : String} (presentable : Presentable chain.api world)
    (done : chain.settleTx contracts world packet
      (fun storage packet => handlePacketFail chain.api storage packet error) = .ok after) :
    Presentable chain.api after := by
  have creates : Creates Never := fun _ _ never => False.elim never
  apply (presentableRules lawful creates closed_never).settleTx lawful _ done
  intro storage response _ handled
  have own := @Own.handlePacketFail _ chain.bridge Never _ _ _ _ _ handled
  simp only [handlePacketFail, bind_eq_ok, pure_eq_ok, Prod.mk.injEq] at handled
  rcases handled with ⟨message, -, contract, -, sender, -, rfl, -⟩
  exact ⟨presentable.withSettled rfl, fun sub member => .inl (own sub member)⟩

theorem Presentable.succeed (lawful : Lawful chain contracts codeId) {world after : World σ}
    {packet : IbcPacket} (presentable : Presentable chain.api world)
    (done : chain.settleTx contracts world packet (handlePacketSuccess chain.api) =
      .ok after) :
    Presentable chain.api after := by
  have creates : Creates Never := fun _ _ never => False.elim never
  apply (presentableRules lawful creates closed_never).settleTx lawful _ done
  intro storage response _ handled
  have own := @Own.handlePacketSuccess _ chain.bridge Never _ _ _ _ handled
  simp only [handlePacketSuccess, bind_eq_ok, pure_eq_ok, Prod.mk.injEq] at handled
  rcases handled with ⟨message, -, contract, -, rfl, -⟩
  rcases foldl_burnNotice message.classId packet.src.channelId contract message.tokenIds
    world.storage [] with ⟨burned, -, -, folded⟩
  rw [folded]
  exact ⟨presentable.withSettled rfl, fun sub member => .inl (own sub member)⟩

/-- The class that a valid packet creates vouchers of is valid. -/
theorem creates_built {packet : IbcPacket} {data : NonFungibleTokenPacketData}
    {storage : Storage} {bridge receiver : Addr} (valid : data.validate = .ok ()) :
    Creates (Built bridge receiver (data.aggregate (selectActions packet data storage).2)) := by
  intro owner create permitted
  cases permitted with
  | create present =>
      rw [data.aggregate_creation (uniform_selectActions packet data storage)] at present
      split at present
      next => cases present
      next =>
        cases present
        rcases NonFungibleTokenPacketData.validate_eq_ok.mp valid with ⟨-, uri, bytes, -⟩
        refine ⟨?_, uri, bytes⟩
        intro empty
        have slash := slash_mem_voucherClassId packet.dest data.classId
        rw [empty] at slash
        simp at slash

theorem Presentable.receive (lawful : Lawful chain contracts codeId) {world after : World σ}
    {packet : IbcPacket} {ack : Binary} (presentable : Presentable chain.api world)
    (done : chain.receiveTx contracts world packet = .ok (after, ack)) :
    Presentable chain.api after := by
  cases checked : checkIbcPacket chain.api world.storage packet with
  | error error =>
      have creates : Creates Never := fun _ _ never => False.elim never
      apply (presentableRules lawful creates closed_never).receiveTx lawful presentable _ done
      intro data receiver accepted
      rw [checked] at accepted
      cases accepted
  | ok outcome =>
      rcases outcome with ⟨data, receiver⟩
      have valid : data.validate = .ok () := (checkIbcPacket_eq_ok.mp checked).2.2.1
      have folded := sameButTransit_selectFrom packet.dest data.classId
        (tryPopSourcePrefix packet.src data.classId.id) world.storage data.incoming
      rw [← selectActions_eq] at folded
      apply (presentableRules lawful
        (@creates_built packet data world.storage chain.bridge receiver valid)
        Own.closed_built).receiveTx lawful presentable _ done
      intro other owner accepted
      rw [checked] at accepted
      cases accepted
      exact ⟨presentable.of_records folded.records rfl, .inl (Own.intoSubmessage _ _ _)⟩

theorem Presentable.step (lawful : Lawful chain contracts codeId) {world : World σ}
    (presentable : Presentable chain.api world) (label : Chain.Label) :
    Presentable chain.api (chain.step contracts world label) := by
  have done := transacted chain contracts world label
  generalize chain.step contracts world label = after at done
  cases done with
  | stayed => exact presentable
  | executed account done =>
      have creates : Creates Never := fun _ _ never => False.elim never
      exact ((presentableRules lawful creates closed_never).executeTx lawful account presentable
        done).1
  | received _ done => exact presentable.receive lawful done
  | refused _ done => exact presentable.fail lawful done
  | accepted _ done => exact presentable.succeed lawful done
  | timedOut done => exact presentable.fail lawful done
  | @migrated msg _ done =>
      cases msg with
      | withUpdate pauser proxy =>
          simp only [Chain.migrateTx, migrate, Storage.setPauser, bind_eq_ok, mapError_eq_ok,
            pure_eq_ok] at done
          rcases done with ⟨_, ⟨_, -, _, ⟨_, -, rfl⟩, rfl⟩, rfl⟩
          exact presentable.of_records rfl rfl

theorem Presentable.instantiateTx (lawful : Lawful chain contracts codeId)
    {msg : InstantiateMsg} {state : σ} {world : World σ}
    (instantiated : chain.instantiateTx contracts msg state = .ok world) :
    Presentable chain.api world := by
  simp only [Chain.instantiateTx, instantiate, Storage.setPauser, bind_eq_ok, mapError_eq_ok,
    pure_eq_ok] at instantiated
  rcases instantiated with ⟨⟨storage, response⟩, ⟨_, ⟨pauser, -, rfl⟩, rfl, rfl⟩, result, ran,
    rfl⟩
  have creates : Creates Never := fun _ _ never => False.elim never
  apply ((presentableRules lawful creates closed_never).runMessages lawful _ _ ran).1
  · exact ⟨by simp, by simp⟩
  · intro sub member
    simp only [Option.mem_toList, Option.map_eq_some_iff] at member
    rcases member with ⟨proxy, -, rfl⟩
    exact .inl (.proxy _ _ _ _)

end Rules

/-! ## The other end -/

/-- The receiving bridge sent the token out, as one of the class `classId`, on the channel that
the packet arrives on. -/
def ComesBack (storage : Storage) (packet : IbcPacket) (data : NonFungibleTokenPacketData)
    (tokenId : TokenId) (classId : ClassId) : Prop :=
  tryPopSourcePrefix packet.src data.classId.id = some classId.id ∧
    storage.outgoingClassTokenToChannel (classId, tokenId) = some packet.dest.channelId

/-- The submessage with which a bridge carries out what it decided. -/
def carriedOut (bridge : Addr) (callback : CallbackMsg) : SubMsg CosmosMsg :=
  ⟨.wasm (.execute bridge (.bridge (.callback callback))), .always, ackAndDoNothing⟩

/-- What a bridge does with a packet that carries one token, and nothing else: it redeems the
token if it comes back, and creates a voucher for it if not. -/
inductive TakesOne (api : Api) (bridge : Addr) (storage : Storage) (packet : IbcPacket)
    (data : NonFungibleTokenPacketData) (tokenId : TokenId) (response : IbcReceiveResponse) :
    Prop where
  | redeemed {classId : ClassId} (back : ComesBack storage packet data tokenId classId)
      (received : receiveIbcPacket api bridge storage packet =
        .ok ({ storage with
          outgoingClassTokenToChannel :=
            storage.outgoingClassTokenToChannel.remove (classId, tokenId) }, response))
      (messages : response.messages = [carriedOut bridge (.redeemVouchers data.receiver
        ⟨⟨classId, data.classUri, data.classData⟩, [tokenId]⟩)]) :
      TakesOne api bridge storage packet data tokenId response
  | created (new : ∀ classId, ¬ComesBack storage packet data tokenId classId)
      (received : receiveIbcPacket api bridge storage packet =
        .ok ({ storage with
          incomingClassTokenToChannel := storage.incomingClassTokenToChannel.save
            (voucherClassId packet.dest data.classId, tokenId) packet.dest.channelId }, response))
      (messages : response.messages = [carriedOut bridge (.createVouchers data.receiver
        ⟨⟨voucherClassId packet.dest data.classId, data.classUri, data.classData⟩,
          [data.tokenAt tokenId 0]⟩)]) :
      TakesOne api bridge storage packet data tokenId response

/-- The one token of a packet, with its URI and data. -/
theorem incoming_eq_tokenAt {data : NonFungibleTokenPacketData} {tokenId : TokenId}
    (valid : data.validate = .ok ()) (single : data.tokenIds = [tokenId]) :
    data.incoming =
      [((tokenId, (data.tokenAt tokenId 0).uri), (data.tokenAt tokenId 0).data)] := by
  apply List.ext_getElem?
  intro index
  rw [data.getElem?_incoming valid, single]
  cases index with
  | zero => rfl
  | succ later => rfl

theorem takesOne {api : Api} {bridge : Addr} {storage : Storage} {packet : IbcPacket}
    {data : NonFungibleTokenPacketData} {tokenId : TokenId}
    (decoded : api.packetData.fromBinary packet.data = .ok data)
    (valid : data.validate = .ok ()) (single : data.tokenIds = [tokenId])
    (running : storage.paused = false) (addressed : api.addrValid data.receiver = true) :
    ∃ response, TakesOne api bridge storage packet data tokenId response ∧
      (¬Blank data.classId.id → ¬Blank packet.dest.channelId → ¬Blank packet.src.channelId →
        (Admitted response.attributes ↔ MemoAdmitted data.memo)) := by
  have checked : checkIbcPacket api storage packet = .ok (data, ⟨data.receiver⟩) :=
    checkIbcPacket_eq_ok.mpr ⟨running, decoded, valid, addressed, rfl⟩
  have selected : selectActions packet data storage = _ := selectActions_eq packet data
  rw [incoming_eq_tokenAt valid single] at selected
  simp only [selectFrom] at selected
  rcases chooseAction_cases packet.dest data.classId
      (tryPopSourcePrefix packet.src data.classId.id) storage
      ((tokenId, (data.tokenAt tokenId 0).uri), (data.tokenAt tokenId 0).data) with
    ⟨classId, popped, sent, chosen⟩ | ⟨staying, chosen⟩
  · rw [chosen] at selected
    have received := receiveIbcPacket_of_checked bridge checked selected
    exact ⟨_, .redeemed ⟨popped, sent⟩ received rfl, admitted_iff⟩
  · rw [chosen] at selected
    have received := receiveIbcPacket_of_checked bridge checked selected
    refine ⟨_, .created ?_ received rfl, admitted_iff⟩
    intro classId back
    exact staying classId back.1 back.2

/-- A registered class has a name that can be seen. -/
theorem Sound.class_not_blank {chain : Chain} {contracts : Contracts σ} {codeId : Nat}
    {world : World σ} (lawful : Lawful chain contracts codeId)
    (sound : Sound chain contracts codeId world) (legible : chain.Legible) {classId : ClassId}
    {contract : Addr}
    (registered : world.storage.classIdToNftContract classId = some contract) :
    ¬Blank classId.id := by
  rcases sound.registry.shape registered with same | slash
  · rw [same]
    exact legible.address (lawful.contract_valid (sound.registry.contract_known registered))
  · intro blank
    have space := blank _ slash
    revert space
    decide

/-- Whatever the other contracts, the counterparties and the accounts of the chain do: every
packet the bridge has sent decodes to data that passes validation and names the class of the
collection that the token was sent from, and a bridge that is not paused turns it into one
redemption or one creation of that token.  The host accepts the response of that bridge unless
the sender attached a blank memo. -/
theorem emitted_accepted_of_run {chain : Chain} {contracts : Contracts σ}
    {msg : InstantiateMsg} (lawful : Lawful chain contracts msg.cw721BaseCodeId) {state : σ}
    {genesis : World σ} (instantiated : chain.instantiateTx contracts msg state = .ok genesis)
    (labels : List Chain.Label) {packet : IbcPacket}
    (emitted : packet ∈ (labels.foldl (chain.step contracts) genesis).commitments) :
    ∃ record data,
      (labels.foldl (chain.step contracts) genesis).sends[packet.sequence]? = some record ∧
      chain.api.packetData.fromBinary packet.data = .ok data ∧ data.validate = .ok () ∧
      (labels.foldl (chain.step contracts) genesis).storage.nftContractToClassId
        record.contract = some data.classId ∧
      ∀ (api : Api) (bridge : Addr) (storage : Storage),
        api.packetData = chain.api.packetData → storage.paused = false →
        api.addrValid data.receiver = true →
        ∃ response, TakesOne api bridge storage packet data record.tokenId response ∧
          (chain.Legible → ¬Blank packet.dest.channelId →
            (Admitted response.attributes ↔ MemoAdmitted data.memo)) := by
  have start : Presentable chain.api genesis := .instantiateTx lawful instantiated
  have kept : ∀ world label, Presentable chain.api world →
      Presentable chain.api (chain.step contracts world label) :=
    fun world label presentable => presentable.step lawful label
  have presentable := run_invariant kept labels start
  have sound := ((Sound.instantiateTx lawful rfl instantiated).run lawful labels).1
  rcases sound.emitted lawful emitted [] with ⟨record, data, sent, sentAs⟩
  rcases presentable.packets packet emitted with ⟨posted, tokenId, same, -, valid⟩
  have equal : posted = data := by
    have decoded := sentAs.decoded
    rw [same, Codec.from_to] at decoded
    exact Except.ok.inj decoded
  rw [equal] at valid
  refine ⟨record, data, sent, sentAs.decoded, valid,
    (sound.registry.inverse _ _).mp sentAs.registered, ?_⟩
  intro api bridge storage json running addressed
  have decoded := sentAs.decoded
  rw [← json] at decoded
  rcases takesOne decoded valid sentAs.tokens running addressed with ⟨response, takes, admitted⟩
  refine ⟨response, takes, ?_⟩
  intro legible near
  exact admitted (sound.class_not_blank lawful legible sentAs.registered) near
    (legible.channel sentAs.opened)

/-- Names on the sample chain can be seen. -/
theorem Sample.legible : Sample.chain.Legible where
  address := by
    intro text valid blank
    change Sample.addrValid text = true at valid
    simp only [Sample.addrValid, Bool.and_eq_true, List.all_eq_true, decide_eq_true_eq] at valid
    rcases List.exists_mem_of_length_pos (show 0 < text.toList.length by omega) with
      ⟨char, member⟩
    have seen := isSpace_of_lower_or_digit (valid.2 char member)
    rw [blank char member] at seen
    cases seen
  channel := by
    intro channelId opened
    simp only [chain, deployment, counterparty] at opened
    split at opened
    next same =>
      subst same
      decide
    next =>
      split at opened
      next same =>
        subst same
        decide
      next => exact absurd rfl opened

/-- Alice's NFT is on its way to Bob, without memo. -/
theorem emitted_accepted_of_sample :
    ∃ packet ∈ (Sample.run Sample.sent).commitments, ∃ record data,
      (Sample.run Sample.sent).sends[packet.sequence]? = some record ∧
        Sample.chain.api.packetData.fromBinary packet.data = .ok data ∧
        data.validate = .ok () ∧
        (Sample.run Sample.sent).storage.nftContractToClassId record.contract =
          some data.classId ∧
        ∀ (api : Api) (bridge : Addr) (storage : Storage),
          api.packetData = Sample.chain.api.packetData → storage.paused = false →
          api.addrValid data.receiver = true →
          ∃ response, TakesOne api bridge storage packet data record.tokenId response ∧
            Admitted response.attributes := by
  have observed : ∃ packet ∈ (Sample.run Sample.sent).commitments,
      Sample.api.packetData.fromBinary packet.data =
          .ok ⟨⟨"contract0"⟩, none, none, [⟨"gem"⟩], none, none, "alice", "bob", none⟩ ∧
        packet.dest.channelId = "channel-7" := by
    decide +kernel
  rcases observed with ⟨packet, emitted, read, far⟩
  rcases emitted_accepted_of_run (Deployment.lawful (.refl _) 1) Sample.instantiateTx_genesis
    Sample.sent emitted with ⟨record, data, sent, decoded, valid, named, takes⟩
  have reached : Sample.sent.foldl (Sample.chain.step Sample.chain.contracts) Sample.genesis =
      Sample.run Sample.sent := rfl
  rw [reached] at sent named
  refine ⟨packet, emitted, record, data, sent, decoded, valid, named, ?_⟩
  intro api bridge storage json running addressed
  rcases takes api bridge storage json running addressed with ⟨response, taken, admitted⟩
  have near : ¬Blank packet.dest.channelId := by
    rw [far]
    decide
  refine ⟨response, taken, (admitted Sample.legible near).mpr ?_⟩
  rw [Except.ok.inj (decoded.symm.trans read)]
  exact memoAdmitted_none

end Ics721
