import Ics721.Cw721.Conformance
import Ics721.Library.Lockstep
import Ics721.Receive.Partition

/-!
# Worlds that differ in one NFT

An NFT is in escrow in one world and with its owner in the other.  Whatever is not about this
NFT has the same outcome in both, and leaves them apart in the same way.  The class of the NFT
may be known in the first world only, in which case it is a local one.
-/

namespace Ics721

open Library

/-- An NFT under its class, as the two worlds have it. -/
structure Shipment where
  classId : ClassId
  tokenId : TokenId
  contract : Addr
  held : TokenInfo
  kept : TokenInfo

/-! ## Storages -/

/-- The class maps are the same, or only those on the left have the local class of the
contract. -/
inductive SameClasses (contract : Addr) (left right : Storage) : Prop where
  | same (collections : left.classIdToNftContract = right.classIdToNftContract)
      (classes : left.nftContractToClassId = right.nftContractToClassId)
      (records : left.classIdToClass = right.classIdToClass) :
      SameClasses contract left right
  | locally (slashless : '/' ∉ contract.addr.toList)
      (unknown : right.nftContractToClassId contract = none)
      (absent : right.classIdToNftContract ⟨contract.addr⟩ = none)
      (collections : left.classIdToNftContract =
        right.classIdToNftContract.save ⟨contract.addr⟩ contract)
      (classes : left.nftContractToClassId =
        right.nftContractToClassId.save contract ⟨contract.addr⟩)
      (records : left.classIdToClass =
        right.classIdToClass.save ⟨contract.addr⟩ ⟨⟨contract.addr⟩, none, none⟩) :
      SameClasses contract left right

/-- The storages of two bridges, of which the first has the NFT in escrow.  If `known`, both
know its class. -/
structure Apart (shipment : Shipment) (known : Prop) (left right : Storage) : Prop where
  code : left.cw721CodeId = right.cw721CodeId
  proxy : left.proxy = right.proxy
  pauser : left.pauser = right.pauser
  paused : left.paused = right.paused
  incoming : left.incomingClassTokenToChannel = right.incomingClassTokenToChannel
  metadata : left.tokenMetadata = right.tokenMetadata
  outgoing : ∀ key, key ≠ (shipment.classId, shipment.tokenId) →
    left.outgoingClassTokenToChannel key = right.outgoingClassTokenToChannel key
  classes : SameClasses shipment.contract left right
  collection : ∀ classId,
    left.classIdToNftContract classId = some shipment.contract ↔ classId = shipment.classId
  class_ : ∀ contract,
    left.nftContractToClassId contract = some shipment.classId ↔ contract = shipment.contract
  registered : known → right.classIdToNftContract shipment.classId ≠ none
  shape : shipment.classId.id = shipment.contract.addr ∨ '/' ∈ shipment.classId.id.toList

namespace Apart

variable {shipment : Shipment} {known : Prop} {left right : Storage}

/-- A class that only the first storage knows is local. -/
theorem local_class {contract : Addr} (apart : Apart shipment known left right)
    (collections : left.classIdToNftContract =
      right.classIdToNftContract.save ⟨contract.addr⟩ contract)
    (own : contract = shipment.contract) : (⟨contract.addr⟩ : ClassId) = shipment.classId := by
  rw [← apart.collection, collections, StoreMap.save_self, own]

/-- The collection of a class that is not local, or known to both. -/
theorem collections_eq (apart : Apart shipment known left right) {classId : ClassId}
    (either : '/' ∈ classId.id.toList ∨ classId ≠ shipment.classId ∨
      right.classIdToNftContract classId ≠ none) :
    left.classIdToNftContract classId = right.classIdToNftContract classId := by
  cases apart.classes with
  | same collections classes records => rw [collections]
  | locally slashless unknown absent collections classes records =>
      have own := apart.local_class collections rfl
      rw [collections, StoreMap.save_of_ne]
      rintro rfl
      rcases either with slash | different | both
      · exact slashless slash
      · exact different own
      · exact both absent

theorem records_eq (apart : Apart shipment known left right) {classId : ClassId}
    (different : classId ≠ shipment.classId) :
    left.classIdToClass classId = right.classIdToClass classId := by
  cases apart.classes with
  | same collections classes records => rw [records]
  | locally slashless unknown absent collections classes records =>
      have own := apart.local_class collections rfl
      rw [records, StoreMap.save_of_ne]
      rw [own]
      exact different

theorem classes_eq (apart : Apart shipment known left right) {contract : Addr}
    (different : contract ≠ shipment.contract) :
    left.nftContractToClassId contract = right.nftContractToClassId contract := by
  cases apart.classes with
  | same collections classes records => rw [classes]
  | locally slashless unknown absent collections classes records =>
      rw [classes, StoreMap.save_of_ne different]

/-- Nothing was registered or recorded on either side. -/
theorem of_same (apart : Apart shipment known left right) {leftAfter rightAfter : Storage}
    (code : leftAfter.cw721CodeId = rightAfter.cw721CodeId)
    (proxy : leftAfter.proxy = rightAfter.proxy) (pauser : leftAfter.pauser = rightAfter.pauser)
    (paused : leftAfter.paused = rightAfter.paused)
    (incoming : leftAfter.incomingClassTokenToChannel = rightAfter.incomingClassTokenToChannel)
    (metadata : leftAfter.tokenMetadata = rightAfter.tokenMetadata)
    (outgoing : ∀ key, key ≠ (shipment.classId, shipment.tokenId) →
      leftAfter.outgoingClassTokenToChannel key = rightAfter.outgoingClassTokenToChannel key)
    (collectionsLeft : leftAfter.classIdToNftContract = left.classIdToNftContract)
    (classesLeft : leftAfter.nftContractToClassId = left.nftContractToClassId)
    (recordsLeft : leftAfter.classIdToClass = left.classIdToClass)
    (collectionsRight : rightAfter.classIdToNftContract = right.classIdToNftContract)
    (classesRight : rightAfter.nftContractToClassId = right.nftContractToClassId)
    (recordsRight : rightAfter.classIdToClass = right.classIdToClass) :
    Apart shipment known leftAfter rightAfter where
  code := code
  proxy := proxy
  pauser := pauser
  paused := paused
  incoming := incoming
  metadata := metadata
  outgoing := outgoing
  classes := by
    cases apart.classes with
    | same collections classes records =>
        apply SameClasses.same
        · rw [collectionsLeft, collectionsRight, collections]
        · rw [classesLeft, classesRight, classes]
        · rw [recordsLeft, recordsRight, records]
    | locally slashless unknown absent collections classes records =>
        apply SameClasses.locally slashless
        · rw [classesRight, unknown]
        · rw [collectionsRight, absent]
        · rw [collectionsLeft, collectionsRight, collections]
        · rw [classesLeft, classesRight, classes]
        · rw [recordsLeft, recordsRight, records]
  collection := by
    rw [collectionsLeft]
    exact apart.collection
  class_ := by
    rw [classesLeft]
    exact apart.class_
  registered := by
    rw [collectionsRight]
    exact apart.registered
  shape := apart.shape

/-- Both sides register another contract under another class. -/
theorem register (apart : Apart shipment known left right) {classId : ClassId} {contract : Addr}
    (different : classId ≠ shipment.classId) (fresh : contract ≠ shipment.contract)
    {leftRecords rightRecords : StoreMap ClassId Class}
    (records : (leftRecords = left.classIdToClass ∧ rightRecords = right.classIdToClass) ∨
      ∃ cls, leftRecords = left.classIdToClass.save classId cls ∧
        rightRecords = right.classIdToClass.save classId cls) :
    Apart shipment known
      { left with
        nftContractToClassId := left.nftContractToClassId.save contract classId
        classIdToNftContract := left.classIdToNftContract.save classId contract
        classIdToClass := leftRecords }
      { right with
        nftContractToClassId := right.nftContractToClassId.save contract classId
        classIdToNftContract := right.classIdToNftContract.save classId contract
        classIdToClass := rightRecords } where
  code := apart.code
  proxy := apart.proxy
  pauser := apart.pauser
  paused := apart.paused
  incoming := apart.incoming
  metadata := apart.metadata
  outgoing := apart.outgoing
  classes := by
    cases apart.classes with
    | same collections classes same =>
        apply SameClasses.same
        · rw [collections]
        · rw [classes]
        · rcases records with ⟨rfl, rfl⟩ | ⟨cls, rfl, rfl⟩
          · exact same
          · rw [same]
    | locally slashless unknown absent collections classes same =>
        have own := apart.local_class collections rfl
        have other : (⟨shipment.contract.addr⟩ : ClassId) ≠ classId := by
          rw [own]
          exact Ne.symm different
        apply SameClasses.locally slashless
        · simp only [StoreMap.save_of_ne (Ne.symm fresh)]
          exact unknown
        · simp only [StoreMap.save_of_ne other]
          exact absent
        · simp only [collections, StoreMap.save_comm other]
        · simp only [classes, StoreMap.save_comm (Ne.symm fresh)]
        · rcases records with ⟨rfl, rfl⟩ | ⟨cls, rfl, rfl⟩
          · exact same
          · simp only [same, StoreMap.save_comm other]
  collection := by
    intro query
    simp only [StoreMap.save_apply]
    split
    next same =>
      subst same
      simp [fresh, different]
    next => exact apart.collection query
  class_ := by
    intro query
    simp only [StoreMap.save_apply]
    split
    next same =>
      subst same
      simp [fresh, different]
    next => exact apart.class_ query
  registered := by
    intro both
    simp only [StoreMap.save_of_ne (Ne.symm different)]
    exact apart.registered both
  shape := apart.shape

/-- Both sides record a class that is not local. -/
theorem saveClass (apart : Apart shipment known left right) {cls : Class}
    (slash : '/' ∈ cls.id.id.toList) :
    Apart shipment known { left with classIdToClass := left.classIdToClass.save cls.id cls }
      { right with classIdToClass := right.classIdToClass.save cls.id cls } where
  code := apart.code
  proxy := apart.proxy
  pauser := apart.pauser
  paused := apart.paused
  incoming := apart.incoming
  metadata := apart.metadata
  outgoing := apart.outgoing
  classes := by
    cases apart.classes with
    | same collections classes records =>
        exact .same collections classes (by simp only [records])
    | locally slashless unknown absent collections classes records =>
        have other : (⟨shipment.contract.addr⟩ : ClassId) ≠ cls.id := by
          intro same
          rw [← same] at slash
          exact slashless slash
        refine .locally slashless unknown absent collections classes ?_
        simp only [records, StoreMap.save_comm other]
  collection := apart.collection
  class_ := apart.class_
  registered := apart.registered
  shape := apart.shape

end Apart

/-! ## Messages -/

/-- The token that a message to a collection is about. -/
def Cw721ExecuteMsg.names : Cw721ExecuteMsg → Option TokenId
  | .transferNft _ tokenId | .sendNft _ tokenId _ | .burn tokenId | .mint tokenId _ _
  | .approve _ tokenId | .revoke _ tokenId => some tokenId
  | .approveAll _ | .revokeAll _ => none

/-- A callback that is not about the NFT. -/
inductive Aside (shipment : Shipment) (known : Prop) (bridge : Addr) : CallbackMsg → Prop where
  | create {receiver : String} {create : VoucherCreation} (slash : '/' ∈ create.cls.id.id.toList)
      (other : create.cls.id = shipment.classId → shipment.tokenId ∉ create.tokens.map (·.id)) :
      Aside shipment known bridge (.createVouchers receiver create)
  | mint {classId : ClassId} {receiver : String} {tokens : List Token}
      (slash : '/' ∈ classId.id.toList)
      (other : classId = shipment.classId → shipment.tokenId ∉ tokens.map (·.id)) :
      Aside shipment known bridge (.mint classId receiver tokens)
  | redeem {receiver : String} {redeem : VoucherRedemption}
      (other : redeem.cls.id = shipment.classId → known ∧ shipment.tokenId ∉ redeem.tokenIds) :
      Aside shipment known bridge (.redeemVouchers receiver redeem)
  | conjunction {callbacks : List CallbackMsg}
      (each : ∀ callback ∈ callbacks, Aside shipment known bridge callback) :
      Aside shipment known bridge (.conjunction
        (callbacks.map fun callback => .execute bridge (.bridge (.callback callback))))

/-- A message of the caller that is not about the NFT. -/
inductive Avoids (shipment : Shipment) (known : Prop) (bridge caller : Addr) :
    CosmosMsg → Prop where
  | cw721 {contract : Addr} {msg : Cw721ExecuteMsg}
      (other : contract = shipment.contract → msg.names ≠ some shipment.tokenId) :
      Avoids shipment known bridge caller (.wasm (.execute contract (.cw721 msg)))
  | unknown (contract : Addr) (msg : Binary) :
      Avoids shipment known bridge caller (.wasm (.execute contract (.other msg)))
  | receive (contract : Addr) (msg : Cw721ReceiveMsg) :
      Avoids shipment known bridge caller (.wasm (.execute contract (.bridge (.receiveNft msg))))
  | forward (contract : Addr) (eyeball : String) (msg : Cw721ReceiveMsg) :
      Avoids shipment known bridge caller
        (.wasm (.execute contract (.bridge (.receiveProxyNft eyeball msg))))
  | pause (contract : Addr) :
      Avoids shipment known bridge caller (.wasm (.execute contract (.bridge .pause)))
  | callback (contract : Addr) {msg : CallbackMsg}
      (other : caller = bridge → Aside shipment known bridge msg) :
      Avoids shipment known bridge caller (.wasm (.execute contract (.bridge (.callback msg))))
  | instantiate (admin : Option String) (code : Nat) (msg : InitMsg) (label : String) :
      Avoids shipment known bridge caller (.wasm (.instantiate admin code msg label))
  | ibc (msg : IbcMsg) : Avoids shipment known bridge caller (.ibc msg)

/-- A submessage that is not about the NFT, as the bridge, a collection or an account emits it. -/
inductive Unconcerned (shipment : Shipment) (known : Prop) (bridge : Addr) :
    Addr → SubMsg CosmosMsg → Prop where
  | plain {caller : Addr} {msg : CosmosMsg} (avoids : Avoids shipment known bridge caller msg) :
      Unconcerned shipment known bridge caller msg.sub
  | acked {msg : WasmMsg} (avoids : Avoids shipment known bridge bridge (.wasm msg)) :
      Unconcerned shipment known bridge bridge ⟨.wasm msg, .always, ackAndDoNothing⟩
  | collection (code : Nat) {name : String} (symbol label : String)
      (different : name ≠ shipment.classId.id) :
      Unconcerned shipment known bridge bridge
        ⟨.wasm (.instantiate none code (.cw721 ⟨name, symbol, bridge.addr⟩) label), .success,
          instantiateCw721ReplyId⟩

theorem Unconcerned.avoids {shipment : Shipment} {known : Prop} {bridge caller : Addr}
    {sub : SubMsg CosmosMsg} (unconcerned : Unconcerned shipment known bridge caller sub) :
    Avoids shipment known bridge caller sub.msg := by
  cases unconcerned with
  | plain avoids => exact avoids
  | acked avoids => exact avoids
  | collection code symbol label different => exact .instantiate _ _ _ _

/-! ## Handlers -/

namespace Apart

variable {shipment : Shipment} {known : Prop} {left right : Storage} {bridge : Addr}

theorem loadNftContract_eq (apart : Apart shipment known left right) {classId : ClassId}
    (either : '/' ∈ classId.id.toList ∨ classId ≠ shipment.classId ∨
      right.classIdToNftContract classId ≠ none) :
    left.loadNftContract classId = right.loadNftContract classId := by
  unfold Storage.loadNftContract StoreMap.load
  rw [apart.collections_eq either]

/-- The class of a collection.  If only the left knows the one of the NFT, the right comes to
know it now. -/
theorem classForContract (apart : Apart shipment known left right) (info : Addr) :
    Alike (fun first second => first.2 = second.2 ∧
        ('/' ∉ info.addr.toList → Apart shipment known first.1 second.1))
      (Ics721.classForContract left info) (Ics721.classForContract right info) := by
  by_cases own : info = shipment.contract
  · subst own
    have entry := (apart.class_ shipment.contract).mpr rfl
    cases apart.classes with
    | same collections classes records =>
        have other := entry
        rw [classes] at other
        simp only [Ics721.classForContract, entry, other, Storage.loadClass, StoreMap.load,
          records]
        cases right.classIdToClass shipment.classId with
        | none => exact .error _
        | some cls => exact .ok ⟨rfl, fun _ => apart⟩
    | locally _ unknown absent collections classes records =>
        have class_ := apart.local_class collections rfl
        have record : left.classIdToClass shipment.classId =
            some ⟨⟨shipment.contract.addr⟩, none, none⟩ := by
          rw [records, class_, StoreMap.save_self]
        simp only [Ics721.classForContract, entry, unknown, Storage.loadClass, StoreMap.load,
          record]
        refine .ok ⟨rfl, fun _ => { apart with
          classes := .same collections classes records, registered := ?_ }⟩
        intro _
        simp [class_]
  · have same := apart.classes_eq own
    cases entry : left.nftContractToClassId info with
    | some classId =>
        have other := entry
        rw [same] at other
        have different : classId ≠ shipment.classId := by
          rintro rfl
          exact own ((apart.class_ info).mp entry)
        simp only [Ics721.classForContract, entry, other, Storage.loadClass, StoreMap.load,
          apart.records_eq different]
        cases right.classIdToClass classId with
        | none => exact .error _
        | some cls => exact .ok ⟨rfl, fun _ => apart⟩
    | none =>
        have other := entry
        rw [same] at other
        simp only [Ics721.classForContract, entry, other]
        refine .ok ⟨rfl, fun slashless => apart.register ?_ own (.inr ⟨_, rfl, rfl⟩)⟩
        intro class_
        rcases apart.shape with local_ | slash
        · rw [← class_] at local_
          apply own
          cases info
          cases contract : shipment.contract
          rw [contract] at local_
          exact congrArg Addr.mk local_
        · rw [← class_] at slash
          exact slashless slash

/-- An NFT is sent to the bridge. -/
theorem receiveNft (apart : Apart shipment known left right) {api : Api}
    {querier other : Querier} {info : Addr} {tokenId : TokenId} {sender : String} {msg : Binary}
    (answers : querier.nftInfo = other.nftInfo)
    (valid : ∀ uri, other.nftInfo info tokenId = .ok uri → '/' ∉ info.addr.toList) :
    Alike (fun first second => Apart shipment known first.1 second.1 ∧ first.2 = second.2 ∧
        ∃ msg, first.2.messages = [(CosmosMsg.ibc msg).sub])
      (Ics721.receiveNft api querier left info tokenId sender msg)
      (Ics721.receiveNft api other right info tokenId sender msg) := by
  apply Alike.bind_same
  intro from_ _
  apply Alike.bind_same
  intro outgoing _
  apply Alike.bind (apart.classForContract info).mapError
  rintro ⟨leftAfter, cls⟩ ⟨rightAfter, same⟩ - - ⟨rfl, later⟩
  simp only [answers]
  apply Alike.bind_same
  intro uri queried
  have next := later (valid uri (mapError_eq_ok.mp queried))
  have metadata : leftAfter.tokenMetadata = rightAfter.tokenMetadata := next.metadata
  simp only [outgoingPacketData, metadata]
  refine .ok ⟨?_, rfl, _, rfl⟩
  refine next.of_same next.code next.proxy next.pauser next.paused next.incoming rfl ?_ rfl rfl rfl
    rfl rfl rfl
  intro key different
  simp only [StoreMap.save_apply]
  split
  next => rfl
  next => exact next.outgoing key different

/-- The bridge calls itself with something that is not about the NFT. -/
theorem executeCallback (apart : Apart shipment known left right) {api : Api}
    {callback : CallbackMsg} (aside : Aside shipment known bridge callback) :
    Alike (fun first second => Apart shipment known first.1 second.1 ∧ first.2 = second.2 ∧
        ∀ sub ∈ first.2.messages, Unconcerned shipment known bridge bridge sub)
      (Ics721.executeCallback api bridge left bridge callback)
      (Ics721.executeCallback api bridge right bridge callback) := by
  simp only [Ics721.executeCallback, ne_eq, not_true_eq_false, if_false]
  cases aside with
  | @create receiver create slash other =>
      have entry := apart.collections_eq (.inl slash)
      have has : left.classIdToNftContract.has create.cls.id =
          right.classIdToNftContract.has create.cls.id := by
        unfold StoreMap.has
        rw [entry]
      simp only [callbackCreateVouchers, has, apart.code]
      refine .ok ⟨(apart.saveClass slash).of_same rfl apart.proxy apart.pauser apart.paused
        apart.incoming apart.metadata apart.outgoing rfl rfl rfl rfl rfl rfl, rfl, ?_⟩
      intro sub member
      simp only [List.mem_append, List.mem_singleton] at member
      rcases member with instantiation | rfl
      · split at instantiation
        next => cases instantiation
        next missing =>
          rw [List.mem_singleton.mp instantiation]
          apply Unconcerned.collection
          intro same
          apply missing
          have class_ : create.cls.id = shipment.classId := by
            cases first : create.cls.id
            cases second : shipment.classId
            rw [first, second] at same
            exact congrArg ClassId.mk same
          rw [← has, StoreMap.has, (apart.collection _).mpr class_]
          rfl
      · exact .plain (.callback _ fun _ => .mint slash other)
  | @mint classId receiver tokens slash other =>
      simp only [callbackMint, apart.loadNftContract_eq (.inl slash), apart.metadata]
      apply Alike.bind_same
      intro owner _
      apply Alike.bind_same
      intro contract loaded
      have entry := Storage.loadNftContract_eq_ok.mp (mapError_eq_ok.mp loaded)
      rw [← apart.collections_eq (.inl slash)] at entry
      refine .ok ⟨?_, rfl, ?_⟩
      · exact apart.of_same apart.code apart.proxy apart.pauser apart.paused apart.incoming rfl
          apart.outgoing rfl rfl rfl rfl rfl rfl
      · intro sub member
        simp only [List.map_map, List.mem_map, Function.comp_apply] at member
        rcases member with ⟨token, listed, rfl⟩
        refine .plain (.cw721 ?_)
        rintro rfl same
        apply other ((apart.collection _).mp entry)
        rw [← Option.some.inj same]
        exact List.mem_map_of_mem listed
  | @redeem receiver redeem other =>
      have either : '/' ∈ redeem.cls.id.id.toList ∨ redeem.cls.id ≠ shipment.classId ∨
          right.classIdToNftContract redeem.cls.id ≠ none := by
        by_cases class_ : redeem.cls.id = shipment.classId
        · right
          right
          rw [class_]
          exact apart.registered (other class_).1
        · exact .inr (.inl class_)
      simp only [callbackRedeemVouchers, apart.loadNftContract_eq either]
      apply Alike.bind_same
      intro contract loaded
      apply Alike.bind_same
      intro owner _
      have entry := Storage.loadNftContract_eq_ok.mp (mapError_eq_ok.mp loaded)
      rw [← apart.collections_eq either] at entry
      refine .ok ⟨apart, rfl, ?_⟩
      intro sub member
      simp only [List.map_map, List.mem_map, Function.comp_apply] at member
      rcases member with ⟨tokenId, listed, rfl⟩
      refine .plain (.cw721 ?_)
      rintro rfl same
      apply (other ((apart.collection _).mp entry)).2
      cases same
      exact listed
  | @conjunction callbacks each =>
      refine .ok ⟨apart, rfl, ?_⟩
      intro sub member
      simp only [List.map_map, List.mem_map, Function.comp_apply] at member
      rcases member with ⟨callback, listed, rfl⟩
      exact .plain (.callback _ fun _ => each callback listed)

/-- A collection that the bridge has instantiated is registered in the reply. -/
theorem replyInstantiateCw721 (apart : Apart shipment known left right) {api : Api}
    {querier other : Querier} {answer : Reply}
    (answers : querier.contractInfo = other.contractInfo)
    (fresh : ∀ contract name, parseReplyInstantiateData answer = .ok contract →
      other.contractInfo ⟨contract⟩ = .ok name →
      name ≠ shipment.classId.id ∧ (⟨contract⟩ : Addr) ≠ shipment.contract) :
    Alike (fun first second => Apart shipment known first.1 second.1 ∧ first.2 = second.2 ∧
        first.2.messages = [])
      (Ics721.replyInstantiateCw721 api querier left answer)
      (Ics721.replyInstantiateCw721 api other right answer) := by
  apply Alike.bind_same
  intro contract parsed
  apply Alike.bind_same
  intro addr validated
  rw [answers]
  apply Alike.bind_same
  intro name queried
  rw [mapError_eq_ok] at parsed queried
  rw [mapError_eq_ok, Api.addrValidate_eq_ok] at validated
  rcases validated with ⟨-, rfl⟩
  rcases fresh contract name parsed queried with ⟨different, unused⟩
  refine .ok ⟨apart.register ?_ unused (.inl ⟨rfl, rfl⟩), rfl, rfl⟩
  intro same
  exact different (congrArg ClassId.id same)

theorem errorIfPaused_eq (apart : Apart shipment known left right) :
    left.errorIfPaused = right.errorIfPaused := by
  unfold Storage.errorIfPaused
  rw [apart.paused]

theorem pause (apart : Apart shipment known left right) (sender : Addr) :
    Alike (Apart shipment known) (left.pause sender) (right.pause sender) := by
  simp only [Storage.pause, apart.errorIfPaused_eq, apart.pauser]
  apply Alike.bind_same
  intro _ _
  split
  next => exact .error _
  next =>
    refine .ok ?_
    exact apart.of_same apart.code apart.proxy rfl rfl apart.incoming apart.metadata apart.outgoing
      rfl rfl rfl rfl rfl rfl

/-- Governance migrates both bridges. -/
theorem migrate (apart : Apart shipment known left right) (api : Api) (msg : MigrateMsg) :
    Alike (fun first second => Apart shipment known first.1 second.1)
      (Ics721.migrate api left msg) (Ics721.migrate api right msg) := by
  cases msg with
  | withUpdate pauser proxy =>
      simp only [Ics721.migrate, Storage.setPauser]
      apply Alike.bind_same
      intro newProxy _
      cases pauser.mapM api.addrValidate with
      | error err => exact .error _
      | ok newPauser =>
          refine .ok ?_
          exact apart.of_same apart.code rfl rfl rfl apart.incoming apart.metadata apart.outgoing
            rfl rfl rfl rfl rfl rfl

/-- Anyone calls the bridge with something that is not about the NFT. -/
theorem execute (apart : Apart shipment known left right) {api : Api} {querier other : Querier}
    {caller : Addr} {msg : ExecuteMsg} (answers : querier.nftInfo = other.nftInfo)
    (valid : ∀ info tokenId uri, other.nftInfo info tokenId = .ok uri → '/' ∉ info.addr.toList)
    (avoids : Avoids shipment known bridge caller (.wasm (.execute bridge (.bridge msg)))) :
    Alike (fun first second => Apart shipment known first.1 second.1 ∧ first.2 = second.2 ∧
        ∀ sub ∈ first.2.messages, Unconcerned shipment known bridge bridge sub)
      (Ics721.execute api bridge querier left caller msg)
      (Ics721.execute api bridge other right caller msg) := by
  have sent : ∀ info tokenId sender request,
      Alike (fun first second => Apart shipment known first.1 second.1 ∧ first.2 = second.2 ∧
          ∀ sub ∈ first.2.messages, Unconcerned shipment known bridge bridge sub)
        (Ics721.receiveNft api querier left info tokenId sender request)
        (Ics721.receiveNft api other right info tokenId sender request) := by
    intro info tokenId sender request
    apply (apart.receiveNft answers (valid info tokenId)).mono
    rintro first second ⟨next, same, msg, messages⟩
    refine ⟨next, same, ?_⟩
    intro sub member
    rw [messages, List.mem_singleton] at member
    rw [member]
    exact .plain (.ibc msg)
  simp only [Ics721.execute, apart.errorIfPaused_eq]
  apply Alike.bind_same
  intro _ _
  cases avoids with
  | receive contract msg =>
      simp only [executeReceiveNft, apart.proxy]
      split
      next => exact .error _
      next => exact sent _ _ _ _
  | forward contract eyeball msg =>
      simp only [executeReceiveProxyNft, apart.proxy]
      split
      next => exact .error _
      next =>
        apply Alike.bind_same
        intro info _
        exact sent _ _ _ _
  | pause contract =>
      apply Alike.bind (apart.pause caller).mapError
      intro first second _ _ next
      exact .ok ⟨next, rfl, by simp⟩
  | callback contract other =>
      by_cases self : caller = bridge
      · rw [self]
        exact apart.executeCallback (other self)
      · simp only [Ics721.executeCallback, ne_eq, self, not_false_eq_true, if_true]
        exact .error _

/-! ## Packets -/

/-- The NFT is not among the tokens, or the packet is of another class. -/
theorem chooseAction (apart : Apart shipment known left right) {dest : IbcEndpoint}
    {classId : ClassId} {localClassId : Option String} {item : Incoming}
    (other : localClassId = some shipment.classId.id → item.1.1 ≠ shipment.tokenId) :
    Apart shipment known (Ics721.chooseAction dest classId localClassId left item).1
        (Ics721.chooseAction dest classId localClassId right item).1 ∧
      (Ics721.chooseAction dest classId localClassId left item).2 =
        (Ics721.chooseAction dest classId localClassId right item).2 := by
  have elsewhere : ∀ localClass : ClassId, localClassId = some localClass.id →
      (localClass, item.1.1) ≠ (shipment.classId, shipment.tokenId) := by
    intro localClass popped same
    rw [Prod.mk.injEq] at same
    rcases same with ⟨rfl, token⟩
    exact other popped token
  rcases chooseAction_cases dest classId localClassId left item with
    ⟨localClass, popped, sent, chosen⟩ | ⟨staying, chosen⟩
  · rcases chooseAction_cases dest classId localClassId right item with
      ⟨again, poppedRight, -, chosenRight⟩ | ⟨stayingRight, -⟩
    · have same : again = localClass := by
        rw [popped] at poppedRight
        cases again
        cases localClass
        simpa using poppedRight.symm
      subst same
      rw [chosen, chosenRight]
      refine ⟨?_, rfl⟩
      refine apart.of_same apart.code apart.proxy apart.pauser apart.paused apart.incoming
        apart.metadata ?_ rfl rfl rfl rfl rfl rfl
      intro key different
      simp only [StoreMap.remove_apply]
      split
      next => rfl
      next => exact apart.outgoing key different
    · rw [apart.outgoing _ (elsewhere localClass popped)] at sent
      exact absurd sent (stayingRight localClass popped)
  · rcases chooseAction_cases dest classId localClassId right item with
      ⟨localClass, popped, sent, -⟩ | ⟨-, chosenRight⟩
    · rw [← apart.outgoing _ (elsewhere localClass popped)] at sent
      exact absurd sent (staying localClass popped)
    · rw [chosen, chosenRight]
      refine ⟨?_, rfl⟩
      refine apart.of_same apart.code apart.proxy apart.pauser apart.paused ?_
        apart.metadata apart.outgoing rfl rfl rfl rfl rfl rfl
      simp only [apart.incoming]

theorem selectFrom (apart : Apart shipment known left right) {dest : IbcEndpoint}
    {classId : ClassId} {localClassId : Option String} {items : List Incoming}
    (other : localClassId = some shipment.classId.id →
      ∀ item ∈ items, item.1.1 ≠ shipment.tokenId) :
    Apart shipment known (Ics721.selectFrom dest classId localClassId left items).1
        (Ics721.selectFrom dest classId localClassId right items).1 ∧
      (Ics721.selectFrom dest classId localClassId left items).2 =
        (Ics721.selectFrom dest classId localClassId right items).2 := by
  induction items generalizing left right with
  | nil => exact ⟨apart, rfl⟩
  | cons item items ih =>
      have first : Apart shipment known
            (Ics721.chooseAction dest classId localClassId left item).1
            (Ics721.chooseAction dest classId localClassId right item).1 ∧ _ :=
        apart.chooseAction fun popped => other popped item List.mem_cons_self
      rcases first with ⟨next, chosen⟩
      rcases ih next (fun popped later member => other popped later (List.mem_cons_of_mem _ member))
        with ⟨final, rest⟩
      simp only [Ics721.selectFrom]
      exact ⟨final, by rw [chosen, rest]⟩

theorem checkIbcPacket_eq (apart : Apart shipment known left right) (api : Api)
    (packet : IbcPacket) : checkIbcPacket api left packet = checkIbcPacket api right packet := by
  simp only [checkIbcPacket, apart.errorIfPaused_eq]

/-! ## Settlements -/

/-- A packet of a class that both know, without the NFT. -/
structure Settles (shipment : Shipment) (api : Api) (right : Storage) (packet : IbcPacket) :
    Prop where
  other : ∀ data, api.packetData.fromBinary packet.data = .ok data →
    data.classId = shipment.classId → shipment.tokenId ∉ data.tokenIds
  registered : ∀ data, api.packetData.fromBinary packet.data = .ok data →
    right.classIdToNftContract data.classId ≠ none

theorem handlePacketFail (apart : Apart shipment known left right) {api : Api}
    {packet : IbcPacket} (settles : Settles shipment api right packet) (error : String) :
    Alike (fun first second => Apart shipment known first.1 second.1 ∧ first.2 = second.2 ∧
        ∀ sub ∈ first.2.messages, Unconcerned shipment known bridge bridge sub)
      (Ics721.handlePacketFail api left packet error)
      (Ics721.handlePacketFail api right packet error) := by
  apply Alike.bind_same
  intro data decoded
  rw [mapError_eq_ok] at decoded
  have registered := settles.registered data decoded
  rw [apart.loadNftContract_eq (.inr (.inr registered))]
  apply Alike.bind_same
  intro contract loaded
  have entry := Storage.loadNftContract_eq_ok.mp (mapError_eq_ok.mp loaded)
  rw [← apart.collections_eq (.inr (.inr registered))] at entry
  apply Alike.bind_same
  intro sender _
  refine .ok ⟨?_, rfl, ?_⟩
  · refine apart.of_same apart.code apart.proxy apart.pauser apart.paused apart.incoming
      apart.metadata ?_ rfl rfl rfl rfl rfl rfl
    intro key different
    by_cases listed : ∃ tokenId ∈ data.tokenIds, (data.classId, tokenId) = key
    · simp only [StoreMap.foldl_remove_of_mem listed]
    · have untouched : ∀ tokenId ∈ data.tokenIds, (data.classId, tokenId) ≠ key :=
        fun tokenId member same => listed ⟨tokenId, member, same⟩
      simp only [StoreMap.foldl_remove_of_not_mem untouched]
      exact apart.outgoing key different
  · intro sub member
    simp only [List.map_map, List.mem_map, Function.comp_apply] at member
    rcases member with ⟨tokenId, listed, rfl⟩
    refine .plain (.cw721 ?_)
    rintro rfl same
    apply settles.other data decoded ((apart.collection _).mp entry)
    rw [← Option.some.inj same]
    exact listed

/-- The same vouchers are burned. -/
theorem foldl_burnNotice (apart : Apart shipment known left right) (classId : ClassId)
    (channelId : String) (contract : Addr) (tokenIds : List TokenId) (messages : List WasmMsg) :
    Apart shipment known
        (tokenIds.foldl (burnNotice classId channelId contract) (left, messages)).1
        (tokenIds.foldl (burnNotice classId channelId contract) (right, messages)).1 ∧
      (tokenIds.foldl (burnNotice classId channelId contract) (left, messages)).2 =
        (tokenIds.foldl (burnNotice classId channelId contract) (right, messages)).2 := by
  induction tokenIds generalizing left right messages with
  | nil => exact ⟨apart, rfl⟩
  | cons tokenId tokenIds ih =>
      simp only [List.foldl_cons]
      by_cases returning :
          right.incomingClassTokenToChannel (classId, tokenId) = some channelId
      · have returns := returning
        rw [← apart.incoming] at returns
        rw [burnNotice_returning returning, burnNotice_returning returns]
        apply ih
        exact apart.of_same apart.code apart.proxy apart.pauser apart.paused
          (by simp only [apart.incoming]) (by simp only [apart.metadata]) apart.outgoing rfl rfl
          rfl rfl rfl rfl
      · have stays := returning
        rw [← apart.incoming] at stays
        rw [burnNotice_staying returning, burnNotice_staying stays]
        exact ih apart messages

theorem handlePacketSuccess (apart : Apart shipment known left right) {api : Api}
    {packet : IbcPacket} (settles : Settles shipment api right packet) :
    Alike (fun first second => Apart shipment known first.1 second.1 ∧ first.2 = second.2 ∧
        ∀ sub ∈ first.2.messages, Unconcerned shipment known bridge bridge sub)
      (Ics721.handlePacketSuccess api left packet)
      (Ics721.handlePacketSuccess api right packet) := by
  apply Alike.bind_same
  intro data decoded
  rw [mapError_eq_ok] at decoded
  have registered := settles.registered data decoded
  rw [apart.loadNftContract_eq (.inr (.inr registered))]
  apply Alike.bind_same
  intro contract loaded
  have entry := Storage.loadNftContract_eq_ok.mp (mapError_eq_ok.mp loaded)
  rw [← apart.collections_eq (.inr (.inr registered))] at entry
  rcases apart.foldl_burnNotice data.classId packet.src.channelId contract data.tokenIds [] with
    ⟨next, messages⟩
  rcases Ics721.foldl_burnNotice data.classId packet.src.channelId contract data.tokenIds left []
    with
    ⟨burned, -, came, burns⟩
  refine .ok ⟨next, ?_, ?_⟩
  · simp only [messages]
  · intro sub member
    simp only [burns, List.nil_append, List.map_map, List.mem_map, Function.comp_apply] at member
    rcases member with ⟨tokenId, listed, rfl⟩
    refine .plain (.cw721 ?_)
    rintro rfl same
    apply settles.other data decoded ((apart.collection _).mp entry)
    rw [← Option.some.inj same]
    exact ((came tokenId).mp listed).1

end Apart

end Ics721
