import Ics721.Model.Ibc
import Ics721.Receive.Selection
import Ics721.Settlement.Handlers

/-!
# The class registry, handler by handler

The two class maps are inverse to each other and only ever grow, every registered
class has its record, and every class the outgoing map or the metadata map speaks of
is registered.  This module shows what each handler of the bridge does to these
facts, one lemma per handler.  `known` stands for the addresses at which there is a
contract.
-/

namespace Ics721

open Library

/-- The bridge's view of the NFT classes is coherent. -/
structure Registry (codeId : Nat) (known : Addr → Prop) (storage : Storage) : Prop where
  code : storage.cw721CodeId = codeId
  inverse : ∀ classId contract, storage.classIdToNftContract classId = some contract ↔
    storage.nftContractToClassId contract = some classId
  contract_known : ∀ {classId contract},
    storage.classIdToNftContract classId = some contract → known contract
  /-- A class is either local, under the address of its contract, or a voucher class,
  under a class ID with a prefix. -/
  shape : ∀ {classId contract}, storage.classIdToNftContract classId = some contract →
    classId.id = contract.addr ∨ '/' ∈ classId.id.toList
  class_id : ∀ {classId cls}, storage.classIdToClass classId = some cls → cls.id = classId
  class_recorded : ∀ {classId contract},
    storage.classIdToNftContract classId = some contract →
    ∃ cls, storage.classIdToClass classId = some cls
  outgoing_registered : ∀ {classId tokenId channelId},
    storage.outgoingClassTokenToChannel (classId, tokenId) = some channelId →
    ∃ contract, storage.classIdToNftContract classId = some contract
  metadata_registered : ∀ {classId tokenId metadata},
    storage.tokenMetadata (classId, tokenId) = some metadata →
    ∃ contract, storage.classIdToNftContract classId = some contract

/-- Every entry of the two class maps is still there. -/
structure Extends (old new : Storage) : Prop where
  contract_kept : ∀ {classId contract}, old.classIdToNftContract classId = some contract →
    new.classIdToNftContract classId = some contract
  class_kept : ∀ {contract classId}, old.nftContractToClassId contract = some classId →
    new.nftContractToClassId contract = some classId

namespace Extends

theorem refl (storage : Storage) : Extends storage storage := ⟨id, id⟩

theorem trans {first second third : Storage} (left : Extends first second)
    (right : Extends second third) : Extends first third :=
  ⟨right.contract_kept ∘ left.contract_kept, right.class_kept ∘ left.class_kept⟩

/-- Handlers that leave the class maps alone. -/
theorem of_eq {old new : Storage}
    (contracts : new.classIdToNftContract = old.classIdToNftContract)
    (classes : new.nftContractToClassId = old.nftContractToClassId) : Extends old new :=
  ⟨fun entry => contracts ▸ entry, fun entry => classes ▸ entry⟩

end Extends

namespace Registry

variable {codeId : Nat} {known : Addr → Prop} {storage : Storage}

theorem mono {more : Addr → Prop} (registry : Registry codeId known storage)
    (implies : ∀ contract, known contract → more contract) :
    Registry codeId more storage :=
  { registry with contract_known := fun entry => implies _ (registry.contract_known entry) }

/-- Storages that differ only in the items, in the incoming map and by having fewer
outgoing entries and less metadata. -/
theorem of_less {after : Storage} (registry : Registry codeId known storage)
    (code : after.cw721CodeId = storage.cw721CodeId)
    (contracts : after.classIdToNftContract = storage.classIdToNftContract)
    (classes : after.nftContractToClassId = storage.nftContractToClassId)
    (records : after.classIdToClass = storage.classIdToClass)
    (outgoing : ∀ key channelId, after.outgoingClassTokenToChannel key = some channelId →
      storage.outgoingClassTokenToChannel key = some channelId)
    (metadata : ∀ key value, after.tokenMetadata key = some value →
      storage.tokenMetadata key = some value) :
    Registry codeId known after where
  code := code.trans registry.code
  inverse := by rw [contracts, classes]; exact registry.inverse
  contract_known := by rw [contracts]; exact registry.contract_known
  shape := by rw [contracts]; exact registry.shape
  class_id := by rw [records]; exact registry.class_id
  class_recorded := by rw [contracts, records]; exact registry.class_recorded
  outgoing_registered := by
    intro classId tokenId channelId entry
    rw [contracts]
    exact registry.outgoing_registered (outgoing _ _ entry)
  metadata_registered := by
    intro classId tokenId value entry
    rw [contracts]
    exact registry.metadata_registered (metadata _ _ entry)

theorem contract_inj (registry : Registry codeId known storage) {left right : ClassId}
    {contract : Addr} (leftEntry : storage.classIdToNftContract left = some contract)
    (rightEntry : storage.classIdToNftContract right = some contract) : left = right := by
  have leftClass := (registry.inverse left contract).mp leftEntry
  have rightClass := (registry.inverse right contract).mp rightEntry
  exact Option.some.inj (leftClass.symm.trans rightClass)

/-! ## Registration -/

/-- Enter a new pair into both maps.  Neither the class nor the contract may be there
already. -/
theorem register (registry : Registry codeId known storage) {classId : ClassId}
    {contract : Addr} {records : StoreMap ClassId Class}
    (contractFresh : storage.nftContractToClassId contract = none)
    (classFresh : storage.classIdToNftContract classId = none)
    (contractKnown : known contract)
    (shape : classId.id = contract.addr ∨ '/' ∈ classId.id.toList)
    (recorded : ∃ cls, records classId = some cls)
    (recordsKept : ∀ other, storage.classIdToClass other ≠ none →
      ∃ cls, records other = some cls)
    (recordsId : ∀ {other cls}, records other = some cls → cls.id = other) :
    Registry codeId known { storage with
      classIdToNftContract := storage.classIdToNftContract.save classId contract
      nftContractToClassId := storage.nftContractToClassId.save contract classId
      classIdToClass := records } := by
  have still : ∀ {other : ClassId},
      (∃ found, storage.classIdToNftContract other = some found) →
      ∃ found, storage.classIdToNftContract.save classId contract other = some found := by
    rintro other ⟨found, entry⟩
    by_cases same : other = classId
    · exact ⟨contract, by rw [same, StoreMap.save_self]⟩
    · exact ⟨found, by rw [StoreMap.save_of_ne same, entry]⟩
  refine
    { code := registry.code
      inverse := ?_
      contract_known := ?_
      shape := ?_
      class_id := recordsId
      class_recorded := ?_
      outgoing_registered := fun entry => still (registry.outgoing_registered entry)
      metadata_registered := fun entry => still (registry.metadata_registered entry) }
  · intro otherClass otherContract
    simp only [StoreMap.save_apply]
    by_cases sameClass : otherClass = classId
    · subst otherClass
      by_cases sameContract : otherContract = contract
      · simp [sameContract]
      · have unregistered := (registry.inverse classId otherContract).not.mp (by simp [classFresh])
        simp [sameContract, Ne.symm sameContract, unregistered]
    · by_cases sameContract : otherContract = contract
      · subst otherContract
        have unregistered := (registry.inverse otherClass contract).not.mpr
          (by simp [contractFresh])
        simp [sameClass, Ne.symm sameClass, unregistered]
      · simp [sameClass, sameContract, registry.inverse]
  · intro otherClass otherContract entry
    simp only [StoreMap.save_apply] at entry
    split at entry
    · cases entry
      exact contractKnown
    · exact registry.contract_known entry
  · intro otherClass otherContract entry
    simp only [StoreMap.save_apply] at entry
    split at entry
    next same =>
      cases entry
      exact same ▸ shape
    next => exact registry.shape entry
  · intro otherClass otherContract entry
    simp only [StoreMap.save_apply] at entry
    split at entry
    next same => exact same ▸ recorded
    next =>
      obtain ⟨cls, recordEntry⟩ := registry.class_recorded entry
      exact recordsKept otherClass (by simp [recordEntry])

/-- Registering a pair keeps all earlier entries. -/
theorem register_extends {classId : ClassId} {contract : Addr}
    {records : StoreMap ClassId Class}
    (contractFresh : storage.nftContractToClassId contract = none)
    (classFresh : storage.classIdToNftContract classId = none) :
    Extends storage { storage with
      classIdToNftContract := storage.classIdToNftContract.save classId contract
      nftContractToClassId := storage.nftContractToClassId.save contract classId
      classIdToClass := records } where
  contract_kept := by
    intro otherClass otherContract entry
    have different : otherClass ≠ classId := by
      rintro rfl
      simp [classFresh] at entry
    simp only [StoreMap.save_of_ne different, entry]
  class_kept := by
    intro otherContract otherClass entry
    have different : otherContract ≠ contract := by
      rintro rfl
      simp [contractFresh] at entry
    simp only [StoreMap.save_of_ne different, entry]

/-- The local class of a contract that has no class is unknown. -/
theorem local_class_fresh (registry : Registry codeId known storage) {contract : Addr}
    (noSlash : '/' ∉ contract.addr.toList) (fresh : storage.nftContractToClassId contract = none) :
    storage.classIdToNftContract ⟨contract.addr⟩ = none := by
  cases entry : storage.classIdToNftContract ⟨contract.addr⟩ with
  | none => rfl
  | some other =>
      have reverse := (registry.inverse ⟨contract.addr⟩ other).mp entry
      rcases registry.shape entry with same | slash
      · have : other = contract := by
          cases other
          cases contract
          simpa using same.symm
        simp [this, fresh] at reverse
      · exact absurd slash noSlash

/-! ## Handlers -/

/-- A contract that sends an NFT ends up registered under the class its NFT is sent
as. -/
theorem classForContract (registry : Registry codeId known storage) {contract : Addr}
    {after : Storage} {cls : Class} (contractKnown : known contract)
    (noSlash : '/' ∉ contract.addr.toList)
    (selected : Ics721.classForContract storage contract = .ok (after, cls)) :
    Registry codeId known after ∧ Extends storage after ∧
      after.classIdToNftContract cls.id = some contract := by
  unfold Ics721.classForContract at selected
  split at selected
  next classId entry =>
    simp only [bind_eq_ok, Storage.loadClass_eq_ok, pure_eq_ok, Prod.mk.injEq] at selected
    obtain ⟨found, recordEntry, rfl, rfl⟩ := selected
    rw [registry.class_id recordEntry]
    exact ⟨registry, Extends.refl _, (registry.inverse classId contract).mpr entry⟩
  next contractFresh =>
    simp only [Except.ok.injEq, Prod.mk.injEq] at selected
    obtain ⟨rfl, rfl⟩ := selected
    have classFresh := registry.local_class_fresh noSlash contractFresh
    refine ⟨?_, register_extends contractFresh classFresh, by simp⟩
    refine registry.register contractFresh classFresh contractKnown (.inl rfl) ⟨_, by simp; rfl⟩
      ?_ ?_
    · intro other present
      by_cases same : other = ⟨contract.addr⟩
      · exact ⟨_, by rw [same, StoreMap.save_self]⟩
      · rw [StoreMap.save_of_ne same]
        exact Option.ne_none_iff_exists'.mp present
    · intro other found entry
      simp only [StoreMap.save_apply] at entry
      split at entry
      next same =>
        cases entry
        exact same.symm
      next => exact registry.class_id entry

/-- What `receive_nft` sends: one token of a class that is registered for the contract
it came from. -/
theorem receiveNft (registry : Registry codeId known storage) {api : Api}
    {querier : Querier} {info : Addr} {tokenId : TokenId} {sender : String} {msg : Binary}
    {after : Storage} {response : Response} (contractKnown : known info)
    (noSlash : '/' ∉ info.addr.toList)
    (received : Ics721.receiveNft api querier storage info tokenId sender msg =
      .ok (after, response)) :
    Registry codeId known after ∧ Extends storage after ∧
      ∃ outgoing data, api.ibcOutgoing.fromBinary msg = .ok outgoing ∧
        response.messages = [(CosmosMsg.ibc (.sendPacket outgoing.channelId
          (api.packetData.toBinary data) outgoing.timeout)).sub] ∧
        after.classIdToNftContract data.classId = some info ∧
        data.tokenIds = [tokenId] ∧ data.sender = sender ∧
        data.receiver = outgoing.receiver ∧ api.addrValid sender = true := by
  simp only [Ics721.receiveNft, bind_eq_ok, mapError_eq_ok, Api.addrValidate_eq_ok,
    pure_eq_ok, Prod.mk.injEq] at received
  obtain ⟨from_, ⟨valid, rfl⟩, outgoing, decoded, ⟨registered, cls⟩, selected, uri, queried,
    rfl, rfl⟩ := received
  obtain ⟨kept, extended, entry⟩ := registry.classForContract contractKnown noSlash selected
  refine ⟨?_, ⟨extended.contract_kept, extended.class_kept⟩, outgoing,
    outgoingPacketData registered cls tokenId uri ⟨sender⟩ outgoing, decoded, rfl, entry, rfl,
    rfl, rfl, valid⟩
  refine { kept with outgoing_registered := ?_ }
  intro classId otherToken channelId present
  simp only [StoreMap.save_apply] at present
  split at present
  next same =>
    cases same
    exact ⟨info, entry⟩
  next => exact kept.outgoing_registered present

/-- Minting saves metadata only for a class that is registered. -/
theorem callbackMint (registry : Registry codeId known storage) {api : Api}
    {classId : ClassId} {tokens : List Token} {receiver : String} {after : Storage}
    {response : Response}
    (minted : Ics721.callbackMint api storage classId tokens receiver =
      .ok (after, response)) :
    Registry codeId known after ∧ Extends storage after := by
  simp only [Ics721.callbackMint, bind_eq_ok, mapError_eq_ok, Api.addrValidate_eq_ok,
    Storage.loadNftContract_eq_ok, pure_eq_ok, Prod.mk.injEq] at minted
  obtain ⟨owner, -, contract, entry, rfl, -⟩ := minted
  refine ⟨{ registry with metadata_registered := ?_ }, .of_eq rfl rfl⟩
  intro other tokenId value present
  rcases StoreMap.of_foldl_save present with before | ⟨token, -, same⟩
  · exact registry.metadata_registered before
  · cases same
    exact ⟨contract, entry⟩

/-- Overwriting the record of a class leaves the registry alone. -/
theorem saveClass (registry : Registry codeId known storage) (cls : Class) :
    Registry codeId known
      { storage with classIdToClass := storage.classIdToClass.save cls.id cls } := by
  refine { registry with class_id := ?_, class_recorded := ?_ }
  · intro classId found entry
    simp only [StoreMap.save_apply] at entry
    split at entry
    next same =>
      cases entry
      exact same.symm
    next => exact registry.class_id entry
  · intro classId contract entry
    by_cases same : classId = cls.id
    · exact ⟨cls, by rw [same]; simp⟩
    · obtain ⟨found, recordEntry⟩ := registry.class_recorded entry
      exact ⟨found, by simp only [StoreMap.save_of_ne same, recordEntry]⟩

/-- The reply to the instantiation of a voucher collection. -/
theorem replyInstantiateCw721 (registry : Registry codeId known storage) {api : Api}
    {querier : Querier} {contract : Addr} {name : String} {id : Nat} {after : Storage}
    {response : Response} (contractKnown : known contract)
    (contractFresh : storage.nftContractToClassId contract = none)
    (classFresh : storage.classIdToNftContract ⟨name⟩ = none)
    (slash : '/' ∈ name.toList)
    (recorded : ∃ cls, storage.classIdToClass ⟨name⟩ = some cls)
    (named : ∀ found, querier.contractInfo contract = .ok found → found = name)
    (replied : Ics721.replyInstantiateCw721 api querier storage
      ⟨id, .ok (some (.instantiated contract.addr))⟩ = .ok (after, response)) :
    Registry codeId known after ∧ Extends storage after ∧ response.messages = [] := by
  simp only [Ics721.replyInstantiateCw721, parseReplyInstantiateData, mapError_ok, ok_bind,
    bind_eq_ok, mapError_eq_ok, Api.addrValidate_eq_ok, pure_eq_ok, Prod.mk.injEq] at replied
  obtain ⟨found, ⟨-, rfl⟩, foundName, queried, rfl, rfl⟩ := replied
  have : foundName = name := named foundName queried
  subst foundName
  exact ⟨registry.register contractFresh classFresh contractKnown (.inr slash) recorded
      (fun other present => Option.ne_none_iff_exists'.mp present) registry.class_id,
    register_extends contractFresh classFresh, rfl⟩

/-! ## Receiving and settling packets -/

/-- The fold over incoming tokens saves incoming entries and removes outgoing ones. -/
theorem selectActions (registry : Registry codeId known storage) (packet : IbcPacket)
    (data : NonFungibleTokenPacketData) :
    Registry codeId known (Ics721.selectActions packet data storage).1 ∧
      Extends storage (Ics721.selectActions packet data storage).1 := by
  rw [selectActions_eq]
  have same := sameButTransit_selectFrom packet.dest data.classId
    (tryPopSourcePrefix packet.src data.classId.id) storage data.incoming
  refine ⟨registry.of_less same.code same.contracts same.classes same.records ?_ ?_,
    .of_eq same.contracts same.classes⟩
  · intro key channelId present
    exact of_outgoing_selectFrom present
  · intro key value present
    exact same.metadata ▸ present

/-- A failed packet only removes outgoing entries, and asks for transfers. -/
theorem handlePacketFail (registry : Registry codeId known storage) {api : Api}
    {packet : IbcPacket} {error : String} {after : Storage} {response : Response}
    (handled : Ics721.handlePacketFail api storage packet error = .ok (after, response)) :
    Registry codeId known after ∧ Extends storage after := by
  simp only [Ics721.handlePacketFail, bind_eq_ok, mapError_eq_ok, Api.addrValidate_eq_ok,
    Storage.loadNftContract_eq_ok, pure_eq_ok, Prod.mk.injEq] at handled
  obtain ⟨message, -, contract, -, sender, -, rfl, -⟩ := handled
  refine ⟨registry.of_less rfl rfl rfl rfl ?_ fun _ _ => id, .of_eq rfl rfl⟩
  intro key channelId present
  exact StoreMap.of_foldl_remove present

theorem handlePacketSuccess (registry : Registry codeId known storage) {api : Api}
    {packet : IbcPacket} {after : Storage} {response : Response}
    (handled : Ics721.handlePacketSuccess api storage packet = .ok (after, response)) :
    Registry codeId known after ∧ Extends storage after := by
  simp only [Ics721.handlePacketSuccess, bind_eq_ok, mapError_eq_ok,
    Storage.loadNftContract_eq_ok, pure_eq_ok, Prod.mk.injEq] at handled
  obtain ⟨message, -, contract, -, rfl, -⟩ := handled
  obtain ⟨burned, -, -, folded⟩ := foldl_burnNotice message.classId packet.src.channelId
    contract message.tokenIds storage []
  rw [folded]
  refine ⟨registry.of_less rfl rfl rfl rfl (fun _ _ => id) ?_, .of_eq rfl rfl⟩
  intro key value present
  exact StoreMap.of_foldl_remove present

end Registry

end Ics721
