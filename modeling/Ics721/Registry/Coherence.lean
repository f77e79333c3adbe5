import Ics721.Chain.Sample
import Ics721.Cw721.Conformance
import Ics721.Registry.Runs

/-!
# The registry is a write-once bijection

What the registry's invariant amounts to for the entry points that read it: between any
two stages of a run the class maps stay inverse to each other and keep their entries, and
no load of a registered class fails.
-/

namespace Ics721

open Library

/-- The class registry of `after`, a later stage of a run than `before`. -/
structure RegistryCoherent (before after : Storage) : Prop where
  inverse : ∀ classId contract, after.classIdToNftContract classId = some contract ↔
    after.nftContractToClassId contract = some classId
  contract_kept : ∀ classId contract, before.classIdToNftContract classId = some contract →
    after.classIdToNftContract classId = some contract
  class_kept : ∀ contract classId, before.nftContractToClassId contract = some classId →
    after.nftContractToClassId contract = some classId
  class_recorded : ∀ classId contract, after.classIdToNftContract classId = some contract →
    ∃ cls, after.classIdToClass classId = some cls ∧ cls.id = classId
  outgoing_registered : ∀ classId tokenId channelId,
    after.outgoingClassTokenToChannel (classId, tokenId) = some channelId →
    ∃ contract, after.classIdToNftContract classId = some contract
  metadata_registered : ∀ classId tokenId metadata,
    after.tokenMetadata (classId, tokenId) = some metadata →
    ∃ contract, after.classIdToNftContract classId = some contract
  /-- The assertion of `query_token_metadata` holds whenever it is reached. -/
  assertion_holds : ∀ querier classId tokenId token failed,
    queryTokenMetadata querier after classId tokenId = .ok (token, failed) → failed = false
  /-- The load of `receive_nft` succeeds for every contract that sends an NFT. -/
  receive_loads : ∀ contract, ∃ outcome, classForContract after contract = .ok outcome
  /-- The load of `callback_redeem_vouchers` succeeds for whatever a packet redeems. -/
  redeem_loads : ∀ packet data classId tokenId,
    Action.redemption classId tokenId ∈ (selectActions packet data after).2 →
    ∃ contract, (selectActions packet data after).1.loadNftContract classId = .ok contract

namespace Registry

variable {codeId : Nat} {known : Addr → Prop} {storage : Storage}

theorem queryTokenMetadata (registry : Registry codeId known storage) {querier : Querier}
    {classId : ClassId} {tokenId : TokenId} {token : Option Token} {failed : Bool}
    (queried : Ics721.queryTokenMetadata querier storage classId tokenId =
      .ok (token, failed)) : failed = false := by
  unfold Ics721.queryTokenMetadata at queried
  split at queried
  next =>
    cases queried
    rfl
  next metadata present =>
    rcases registry.metadata_registered present with ⟨contract, entry⟩
    simp only [entry, bind_eq_ok, pure_eq_ok, Prod.mk.injEq] at queried
    rcases queried with ⟨uri, -, -, rfl⟩
    rfl

theorem exists_classForContract (registry : Registry codeId known storage) (contract : Addr) :
    ∃ outcome, Ics721.classForContract storage contract = .ok outcome := by
  unfold Ics721.classForContract
  split
  next classId entry =>
    rcases registry.class_recorded ((registry.inverse classId contract).mpr entry) with
      ⟨cls, recorded⟩
    exact ⟨(storage, cls), by simp [Storage.loadClass_eq_ok.mpr recorded, pure, Except.pure]⟩
  next => exact ⟨_, rfl⟩

theorem exists_loadNftContract (registry : Registry codeId known storage) {packet : IbcPacket}
    {data : NonFungibleTokenPacketData} {classId : ClassId} {tokenId : TokenId}
    (redeemed : Action.redemption classId tokenId ∈
      (Ics721.selectActions packet data storage).2) :
    ∃ contract, (Ics721.selectActions packet data storage).1.loadNftContract classId =
      .ok contract := by
  rw [selectActions_eq] at redeemed ⊢
  have same := sameButTransit_selectFrom packet.dest data.classId
    (tryPopSourcePrefix packet.src data.classId.id) storage data.incoming
  rcases registry.outgoing_registered (redemption_selectFrom redeemed).2.1 with ⟨contract, entry⟩
  refine ⟨contract, ?_⟩
  rw [Storage.loadNftContract_eq_ok, same.contracts, entry]

theorem coherent (registry : Registry codeId known storage) {before : Storage}
    (extended : Extends before storage) : RegistryCoherent before storage where
  inverse := registry.inverse
  contract_kept _ _ := extended.contract_kept
  class_kept _ _ := extended.class_kept
  class_recorded := by
    intro classId contract entry
    rcases registry.class_recorded entry with ⟨cls, recorded⟩
    exact ⟨cls, recorded, registry.class_id recorded⟩
  outgoing_registered _ _ _ := registry.outgoing_registered
  metadata_registered _ _ _ := registry.metadata_registered
  assertion_holds _ _ _ _ _ := registry.queryTokenMetadata
  receive_loads := registry.exists_classForContract
  redeem_loads _ _ _ _ := registry.exists_loadNftContract

end Registry

/-- Whatever the other contracts, the counterparties and the accounts of the chain do: the
registry is coherent after every run, and after every continuation of it. -/
theorem registry_coherent_of_run {σ : Type} {chain : Chain} {contracts : Contracts σ}
    {msg : InstantiateMsg} (lawful : Lawful chain contracts msg.cw721BaseCodeId) {state : σ}
    {genesis : World σ} (instantiated : chain.instantiateTx contracts msg state = .ok genesis)
    (earlier later : List Chain.Label) :
    RegistryCoherent (earlier.foldl (chain.step contracts) genesis).storage
      ((earlier ++ later).foldl (chain.step contracts) genesis).storage := by
  have start := Sound.instantiateTx lawful rfl instantiated
  have middle := (start.run lawful earlier).1
  rcases middle.run lawful later with ⟨final, extended⟩
  rw [List.foldl_append]
  exact final.registry.coherent extended

theorem registry_coherent_of_sample :
    (Sample.run Sample.minted).storage.classIdToNftContract ⟨"contract0"⟩ = none ∧
      (Sample.run Sample.sent).storage.classIdToNftContract ⟨"contract0"⟩ =
        some ⟨"contract0"⟩ ∧
      RegistryCoherent (Sample.run Sample.minted).storage (Sample.run Sample.sent).storage :=
  ⟨by decide +kernel, by decide +kernel,
    registry_coherent_of_run (Deployment.lawful (.refl _) 1) Sample.instantiateTx_genesis
      Sample.minted [Sample.sendGem "alice" "bob" "channel-0"]⟩

end Ics721
