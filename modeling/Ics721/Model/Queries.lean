import Ics721.Model.Contract

/-!
# The query entry point

What the bridge tells about classes and NFTs.  Queries read its storage and ask the collections.
-/

namespace Ics721

/-- `cw721::OwnerOfResponse`: the owner of an NFT, and who else may send it. -/
structure OwnerOfResponse where
  owner : String
  approvals : List Addr
  deriving DecidableEq, Repr

/-- The smart queries that `query` makes, besides those of `execute` and `reply`. -/
structure OwnerQuerier extends Querier where
  ownerOf : Addr → TokenId → Except StdError OwnerOfResponse

inductive QueryMsg where
  | classId (contract : String)
  | nftContract (classId : String)
  | classMetadata (classId : String)
  | tokenMetadata (classId tokenId : String)
  | owner (classId tokenId : String)
  | pauser
  | paused
  | proxy
  deriving DecidableEq, Repr

/-- The answers, before they are serialised. -/
inductive QueryResponse where
  | classId (answer : Option ClassId)
  | nftContract (answer : Option Addr)
  | classMetadata (answer : Option Class)
  | tokenMetadata (answer : Option Token)
  | owner (answer : OwnerOfResponse)
  | pauser (answer : Option Addr)
  | paused (answer : Bool)
  | proxy (answer : Option Addr)
  deriving DecidableEq, Repr

def queryClassIdForNftContract (api : Api) (storage : Storage) (contract : String) :
    Except StdError (Option ClassId) := do
  let contract ← api.addrValidate contract
  return storage.nftContractToClassId contract

def queryNftContractForClassId (storage : Storage) (classId : String) : Option Addr :=
  storage.classIdToNftContract ⟨classId⟩

def queryClassMetadata (storage : Storage) (classId : String) : Option Class :=
  storage.classIdToClass ⟨classId⟩

/-- The owner is the one that the collection of the class names. -/
def queryOwner (querier : OwnerQuerier) (storage : Storage) (classId tokenId : String) :
    Except StdError OwnerOfResponse := do
  let contract ← storage.loadNftContract ⟨classId⟩
  querier.ownerOf contract ⟨tokenId⟩

/-- Assertions are compiled out of the contract, so `TokenMetadata` ignores its own. -/
def query (api : Api) (querier : OwnerQuerier) (storage : Storage) :
    QueryMsg → Except StdError QueryResponse
  | .classId contract => do
      return .classId (← queryClassIdForNftContract api storage contract)
  | .nftContract classId => .ok (.nftContract (queryNftContractForClassId storage classId))
  | .classMetadata classId => .ok (.classMetadata (queryClassMetadata storage classId))
  | .tokenMetadata classId tokenId => do
      let (token, _) ← queryTokenMetadata querier.toQuerier storage ⟨classId⟩ ⟨tokenId⟩
      return .tokenMetadata token
  | .owner classId tokenId => do
      return .owner (← queryOwner querier storage classId tokenId)
  | .pauser => .ok (.pauser storage.pauser)
  | .paused => .ok (.paused storage.paused)
  | .proxy => .ok (.proxy storage.proxy)

end Ics721
