import Ics721.Library.StoreMap
import Ics721.Model.Types

/-!
# Storage of the bridge

The items and maps of `state.rs`.  Items are saved by `instantiate` before any
other entry point can run, so they are plain fields.  The two items of the pause
orchestrator and its operations (`cw-pause-once`) are at the end.
-/

namespace Ics721

open Library

/-- The JSON codecs of the values that cross a trust boundary. -/
structure Json where
  packetData : Codec StdError NonFungibleTokenPacketData
  ack : Codec StdError Ics721Ack
  ibcOutgoing : Codec StdError IbcOutgoingMsg

/-- The libraries and the host API the bridge depends on: JSON, address validation
and which characters `{:?}` escapes beyond the fixed ones.  Addresses are bech32
strings. -/
structure Api extends Json where
  addrValid : String → Bool
  addrError : String → StdError
  debugEscape : Char → Option String
  valid_ne_empty : ∀ text, addrValid text = true → text ≠ ""
  valid_no_slash : ∀ text, addrValid text = true → '/' ∉ text.toList

/-- `deps.api.addr_validate`: the address is the text itself. -/
def Api.addrValidate (api : Api) (text : String) : Except StdError Addr :=
  if api.addrValid text then .ok ⟨text⟩ else .error (api.addrError text)

@[simp] theorem Api.addrValidate_eq_ok {api : Api} {text : String} {addr : Addr} :
    api.addrValidate text = .ok addr ↔ api.addrValid text = true ∧ addr = ⟨text⟩ := by
  unfold Api.addrValidate
  split
  next valid => simp [valid, eq_comm]
  next invalid => simp [invalid]

structure Storage where
  /-- The code ID used for instantiating new cw721s. -/
  cw721CodeId : Nat
  /-- The proxy that the bridge is receiving NFTs from, if any. -/
  proxy : Option Addr
  /-- The address that may pause the bridge, once. -/
  pauser : Option Addr
  paused : Bool
  classIdToNftContract : StoreMap ClassId Addr
  nftContractToClassId : StoreMap Addr ClassId
  classIdToClass : StoreMap ClassId Class
  /-- The local channel that an NFT has been sent out on. -/
  outgoingClassTokenToChannel : StoreMap (ClassId × TokenId) String
  /-- Same as above, but for NFTs arriving at the bridge. -/
  incomingClassTokenToChannel : StoreMap (ClassId × TokenId) String
  /-- On-chain metadata of tokens that arrived from other chains.  The outer option
  is the map's, the inner one says whether the token came with data. -/
  tokenMetadata : StoreMap (ClassId × TokenId) (Option Binary)

namespace Storage

/-- Read the contract that a class has to have. -/
def loadNftContract (storage : Storage) (classId : ClassId) : Except StdError Addr :=
  storage.classIdToNftContract.load (.notFound "cosmwasm_std::addresses::Addr") classId

/-- Read the record that a class has to have. -/
def loadClass (storage : Storage) (classId : ClassId) : Except StdError Class :=
  storage.classIdToClass.load (.notFound "cw_ics721_bridge::token_types::Class") classId

@[simp] theorem loadNftContract_eq_ok {storage : Storage} {classId : ClassId}
    {contract : Addr} :
    storage.loadNftContract classId = .ok contract ↔
      storage.classIdToNftContract classId = some contract :=
  StoreMap.load_eq_ok

@[simp] theorem loadClass_eq_ok {storage : Storage} {classId : ClassId} {cls : Class} :
    storage.loadClass classId = .ok cls ↔ storage.classIdToClass classId = some cls :=
  StoreMap.load_eq_ok

/-! ## The pause orchestrator -/

/-- Set a new pauser.  If the bridge is paused, it is unpaused. -/
def setPauser (api : Api) (storage : Storage) (pauser : Option String) :
    Except StdError Storage := do
  let pauser ← pauser.mapM api.addrValidate
  return { storage with pauser := pauser, paused := false }

/-- Error if the bridge is paused, do nothing otherwise. -/
def errorIfPaused (storage : Storage) : Except PauseError Unit :=
  if storage.paused then .error .paused else .ok ()

/-- Pause the bridge and remove the pauser's ability to do so again. -/
def pause (storage : Storage) (sender : Addr) : Except PauseError Storage := do
  storage.errorIfPaused
  if storage.pauser ≠ some sender then
    .error (.unauthorized sender)
  else
    return { storage with pauser := none, paused := true }

@[simp] theorem errorIfPaused_eq_ok {storage : Storage} {value : Unit} :
    storage.errorIfPaused = .ok value ↔ storage.paused = false := by
  cases paused : storage.paused <;> simp [errorIfPaused, paused]

end Storage

end Ics721
