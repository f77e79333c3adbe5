import Ics721.Chain.Cw721
import Ics721.Model.Json

/-!
# A chain to run the bridge on

A concrete deployment: addresses are words of lower-case letters and digits, contracts
are called `contract0`, `contract1` and so on, and the texts of packets are those of
`serde`.
-/

namespace Ics721

open Library

namespace Sample

/-- At least three lower-case letters or digits. -/
def addrValid (text : String) : Bool :=
  3 ≤ text.toList.length && text.toList.all fun char => char.isLower || char.isDigit

theorem addrValid_ne_empty (text : String) (valid : addrValid text = true) : text ≠ "" := by
  rintro rfl
  revert valid
  decide

theorem addrValid_no_slash (text : String) (valid : addrValid text = true) :
    '/' ∉ text.toList := by
  intro member
  simp only [addrValid, Bool.and_eq_true, List.all_eq_true] at valid
  have letter := valid.2 '/' member
  revert letter
  decide

def api : Api where
  toJson := Json.serde
  addrValid := addrValid
  addrError _ := .genericErr "Invalid input"
  debugEscape _ := none
  valid_ne_empty := addrValid_ne_empty
  valid_no_slash := addrValid_no_slash

/-- The name of a contract. -/
def contractName (index : Nat) : String := "contract" ++ toString index

theorem toList_contractName (index : Nat) :
    (contractName index).toList = "contract".toList ++ Nat.toDigits 10 index := by
  simp [contractName]

theorem contractName_injective : Function.Injective contractName := by
  intro left right same
  have digits : Nat.toDigits 10 left = Nat.toDigits 10 right := by
    have lists := congrArg String.toList same
    rw [toList_contractName, toList_contractName] at lists
    exact List.append_cancel_left lists
  have numbers := congrArg (fun digits => Nat.ofDigitChars 10 digits 0) digits
  simpa [Nat.ofDigitChars_toDigits] using numbers

theorem addrValid_contractName (index : Nat) : addrValid (contractName index) = true := by
  simp only [addrValid, toList_contractName, Bool.and_eq_true, decide_eq_true_eq,
    List.all_append, List.length_append]
  refine ⟨?_, by decide, ?_⟩
  · have long : "contract".toList.length = 8 := by decide
    omega
  · rw [List.all_eq_true]
    intro digit member
    simp [Nat.isDigit_of_mem_toDigits (by decide) (by decide) member]

theorem contractName_ne_bridge (index : Nat) : contractName index ≠ "bridge" := by
  intro same
  have lists := congrArg String.toList same
  rw [toList_contractName] at lists
  have heads := congrArg List.head? lists
  revert heads
  simp

/-- A bridge on port `wasm.bridge` with the given channels. -/
def deployment (counterparty : String → Option IbcEndpoint)
    (counterparty_empty : counterparty "" = none) : Deployment where
  api := api
  bridge := ⟨"bridge"⟩
  portId := "wasm.bridge"
  counterparty := counterparty
  counterparty_empty := counterparty_empty
  errorText
    | .bridge error => error.toString
    | .contract error => error
    | .channelNotFound channelId => channelId ++ ": channel not found"
    | .unknownPacket => "packet commitment not found"
    | .depthExceeded => "max call depth exceeded"
  depth := 10
  newAddress index := ⟨contractName index⟩
  newAddress_injective := by
    intro left right same
    exact contractName_injective (Addr.mk.inj same)
  newAddress_valid := addrValid_contractName
  newAddress_ne_bridge := by
    intro index same
    exact contractName_ne_bridge index (Addr.mk.inj same)
  bridge_valid := by decide

/-! ## A chain with two channels -/

/-- The other ends of `channel-0` and `channel-1`. -/
def counterparty (channelId : String) : Option IbcEndpoint :=
  if channelId = "channel-0" then some ⟨"wasm.east", "channel-7"⟩
  else if channelId = "channel-1" then some ⟨"wasm.west", "channel-9"⟩
  else none

def chain : Deployment := deployment counterparty rfl

theorem counterparty_slashless (channelId : String) (opened : chain.counterparty channelId ≠ none) :
    '/' ∉ channelId.toList := by
  simp only [chain, deployment, counterparty] at opened
  split at opened
  next same =>
    subst same
    decide
  next =>
    split at opened
    next same =>
      subst same
      decide
    next => exact absurd rfl opened

/-- The bridge is instantiated without proxy and pauser. -/
def instantiateMsg : InstantiateMsg := ⟨1, none, none⟩

/-- The state in which the bridge starts: there are no collections. -/
def genesis : World Ledger where
  storage :=
    { cw721CodeId := 1
      proxy := none
      pauser := none
      paused := false
      classIdToNftContract := .empty
      nftContractToClassId := .empty
      classIdToClass := .empty
      outgoingClassTokenToChannel := .empty
      incomingClassTokenToChannel := .empty
      tokenMetadata := .empty }
  contracts := ⟨.empty, 0⟩
  commitments := []
  nextSequence := 0
  sends := []

theorem instantiateTx_genesis :
    chain.instantiateTx chain.contracts instantiateMsg ⟨.empty, 0⟩ = .ok genesis :=
  rfl

/-- A request to send an NFT over a channel. -/
def request (receiver channelId : String) : Binary :=
  api.ibcOutgoing.toBinary ⟨receiver, channelId, ⟨none, some 5⟩, none⟩

/-- Alice instantiates a collection and mints an NFT. -/
def minted : List Chain.Label :=
  [.execute ⟨"alice"⟩ (.instantiate none 1 (.cw721 ⟨"art", "ART", "alice"⟩) "art"),
    .execute ⟨"alice"⟩ (.execute ⟨"contract0"⟩ (.cw721 (.mint ⟨"gem"⟩ "alice" none)))]

/-- The owner sends the NFT over a channel. -/
def sendGem (owner receiver channelId : String) : Chain.Label :=
  .execute ⟨owner⟩ (.execute ⟨"contract0"⟩
    (.cw721 (.sendNft "bridge" ⟨"gem"⟩ (request receiver channelId))))

/-- Alice sends her NFT to Bob over `channel-0`. -/
def sent : List Chain.Label := minted ++ [sendGem "alice" "bob" "channel-0"]

/-- Alice sends her NFT without naming a receiver. -/
def sentToNobody : List Chain.Label := minted ++ [sendGem "alice" "" "channel-0"]

/-- The state after a run. -/
def run (labels : List Chain.Label) : World Ledger :=
  labels.foldl (chain.step chain.contracts) genesis

end Sample

end Ics721
