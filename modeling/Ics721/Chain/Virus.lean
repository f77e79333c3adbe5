import Ics721.Chain.Sample

/-!
# The cw721-virus contract

An NFT contract that behaves as cw721-base does except when one of its NFTs is transferred.
It then mints NFTs to the bridge and tells the bridge that it received them, so that each of
them is sent on.  `Infected` is the state of a chain on which any collection may be a virus.
-/

namespace Ics721

open Library

/-- The items of a virus contract, besides those of cw721-base, and how many NFTs it has. -/
structure SpikeProteins where
  accompliceSrc : Option String
  accompliceDst : Option Addr
  channelId : Option String
  bridgeContract : Option Addr
  tokenCount : Nat
  deriving DecidableEq, Repr

/-- `ExtensionMsg::UpdateSpikeProteins`. -/
structure UpdateSpikeProteins where
  accompliceSrc : Option String
  accompliceDst : Option String
  channelId : Option String
  bridgeContract : Option String
  deriving DecidableEq, Repr

/-- What a contract can read about the transaction it runs in.  Time is in nanoseconds. -/
structure Env where
  height : Nat
  time : Nat
  txIndex : Nat
  deriving DecidableEq, Repr

namespace Json

open Format

/-- The text of `UpdateSpikeProteins` in an `ExecuteMsg::Extension`. -/
def spikeProteinsFormat : Format UpdateSpikeProteins :=
  refine
    (seq (after ("\x7b\"extension\":\x7b\"msg\":\x7b\"update_spike_proteins\":" ++
        "\x7b\"accomplice_src\":").toList nullableStr) <|
      seq (after ",\"accomplice_dst\":".toList nullableStr) <|
      seq (after ",\"channel_id\":".toList nullableStr) <|
      before (after ",\"bridge_contract\":".toList nullableStr) "\x7d\x7d\x7d\x7d".toList)
    (fun msg => (msg.accompliceSrc, msg.accompliceDst, msg.channelId, msg.bridgeContract))
    (fun (accompliceSrc, accompliceDst, channelId, bridgeContract) =>
      some ⟨accompliceSrc, accompliceDst, channelId, bridgeContract⟩)
    (fun _ => rfl)

def spikeProteins : Codec String UpdateSpikeProteins :=
  spikeProteinsFormat.codec "Error parsing into type cw721_base::msg::ExecuteMsg: Invalid JSON" rfl

end Json

namespace SpikeProteins

variable (api : Api) (proteins : SpikeProteins)

/-- Nothing is configured yet. -/
def initial : SpikeProteins := ⟨none, none, none, none, 0⟩

/-- Save the items that the message has. -/
def update (msg : UpdateSpikeProteins) : Except String SpikeProteins := do
  let accompliceDst ← msg.accompliceDst.mapM (Collection.validAddr api)
  let bridgeContract ← msg.bridgeContract.mapM (Collection.validAddr api)
  return { proteins with
    accompliceSrc := msg.accompliceSrc <|> proteins.accompliceSrc
    accompliceDst := accompliceDst <|> proteins.accompliceDst
    channelId := msg.channelId <|> proteins.channelId
    bridgeContract := bridgeContract <|> proteins.bridgeContract }

/-- How the number of NFTs changes when cw721-base executes a message. -/
def counted : Cw721ExecuteMsg → SpikeProteins
  | .mint _ _ _ => { proteins with tokenCount := proteins.tokenCount + 1 }
  | .burn _ => { proteins with tokenCount := proteins.tokenCount - 1 }
  | _ => proteins

end SpikeProteins

/-! ## TransferNft -/

section Transfer

variable (api : Api) (env : Env) (sender contract bridge : Addr)

/-- Mint an NFT to the bridge, with the sender as the minter, and tell the bridge. -/
def mintAndSend (ibcMsg : IbcOutgoingMsg) (index : Nat) (state : Collection × Nat) :
    Except String ((Collection × Nat) × SubMsg CosmosMsg) := do
  let tokenId := toString state.2 ++ ":" ++ toString env.height ++ ":" ++ toString env.txIndex ++
    ":" ++ toString index
  let collection := { state.1 with minter := sender }
  let minted ← (collection.mint api sender ⟨tokenId⟩ bridge.addr
    (some ("https://virus.com/" ++ tokenId))).mapError fun _ => "Generic error: mint failed"
  return ((minted, state.2 + 1), (WasmMsg.execute bridge
    (.bridge (.receiveNft ⟨contract.addr, tokenId, api.ibcOutgoing.toBinary ibcMsg⟩))).sub)

/-- Put a new NFT in front of every message. -/
def interleave (ibcMsg : IbcOutgoingMsg) :
    Nat → Collection × Nat → List (SubMsg CosmosMsg) →
      Except String ((Collection × Nat) × List (SubMsg CosmosMsg))
  | _, state, [] => .ok (state, [])
  | index, state, msg :: msgs => do
      let (state, send) ← mintAndSend api env sender contract bridge ibcMsg index state
      let (state, rest) ← interleave ibcMsg (index + 1) state msgs
      return (state, send :: msg :: rest)

/-- The end of an hour from now, and a number of minutes. -/
def Env.timeoutAfter (minutes : Nat) : IbcTimeout :=
  ⟨none, some (env.time + (3600 + 60 * minutes) * 1000000000)⟩

/-- Add new NFTs as long as there are fewer than ten messages; `missing` is how many. -/
def pad (ibcMsg : IbcOutgoingMsg) :
    (missing : Nat) → Collection × Nat → List (SubMsg CosmosMsg) →
      Except String ((Collection × Nat) × List (SubMsg CosmosMsg))
  | 0, state, msgs => .ok (state, msgs)
  | missing + 1, state, msgs => do
      let ibcMsg := { ibcMsg with
        memo := some (toString msgs.length)
        timeout := env.timeoutAfter (1 + msgs.length) }
      let (state, send) ← mintAndSend api env sender contract bridge ibcMsg msgs.length state
      pad ibcMsg missing state (msgs ++ [send])

end Transfer

/-- `Item::load`. -/
def loadItem {α : Type} (typeName : String) : Option α → Except String α
  | some value => .ok value
  | none => .error (typeName ++ " not found")

/-- The NFTs of the accomplice that the virus owns, each sent to the bridge. -/
def accompliceMessages (api : Api) (tokens : Addr → Except String (List TokenId))
    (bridge : Addr) (ibcMsg : IbcOutgoingMsg) :
    Option Addr → Except String (List (SubMsg CosmosMsg))
  | none => .ok []
  | some accomplice => do
      let owned ← tokens accomplice
      return owned.map fun tokenId => (WasmMsg.execute accomplice
        (.cw721 (.sendNft bridge.addr tokenId (api.ibcOutgoing.toBinary ibcMsg)))).sub

/-- `execute_transfer_nft`.  Neither the recipient nor the token ID is read.  `tokens` is the
answer of the accomplice to the query for its first six NFTs that the virus owns. -/
def executeTransferNft (api : Api) (env : Env) (sender contract : Addr)
    (tokens : Addr → Except String (List TokenId)) (collection : Collection)
    (proteins : SpikeProteins) :
    Except String (Collection × SpikeProteins × List (SubMsg CosmosMsg)) := do
  let accompliceSrc ← loadItem "alloc::string::String" proteins.accompliceSrc
  let channelId ← loadItem "alloc::string::String" proteins.channelId
  let bridge ← loadItem "cosmwasm_std::addresses::Addr" proteins.bridgeContract
  let ibcMsg : IbcOutgoingMsg := ⟨accompliceSrc, channelId, env.timeoutAfter 0, none⟩
  let msgs ← accompliceMessages api tokens bridge ibcMsg proteins.accompliceDst
  -- The accomplice is to time out before the NFTs of this contract do.
  let ibcMsg := { ibcMsg with timeout := env.timeoutAfter 1 }
  let (state, msgs) ← interleave api env sender contract bridge ibcMsg 0
    (collection, proteins.tokenCount) msgs
  let (state, msgs) ← pad api env sender contract bridge ibcMsg (10 - msgs.length) state msgs
  return (state.1, { proteins with tokenCount := state.2 }, msgs)

/-! ## Infected chains -/

/-- The collections of a chain, and which of them are viruses. -/
structure Infected where
  ledger : Ledger
  viruses : StoreMap Addr SpikeProteins

namespace Deployment

variable (deployment : Deployment) (env : Env)
variable (tokens : Ledger → (contract owner : Addr) → Except String (List TokenId))

/-- A virus executes a message. -/
def executeVirus (state : Infected) (sender contract : Addr) (collection : Collection)
    (proteins : SpikeProteins) : ExecMsg → Except String (Reaction Infected CosmosMsg ReplyData)
  | .cw721 (.transferNft _ _) => do
      let (collection, proteins, msgs) ← executeTransferNft deployment.api env sender contract
        (tokens state.ledger · contract) collection proteins
      return ⟨⟨state.ledger.put contract collection, state.viruses.save contract proteins⟩,
        msgs, none⟩
  | .cw721 msg => do
      let collection ← collection.execute deployment.api sender msg
      return ⟨⟨state.ledger.put contract collection,
        state.viruses.save contract (proteins.counted msg)⟩, msg.callbacks sender, none⟩
  | .other msg => do
      let update ← Json.spikeProteins.fromBinary msg
      let proteins ← proteins.update deployment.api update
      return ⟨{ state with viruses := state.viruses.save contract proteins }, [], none⟩
  | .bridge _ => .error "unknown variant"

/-- The contracts of an infected chain.  Collections with the code `virusCode` are viruses. -/
def infectedContracts (virusCode : Nat) : Contracts Infected where
  execute storage state sender contract msg :=
    match state.ledger.contractAt deployment.api contract, state.viruses contract with
    | some collection, some proteins =>
        deployment.executeVirus env tokens state sender contract collection proteins msg
    | _, _ => do
        let reaction ← deployment.contracts.execute storage state.ledger sender contract msg
        return ⟨{ state with ledger := reaction.world }, reaction.messages, reaction.data⟩
  instantiate storage state sender code msg := do
    let (contract, reaction) ←
      deployment.contracts.instantiate storage state.ledger sender code msg
    let viruses := if code = virusCode then state.viruses.save contract .initial
      else state.viruses
    return (contract, ⟨⟨reaction.world, viruses⟩, reaction.messages, reaction.data⟩)
  reply _ _ _ _ _ := .error "missing export reply"
  nftInfo state := deployment.contracts.nftInfo state.ledger
  contractInfo state := deployment.contracts.contractInfo state.ledger
  isContract state := deployment.contracts.isContract state.ledger

end Deployment

end Ics721
