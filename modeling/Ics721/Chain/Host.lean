import Ics721.Model.Ibc

/-!
# The chain around the bridge

The bridge runs on a chain together with other contracts.  `Contracts` is whatever
those contracts do; the bridge only ever sees them through messages and queries.
IBC core keeps a commitment for every packet it was handed until the packet is
acknowledged or timed out.

Transactions go through the dispatcher.  A transaction that fails leaves the chain
as it was.  That the host rejects responses with blank attributes is left to the results
that depend on it.
-/

namespace Ics721

open Library

/-- The other contracts of the chain and what they do, on a state of type `σ`.  They
may read the bridge's storage, and write only their own state. -/
structure Contracts (σ : Type) where
  execute : Storage → σ → (sender contract : Addr) → ExecMsg →
    Except String (Reaction σ CosmosMsg ReplyData)
  instantiate : Storage → σ → (sender : Addr) → (codeId : Nat) → InitMsg →
    Except String (Addr × Reaction σ CosmosMsg ReplyData)
  reply : Storage → σ → (contract : Addr) → Nat → Except String (Option ReplyData) →
    Except String (Reaction σ CosmosMsg ReplyData)
  nftInfo : σ → Addr → TokenId → Except StdError (Option String)
  contractInfo : σ → Addr → Except StdError String
  /-- Whether there is a contract, rather than an account, at an address. -/
  isContract : σ → Addr → Bool

/-- The queries of the bridge, answered in a given state of the other contracts. -/
def Contracts.querier {σ : Type} (contracts : Contracts σ) (state : σ) : Querier where
  nftInfo := contracts.nftInfo state
  contractInfo := contracts.contractInfo state

/-- Why a message fails. -/
inductive ChainError where
  | bridge (error : ContractError)
  | contract (error : String)
  | channelNotFound (channelId : String)
  | unknownPacket
  | depthExceeded
  deriving DecidableEq, Repr

/-- Where a bridge is deployed.  `counterparty` is the other end of each of its open
channels, none of which is called by the empty string; `errorText` is what the host tells
a reply handler about an error and `depth` how deep calls may nest below those that a
transaction makes itself. -/
structure Chain where
  api : Api
  bridge : Addr
  portId : String
  counterparty : String → Option IbcEndpoint
  counterparty_empty : counterparty "" = none
  errorText : ChainError → String
  depth : Nat

/-- A successful call of `receive_nft`: the contract it was for, the token, who sent it,
and where to. -/
structure SendRecord where
  contract : Addr
  tokenId : TokenId
  sender : String
  msg : Binary
  deriving DecidableEq, Repr

/-- What an execute message sends away on behalf of `sender`, if anything. -/
def ExecuteMsg.sendRecord (sender : Addr) : ExecuteMsg → Option SendRecord
  | .receiveNft msg => some ⟨sender, ⟨msg.tokenId⟩, msg.sender, msg.msg⟩
  | .receiveProxyNft eyeball msg => some ⟨⟨eyeball⟩, ⟨msg.tokenId⟩, msg.sender, msg.msg⟩
  | .pause | .callback _ => none

/-- The state of a chain.  `sends` is history: it is written and never read. -/
structure World (σ : Type) where
  storage : Storage
  contracts : σ
  /-- The packets the bridge has sent that are neither acknowledged nor timed out. -/
  commitments : List IbcPacket
  nextSequence : Nat
  sends : List SendRecord

namespace World

variable {σ : Type}

/-- Continue with the outcome of a handler of the bridge. -/
def react (world : World σ) (outcome : Storage × Response) :
    Reaction (World σ) CosmosMsg ReplyData where
  world := { world with storage := outcome.1 }
  messages := outcome.2.messages
  data := outcome.2.data.map .binary

/-- Continue with the outcome of a handler of another contract. -/
def reactContract (world : World σ) (outcome : Reaction σ CosmosMsg ReplyData) :
    Reaction (World σ) CosmosMsg ReplyData where
  world := { world with contracts := outcome.world }
  messages := outcome.messages
  data := outcome.data

end World

namespace Chain

variable {σ : Type} (chain : Chain) (contracts : Contracts σ)

/-- IBC core accepts a packet on an open channel. -/
def sendPacket (world : World σ) (channelId : String) (data : Binary)
    (timeout : IbcTimeout) : Except ChainError (World σ) :=
  match chain.counterparty channelId with
  | none => .error (.channelNotFound channelId)
  | some dest =>
      let packet : IbcPacket :=
        ⟨data, ⟨chain.portId, channelId⟩, dest, world.nextSequence, timeout⟩
      .ok { world with
        commitments := world.commitments ++ [packet]
        nextSequence := world.nextSequence + 1 }

/-- Execute one message.  Packets that other contracts send over channels of their own
do not concern the bridge. -/
def executeMsg (world : World σ) (sender : Addr) :
    CosmosMsg → Except ChainError (Addr × Reaction (World σ) CosmosMsg ReplyData)
  | .wasm (.execute contract msg) =>
      if contract = chain.bridge then
        match msg with
        | .bridge msg => do
            let outcome ← (execute chain.api chain.bridge
              (contracts.querier world.contracts) world.storage sender msg).mapError .bridge
            let world := { world with sends := world.sends ++ (msg.sendRecord sender).toList }
            return (contract, world.react outcome)
        | _ => .error (.bridge (.std
            (.parseErr "cw_ics721_bridge::msg::ExecuteMsg" "unknown variant")))
      else do
        let outcome ← (contracts.execute world.storage world.contracts sender contract
          msg).mapError .contract
        return (contract, world.reactContract outcome)
  | .wasm (.instantiate _ codeId msg _) => do
      let (contract, outcome) ← (contracts.instantiate world.storage world.contracts sender
        codeId msg).mapError .contract
      return (contract,
        { world.reactContract outcome with data := some (.instantiated contract.addr) })
  | .ibc (.sendPacket channelId data timeout) =>
      if sender = chain.bridge then do
        let world ← chain.sendPacket world channelId data timeout
        return (sender, ⟨world, [], none⟩)
      else
        .ok (sender, ⟨world, [], none⟩)

/-- Run the reply handler of a contract. -/
def replyMsg (world : World σ) (caller : Addr) (id : Nat)
    (result : Except ChainError (Option ReplyData)) :
    Except ChainError (Reaction (World σ) CosmosMsg ReplyData) :=
  let result := result.mapError chain.errorText
  if caller = chain.bridge then do
    let outcome ← (reply chain.api (contracts.querier world.contracts) world.storage
      ⟨id, result⟩).mapError .bridge
    return world.react outcome
  else do
    let outcome ← (contracts.reply world.storage world.contracts caller id
      result).mapError .contract
    return world.reactContract outcome

/-- All contracts of the chain, as the dispatcher sees them. -/
def machine : Machine (World σ) Addr CosmosMsg ChainError ReplyData where
  execute := chain.executeMsg contracts
  reply := chain.replyMsg contracts
  depthExceeded := .depthExceeded

/-- Run the submessages of a response of the bridge. -/
def runMessages (world : World σ) (messages : List (SubMsg CosmosMsg))
    (data : Option ReplyData) : Except ChainError (World σ × Option ReplyData) :=
  (chain.machine contracts).dispatch (chain.depth + 1) world chain.bridge messages data

/-! ## Transactions -/

/-- Deploy the bridge. -/
def instantiateTx (msg : InstantiateMsg) (state : σ) : Except ChainError (World σ) := do
  let (storage, response) ← (instantiate chain.api chain.bridge msg).mapError .bridge
  let (world, _) ← chain.runMessages contracts ⟨storage, state, [], 0, []⟩ response.messages none
  return world

/-- An account executes a message. -/
def executeTx (world : World σ) (sender : Addr) (msg : WasmMsg) :
    Except ChainError (World σ) := do
  let (world, _) ← (chain.machine contracts).dispatch (chain.depth + 1) world sender [msg.sub] none
  return world

/-- A packet is delivered to the bridge.  The result is the acknowledgement that IBC
core commits: the data of the response, as overridden by the reply handler. -/
def receiveTx (world : World σ) (packet : IbcPacket) :
    Except ChainError (World σ × Binary) := do
  let (storage, response) := ibcPacketReceive chain.api chain.bridge world.storage packet
  let (world, data) ← chain.runMessages contracts { world with storage := storage }
    response.messages (some (.binary response.acknowledgement))
  match data with
  | some (.binary acknowledgement) => return (world, acknowledgement)
  | _ => return (world, [])

/-- Settle a packet of the bridge with the given handler of the bridge. -/
def settleTx (world : World σ) (packet : IbcPacket)
    (handler : Storage → IbcPacket → Except ContractError (Storage × Response)) :
    Except ChainError (World σ) :=
  if packet ∈ world.commitments then do
    let (storage, response) ← (handler world.storage packet).mapError .bridge
    let (world, _) ← chain.runMessages contracts
      { world with storage := storage, commitments := world.commitments.erase packet }
      response.messages none
    return world
  else
    .error .unknownPacket

/-- A packet of the bridge is acknowledged. -/
def ackTx (world : World σ) (packet : IbcPacket) (acknowledgement : Binary) :
    Except ChainError (World σ) :=
  chain.settleTx contracts world packet
    fun storage packet => ibcPacketAck chain.api storage packet acknowledgement

/-- A packet of the bridge times out. -/
def timeoutTx (world : World σ) (packet : IbcPacket) : Except ChainError (World σ) :=
  chain.settleTx contracts world packet (ibcPacketTimeout chain.api)

/-- Governance migrates the bridge. -/
def migrateTx (world : World σ) (msg : MigrateMsg) : Except ChainError (World σ) := do
  let (storage, _) ← (migrate chain.api world.storage msg).mapError .bridge
  return { world with storage := storage }

/-! ## Runs -/

/-- One thing that happens to the bridge's chain. -/
inductive Label where
  | execute (sender : Addr) (msg : WasmMsg)
  | receive (packet : IbcPacket)
  | ack (packet : IbcPacket) (acknowledgement : Binary)
  | timeout (packet : IbcPacket)
  | migrate (msg : MigrateMsg)

/-- The transaction of a label.  Contracts do not sign transactions, and IBC core
delivers to the bridge only what is addressed to its port. -/
def transaction (world : World σ) : Label → Except ChainError (World σ)
  | .execute sender msg =>
      if sender = chain.bridge ∨ contracts.isContract world.contracts sender = true then
        .ok world
      else
        chain.executeTx contracts world sender msg
  | .receive packet =>
      if packet.dest.portId = chain.portId then
        (chain.receiveTx contracts world packet).map (·.1)
      else
        .ok world
  | .ack packet acknowledgement => chain.ackTx contracts world packet acknowledgement
  | .timeout packet => chain.timeoutTx contracts world packet
  | .migrate msg => chain.migrateTx world msg

/-- A failed transaction leaves the chain as it was. -/
def step (world : World σ) (label : Label) : World σ :=
  match chain.transaction contracts world label with
  | .ok after => after
  | .error _ => world

end Chain

/-! ## Lawful contracts -/

/-- What is assumed about the other contracts of the chain: contracts have valid
addresses, never disappear, and are instantiated at fresh ones; only contracts answer
`NftInfo`; a collection that the bridge instantiates makes no calls and has the name
it was given, if it answers at all. -/
structure Lawful {σ : Type} (chain : Chain) (contracts : Contracts σ) (codeId : Nat) : Prop where
  contract_valid : ∀ {state contract}, contracts.isContract state contract = true →
    chain.api.addrValid contract.addr = true
  execute_kept : ∀ {storage state sender contract msg reaction},
    contracts.execute storage state sender contract msg = .ok reaction →
    ∀ {other}, contracts.isContract state other = true →
      contracts.isContract reaction.world other = true
  reply_kept : ∀ {storage state contract id result reaction},
    contracts.reply storage state contract id result = .ok reaction →
    ∀ {other}, contracts.isContract state other = true →
      contracts.isContract reaction.world other = true
  instantiate_kept : ∀ {storage state sender code msg contract reaction},
    contracts.instantiate storage state sender code msg = .ok (contract, reaction) →
    ∀ {other}, contracts.isContract state other = true →
      contracts.isContract reaction.world other = true
  instantiate_fresh : ∀ {storage state sender code msg contract reaction},
    contracts.instantiate storage state sender code msg = .ok (contract, reaction) →
    contracts.isContract state contract = false ∧
      contracts.isContract reaction.world contract = true ∧ contract ≠ chain.bridge
  instantiate_cw721 : ∀ {storage state msg contract reaction},
    contracts.instantiate storage state chain.bridge codeId (.cw721 msg) =
      .ok (contract, reaction) →
    reaction.messages = [] ∧
      ∀ name, contracts.contractInfo reaction.world contract = .ok name → name = msg.name
  nftInfo_contract : ∀ {state contract tokenId uri},
    contracts.nftInfo state contract tokenId = .ok uri →
    contracts.isContract state contract = true

end Ics721
