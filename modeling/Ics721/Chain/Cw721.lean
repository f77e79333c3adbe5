import Ics721.Chain.Host

/-!
# Chains with cw721-base collections

The NFT contracts of most results are cw721-base contracts: the owner of an NFT and
those the owner approved may move or burn it, the minter of a collection may mint
unused token IDs, and only `SendNft` makes a call.  `Ledger` is the state of all
collections of a chain.  Approvals do not expire here; an approval that expires is one
that is revoked.

`Conforms` adds faults: any call of a collection may fail, but one that succeeds does
what cw721-base does.
-/

namespace Ics721

open Library

/-- An NFT of a collection. -/
structure TokenInfo where
  owner : Addr
  approvals : List Addr
  tokenUri : Option String
  deriving DecidableEq, Repr

/-- What a collection knows besides its NFTs.  `operators` has the pairs of an owner and
someone who may act for the owner. -/
structure CollectionInfo where
  name : String
  minter : Addr
  operators : StoreMap (Addr × Addr) Unit

namespace CollectionInfo

variable (self : CollectionInfo) (sender : Addr)

/-- `check_can_approve`. -/
def canApprove (token : TokenInfo) : Bool :=
  token.owner = sender || self.operators.has (token.owner, sender)

/-- `check_can_send`. -/
def canSend (token : TokenInfo) : Bool :=
  self.canApprove sender token || sender ∈ token.approvals

end CollectionInfo

/-- A cw721-base contract. -/
structure Collection extends CollectionInfo where
  tokens : StoreMap TokenId TokenInfo

namespace Collection

variable (api : Api) (self : Collection) (sender : Addr)

def loadToken (tokenId : TokenId) : Except String TokenInfo :=
  self.tokens.load "cw721_base::state::TokenInfo not found" tokenId

/-- An address in a message of a collection. -/
def validAddr (text : String) : Except String Addr :=
  (api.addrValidate text).mapError StdError.toString

def transferNft (recipient : String) (tokenId : TokenId) : Except String Collection := do
  let token ← self.loadToken tokenId
  if self.canSend sender token then do
    let owner ← validAddr api recipient
    return { self with
      tokens := self.tokens.save tokenId { token with owner := owner, approvals := [] } }
  else
    .error "Unauthorized"

def burn (tokenId : TokenId) : Except String Collection := do
  let token ← self.loadToken tokenId
  if self.canSend sender token then
    return { self with tokens := self.tokens.remove tokenId }
  else
    .error "Unauthorized"

def mint (tokenId : TokenId) (owner : String) (tokenUri : Option String) :
    Except String Collection :=
  if self.minter = sender then do
    let owner ← validAddr api owner
    if self.tokens.has tokenId then
      .error "token_id already claimed"
    else
      return { self with tokens := self.tokens.save tokenId ⟨owner, [], tokenUri⟩ }
  else
    .error "Unauthorized"

/-- `update_approvals`: `Approve` adds the spender, `Revoke` does not. -/
def updateApprovals (spender : String) (tokenId : TokenId) (add : Bool) :
    Except String Collection := do
  let token ← self.loadToken tokenId
  if self.canApprove sender token then do
    let spender ← validAddr api spender
    let others := token.approvals.filter (· ≠ spender)
    let approvals := if add then others ++ [spender] else others
    return { self with
      tokens := self.tokens.save tokenId { token with approvals := approvals } }
  else
    .error "Unauthorized"

def updateOperators (operator : String) (add : Bool) : Except String Collection := do
  let operator ← validAddr api operator
  return { self with
    operators := if add then self.operators.save (sender, operator) ()
      else self.operators.remove (sender, operator) }

/-- What a message does to the collection.  `SendNft` transfers the NFT first. -/
def execute : Cw721ExecuteMsg → Except String Collection
  | .transferNft recipient tokenId => self.transferNft api sender recipient tokenId
  | .sendNft contract tokenId _ => self.transferNft api sender contract tokenId
  | .burn tokenId => self.burn sender tokenId
  | .mint tokenId owner tokenUri => self.mint api sender tokenId owner tokenUri
  | .approve spender tokenId => self.updateApprovals api sender spender tokenId true
  | .revoke spender tokenId => self.updateApprovals api sender spender tokenId false
  | .approveAll operator => self.updateOperators api sender operator true
  | .revokeAll operator => self.updateOperators api sender operator false

end Collection

/-- The call that `SendNft` makes. -/
def Cw721ExecuteMsg.callbacks (sender : Addr) : Cw721ExecuteMsg → List (SubMsg CosmosMsg)
  | .sendNft contract tokenId msg =>
      [(WasmMsg.execute ⟨contract⟩
        (.bridge (.receiveNft ⟨sender.addr, tokenId.id, msg⟩))).sub]
  | _ => []

/-- All collections of a chain.  `instances` counts the contracts instantiated so far. -/
structure Ledger where
  collections : StoreMap Addr Collection
  instances : Nat

namespace Ledger

variable (api : Api) (ledger : Ledger)

/-- The collection at an address.  The host resolves valid addresses only. -/
def contractAt (contract : Addr) : Option Collection :=
  if api.addrValid contract.addr then ledger.collections contract else none

/-- What the collection at an address knows besides its NFTs. -/
def infoAt (contract : Addr) : Option CollectionInfo :=
  (ledger.contractAt api contract).map Collection.toCollectionInfo

/-- All NFTs of the chain, by collection and token ID. -/
def nfts : StoreMap (Addr × TokenId) TokenInfo := fun key =>
  (ledger.contractAt api key.1).bind fun collection => collection.tokens key.2

/-- Put a collection at an address. -/
def put (contract : Addr) (collection : Collection) : Ledger :=
  { ledger with collections := ledger.collections.save contract collection }

/-- Execute a message of a collection. -/
def call (sender contract : Addr) (msg : Cw721ExecuteMsg) : Except String Ledger :=
  match ledger.contractAt api contract with
  | none => .error "contract not found"
  | some collection => do
      let collection ← collection.execute api sender msg
      return ledger.put contract collection

end Ledger

/-- A bridge on a chain with cw721-base collections.  Contract addresses are valid,
never used twice, and different from the address of the bridge. -/
structure Deployment extends Chain where
  newAddress : Nat → Addr
  newAddress_injective : Function.Injective newAddress
  newAddress_valid : ∀ index, api.addrValid (newAddress index).addr = true
  newAddress_ne_bridge : ∀ index, newAddress index ≠ bridge
  bridge_valid : api.addrValid bridge.addr = true

namespace Deployment

variable (deployment : Deployment)

/-- Instantiate a collection at the next address. -/
def instantiate (ledger : Ledger) (msg : Cw721InstantiateMsg) :
    Except String (Addr × Ledger) := do
  let minter ← Collection.validAddr deployment.api msg.minter
  let contract := deployment.newAddress ledger.instances
  if (ledger.contractAt deployment.api contract).isSome then
    .error "contract account already exists"
  else
    return (contract, { ledger.put contract ⟨⟨msg.name, minter, .empty⟩, .empty⟩ with
      instances := ledger.instances + 1 })

/-- The collections as the host sees them. -/
def contracts : Contracts Ledger where
  execute _ ledger sender contract
    | .cw721 msg => do
        let after ← ledger.call deployment.api sender contract msg
        return ⟨after, msg.callbacks sender, none⟩
    | _ => .error "unknown variant"
  instantiate _ ledger _ _
    | .cw721 msg => do
        let (contract, after) ← deployment.instantiate ledger msg
        return (contract, ⟨after, [], none⟩)
    | .other _ => .error "unknown field"
  reply _ _ _ _ _ := .error "missing export reply"
  nftInfo ledger contract tokenId :=
    match ledger.nfts deployment.api (contract, tokenId) with
    | some token => .ok token.tokenUri
    | none => .error (.genericErr "Querier contract error")
  contractInfo ledger contract :=
    match ledger.contractAt deployment.api contract with
    | some collection => .ok collection.name
    | none => .error (.genericErr "Querier contract error")
  isContract ledger contract := (ledger.contractAt deployment.api contract).isSome

end Deployment

/-! ## Faults -/

/-- Contracts of which every call either fails or does what it does in `base`. -/
structure Conforms {σ : Type} (base contracts : Contracts σ) : Prop where
  execute : ∀ {storage state sender contract msg reaction},
    contracts.execute storage state sender contract msg = .ok reaction →
    base.execute storage state sender contract msg = .ok reaction
  instantiate : ∀ {storage state sender code msg outcome},
    contracts.instantiate storage state sender code msg = .ok outcome →
    base.instantiate storage state sender code msg = .ok outcome
  reply : ∀ {storage state contract id result reaction},
    contracts.reply storage state contract id result = .ok reaction →
    base.reply storage state contract id result = .ok reaction
  nftInfo : ∀ {state contract tokenId uri},
    contracts.nftInfo state contract tokenId = .ok uri →
    base.nftInfo state contract tokenId = .ok uri
  contractInfo : ∀ {state contract name},
    contracts.contractInfo state contract = .ok name →
    base.contractInfo state contract = .ok name
  isContract : contracts.isContract = base.isContract

theorem Conforms.refl {σ : Type} (base : Contracts σ) : Conforms base base :=
  ⟨id, id, id, id, id, rfl⟩

end Ics721
