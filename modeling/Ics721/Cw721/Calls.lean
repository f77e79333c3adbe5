import Ics721.Chain.Cw721

/-!
# What calls of a collection do

Every call is described by its effect on two views of the ledger: the NFTs of the chain
and what the collections know besides them.  NFTs whose holder has approved nobody stay
where they are whatever anyone else calls.
-/

namespace Ics721

open Library

/-! ## Collections -/

namespace Collection

variable {api : Api} {self after : Collection} {sender : Addr}

@[simp] theorem validAddr_eq_ok {text : String} {addr : Addr} :
    validAddr api text = .ok addr ↔ api.addrValid text = true ∧ addr = ⟨text⟩ := by
  simp [validAddr]

@[simp] theorem loadToken_eq_ok {tokenId : TokenId} {token : TokenInfo} :
    self.loadToken tokenId = .ok token ↔ self.tokens tokenId = some token :=
  StoreMap.load_eq_ok

theorem transferNft_eq_ok {recipient : String} {tokenId : TokenId} :
    self.transferNft api sender recipient tokenId = .ok after ↔
      ∃ token, self.tokens tokenId = some token ∧ self.canSend sender token = true ∧
        api.addrValid recipient = true ∧
        after = { self with
          tokens := self.tokens.save tokenId ⟨⟨recipient⟩, [], token.tokenUri⟩ } := by
  simp only [transferNft, bind_eq_ok, loadToken_eq_ok]
  refine exists_congr fun token => and_congr_right fun _ => ?_
  cases self.canSend sender token with
  | false => simp
  | true => simp [and_assoc, and_left_comm, @eq_comm _ after]

theorem burn_eq_ok {tokenId : TokenId} :
    self.burn sender tokenId = .ok after ↔
      ∃ token, self.tokens tokenId = some token ∧ self.canSend sender token = true ∧
        after = { self with tokens := self.tokens.remove tokenId } := by
  simp only [burn, bind_eq_ok, loadToken_eq_ok]
  refine exists_congr fun token => and_congr_right fun _ => ?_
  cases self.canSend sender token with
  | false => simp
  | true => simp [@eq_comm _ after]

theorem mint_eq_ok {tokenId : TokenId} {owner : String} {tokenUri : Option String} :
    self.mint api sender tokenId owner tokenUri = .ok after ↔
      self.minter = sender ∧ api.addrValid owner = true ∧ self.tokens tokenId = none ∧
        after = { self with tokens := self.tokens.save tokenId ⟨⟨owner⟩, [], tokenUri⟩ } := by
  unfold mint
  split
  next isMinter =>
    cases used : self.tokens tokenId with
    | none => simp [isMinter, StoreMap.has, used, and_assoc, and_left_comm, @eq_comm _ after]
    | some token => simp [isMinter, StoreMap.has, used]
  next notMinter => simp [notMinter]

theorem updateApprovals_eq_ok {spender : String} {tokenId : TokenId} {add : Bool}
    (updated : self.updateApprovals api sender spender tokenId add = .ok after) :
    ∃ token approvals, self.tokens tokenId = some token ∧
      self.canApprove sender token = true ∧
      after = { self with
        tokens := self.tokens.save tokenId { token with approvals := approvals } } := by
  simp only [updateApprovals, bind_eq_ok, loadToken_eq_ok] at updated
  obtain ⟨token, present, updated⟩ := updated
  split at updated
  next allowed =>
    simp only [bind_eq_ok, pure_eq_ok] at updated
    obtain ⟨_, _, rfl⟩ := updated
    exact ⟨token, _, present, allowed, rfl⟩
  next => cases updated

theorem updateOperators_eq_ok {operator : String} {add : Bool}
    (updated : self.updateOperators api sender operator add = .ok after) :
    ∃ operators, after = { self with operators := operators } ∧
      ∀ key, key.1 ≠ sender → operators key = self.operators key := by
  simp only [updateOperators, bind_eq_ok, pure_eq_ok] at updated
  obtain ⟨named, _, rfl⟩ := updated
  refine ⟨_, rfl, ?_⟩
  intro key different
  have distinct : key ≠ (sender, named) := by
    rintro rfl
    exact different rfl
  cases add with
  | true => simp [StoreMap.save_of_ne distinct]
  | false => simp [StoreMap.remove_of_ne distinct]

/-- The holder has approved nobody. -/
structure Custody (holder : Addr) (collection : Collection) : Prop where
  approvals : ∀ {tokenId token}, collection.tokens tokenId = some token →
    token.owner = holder → token.approvals = []
  operators : ∀ operator, collection.operators (holder, operator) = none

/-- Every NFT of the holder is still there, as it was. -/
def Keeps (holder : Addr) (before after : StoreMap TokenId TokenInfo) : Prop :=
  ∀ {tokenId token}, before tokenId = some token → token.owner = holder →
    after tokenId = some token

namespace Custody

variable {holder : Addr} {tokenId : TokenId} {token : TokenInfo}

theorem of_canApprove (custody : self.Custody holder) (owned : token.owner = holder)
    (allowed : self.canApprove sender token = true) : sender = holder := by
  simp only [CollectionInfo.canApprove, owned, StoreMap.has, custody.operators,
    Option.isSome_none, Bool.or_false, decide_eq_true_eq] at allowed
  exact allowed.symm

/-- Only the holder itself can move or burn what it holds. -/
theorem of_canSend (custody : self.Custody holder) (present : self.tokens tokenId = some token)
    (owned : token.owner = holder) (allowed : self.canSend sender token = true) :
    sender = holder := by
  simp only [CollectionInfo.canSend, custody.approvals present owned, List.not_mem_nil,
    decide_false, Bool.or_false] at allowed
  exact custody.of_canApprove owned allowed

/-- An NFT with fresh approvals is entered. -/
theorem save (custody : self.Custody holder)
    (approvals : token.owner = holder → token.approvals = []) :
    Custody holder { self with tokens := self.tokens.save tokenId token } where
  operators := custody.operators
  approvals := by
    intro other found present owned
    simp only [StoreMap.save_apply] at present
    split at present
    next =>
      cases present
      exact approvals owned
    next => exact custody.approvals present owned

theorem remove (custody : self.Custody holder) :
    Custody holder { self with tokens := self.tokens.remove tokenId } where
  operators := custody.operators
  approvals := fun present owned => custody.approvals (StoreMap.of_remove present) owned

theorem keeps_save
    (elsewhere : ∀ found, self.tokens tokenId = some found → found.owner ≠ holder) :
    Keeps holder self.tokens (self.tokens.save tokenId token) := by
  intro other found held owned
  have different : other ≠ tokenId := by
    rintro rfl
    exact elsewhere found held owned
  rw [StoreMap.save_of_ne different, held]

theorem keeps_remove
    (elsewhere : ∀ found, self.tokens tokenId = some found → found.owner ≠ holder) :
    Keeps holder self.tokens (self.tokens.remove tokenId) := by
  intro other found held owned
  have different : other ≠ tokenId := by
    rintro rfl
    exact elsewhere found held owned
  rw [StoreMap.remove_of_ne different, held]

theorem transferNft (custody : self.Custody holder) (outsider : sender ≠ holder)
    {recipient : String} (executed : self.transferNft api sender recipient tokenId = .ok after) :
    after.Custody holder ∧ Keeps holder self.tokens after.tokens := by
  obtain ⟨token, present, allowed, -, rfl⟩ := transferNft_eq_ok.mp executed
  refine ⟨custody.save fun _ => rfl, keeps_save ?_⟩
  intro found held owned
  rw [present] at held
  cases held
  exact outsider (custody.of_canSend present owned allowed)

theorem updateApprovals (custody : self.Custody holder) (outsider : sender ≠ holder)
    {spender : String} {add : Bool}
    (executed : self.updateApprovals api sender spender tokenId add = .ok after) :
    after.Custody holder ∧ Keeps holder self.tokens after.tokens := by
  obtain ⟨token, approvals, present, allowed, rfl⟩ := updateApprovals_eq_ok executed
  have elsewhere : token.owner ≠ holder := fun owned =>
    outsider (custody.of_canApprove owned allowed)
  refine ⟨custody.save fun owned => absurd owned elsewhere, keeps_save ?_⟩
  intro found held
  rw [present] at held
  cases held
  exact elsewhere

theorem updateOperators (custody : self.Custody holder) (outsider : sender ≠ holder)
    {operator : String} {add : Bool}
    (executed : self.updateOperators api sender operator add = .ok after) :
    after.Custody holder ∧ Keeps holder self.tokens after.tokens := by
  obtain ⟨operators, rfl, same⟩ := updateOperators_eq_ok executed
  refine ⟨⟨custody.approvals, ?_⟩, fun held _ => held⟩
  intro other
  exact (same _ (Ne.symm outsider)).trans (custody.operators other)

/-- A call by someone else leaves the NFTs of the holder alone. -/
theorem execute (custody : self.Custody holder) (outsider : sender ≠ holder)
    {msg : Cw721ExecuteMsg} (executed : self.execute api sender msg = .ok after) :
    after.Custody holder ∧ Keeps holder self.tokens after.tokens := by
  cases msg with
  | transferNft recipient tokenId => exact custody.transferNft outsider executed
  | sendNft contract tokenId msg => exact custody.transferNft outsider executed
  | burn tokenId =>
      obtain ⟨token, present, allowed, rfl⟩ := burn_eq_ok.mp executed
      refine ⟨custody.remove, keeps_remove ?_⟩
      intro found held owned
      rw [present] at held
      cases held
      exact outsider (custody.of_canSend present owned allowed)
  | mint tokenId owner tokenUri =>
      obtain ⟨-, -, unused, rfl⟩ := mint_eq_ok.mp executed
      refine ⟨custody.save fun _ => rfl, keeps_save ?_⟩
      intro found held
      rw [unused] at held
      cases held
  | approve spender tokenId => exact custody.updateApprovals outsider executed
  | revoke spender tokenId => exact custody.updateApprovals outsider executed
  | approveAll operator => exact custody.updateOperators outsider executed
  | revokeAll operator => exact custody.updateOperators outsider executed

end Custody

/-- Whoever calls: the name and the minter of a collection are fixed, and only the minter
can make an NFT appear. -/
theorem execute_fixed {msg : Cw721ExecuteMsg}
    (executed : self.execute api sender msg = .ok after) :
    after.name = self.name ∧ after.minter = self.minter ∧
      (self.minter ≠ sender → ∀ tokenId, self.tokens tokenId = none →
        after.tokens tokenId = none) := by
  have saved : ∀ {tokenId : TokenId} {old new : TokenInfo}, self.tokens tokenId = some old →
      ∀ other, self.tokens other = none → self.tokens.save tokenId new other = none := by
    intro tokenId old new present other unused
    have different : other ≠ tokenId := by
      rintro rfl
      simp [present] at unused
    rw [StoreMap.save_of_ne different, unused]
  cases msg with
  | transferNft recipient tokenId =>
      obtain ⟨token, present, -, -, rfl⟩ := transferNft_eq_ok.mp executed
      exact ⟨rfl, rfl, fun _ => saved present⟩
  | sendNft contract tokenId msg =>
      obtain ⟨token, present, -, -, rfl⟩ := transferNft_eq_ok.mp executed
      exact ⟨rfl, rfl, fun _ => saved present⟩
  | burn tokenId =>
      obtain ⟨token, -, -, rfl⟩ := burn_eq_ok.mp executed
      refine ⟨rfl, rfl, ?_⟩
      intro _ other unused
      simp [StoreMap.remove_apply, unused]
  | mint tokenId owner tokenUri =>
      obtain ⟨isMinter, -, -, rfl⟩ := mint_eq_ok.mp executed
      exact ⟨rfl, rfl, fun notMinter => absurd isMinter notMinter⟩
  | approve spender tokenId =>
      obtain ⟨token, approvals, present, -, rfl⟩ := updateApprovals_eq_ok executed
      exact ⟨rfl, rfl, fun _ => saved present⟩
  | revoke spender tokenId =>
      obtain ⟨token, approvals, present, -, rfl⟩ := updateApprovals_eq_ok executed
      exact ⟨rfl, rfl, fun _ => saved present⟩
  | approveAll operator =>
      obtain ⟨operators, rfl, -⟩ := updateOperators_eq_ok executed
      exact ⟨rfl, rfl, fun _ _ unused => unused⟩
  | revokeAll operator =>
      obtain ⟨operators, rfl, -⟩ := updateOperators_eq_ok executed
      exact ⟨rfl, rfl, fun _ _ unused => unused⟩

end Collection

/-! ## Ledgers -/

namespace Ledger

variable {api : Api} {ledger after : Ledger} {sender contract : Addr}
variable {collection next : Collection} {tokenId : TokenId} {token : TokenInfo}

theorem contractAt_eq_some :
    ledger.contractAt api contract = some collection ↔
      api.addrValid contract.addr = true ∧ ledger.collections contract = some collection := by
  unfold contractAt
  split
  next valid => simp [valid]
  next invalid => simp [invalid]

theorem contractAt_put (valid : api.addrValid contract.addr = true) (query : Addr) :
    (ledger.put contract next).contractAt api query =
      if query = contract then some next else ledger.contractAt api query := by
  by_cases same : query = contract
  · subst query
    simp [contractAt, put, valid]
  · simp [contractAt, put, StoreMap.save_of_ne same, same]

theorem call_eq_ok {msg : Cw721ExecuteMsg} :
    ledger.call api sender contract msg = .ok after ↔
      ∃ collection next, ledger.contractAt api contract = some collection ∧
        collection.execute api sender msg = .ok next ∧ after = ledger.put contract next := by
  unfold call
  split
  next missing => simp [missing]
  next collection found => simp [found, @eq_comm _ after]

theorem infoAt_eq_some {info : CollectionInfo} :
    ledger.infoAt api contract = some info ↔
      ∃ collection, ledger.contractAt api contract = some collection ∧
        collection.toCollectionInfo = info := by
  simp [infoAt]

theorem nfts_eq_some :
    ledger.nfts api (contract, tokenId) = some token ↔
      ∃ collection, ledger.contractAt api contract = some collection ∧
        collection.tokens tokenId = some token :=
  Option.bind_eq_some_iff

/-- An NFT is in a collection. -/
theorem infoAt_of_nfts {key : Addr × TokenId} (present : ledger.nfts api key = some token) :
    ∃ info, ledger.infoAt api key.1 = some info := by
  obtain ⟨collection, found, -⟩ := nfts_eq_some.mp present
  exact ⟨_, infoAt_eq_some.mpr ⟨collection, found, rfl⟩⟩

/-- The NFTs become `nfts` and everything else stays. -/
structure Becomes (api : Api) (before after : Ledger)
    (nfts : StoreMap (Addr × TokenId) TokenInfo) : Prop where
  infos : after.infoAt api = before.infoAt api
  nfts : after.nfts api = nfts
  instances : after.instances = before.instances

theorem put_infos (found : ledger.contractAt api contract = some collection)
    (same : next.toCollectionInfo = collection.toCollectionInfo) :
    (ledger.put contract next).infoAt api = ledger.infoAt api := by
  funext query
  simp only [infoAt, contractAt_put (contractAt_eq_some.mp found).1]
  split
  next this => simp [this, found, same]
  next => rfl

/-- A collection enters an NFT. -/
theorem becomes_save (found : ledger.contractAt api contract = some collection) :
    Becomes api ledger
      (ledger.put contract { collection with tokens := collection.tokens.save tokenId token })
      ((ledger.nfts api).save (contract, tokenId) token) where
  infos := put_infos found rfl
  instances := rfl
  nfts := by
    funext key
    simp only [nfts, contractAt_put (contractAt_eq_some.mp found).1, StoreMap.save_apply]
    by_cases this : key.1 = contract
    · by_cases same : key.2 = tokenId
      · simp [← this, ← same]
      · have different : key ≠ (contract, tokenId) := fun equal => same (congrArg Prod.snd equal)
        simp [this, different, found, StoreMap.save_of_ne same]
    · have different : key ≠ (contract, tokenId) := fun equal => this (congrArg Prod.fst equal)
      simp [this, different]

/-- A collection forgets an NFT. -/
theorem becomes_remove (found : ledger.contractAt api contract = some collection) :
    Becomes api ledger
      (ledger.put contract { collection with tokens := collection.tokens.remove tokenId })
      ((ledger.nfts api).remove (contract, tokenId)) where
  infos := put_infos found rfl
  instances := rfl
  nfts := by
    funext key
    simp only [nfts, contractAt_put (contractAt_eq_some.mp found).1, StoreMap.remove_apply]
    by_cases this : key.1 = contract
    · by_cases same : key.2 = tokenId
      · simp [← this, ← same]
      · have different : key ≠ (contract, tokenId) := fun equal => same (congrArg Prod.snd equal)
        simp [this, different, found, StoreMap.remove_of_ne same]
    · have different : key ≠ (contract, tokenId) := fun equal => this (congrArg Prod.fst equal)
      simp [this, different]

/-! ### Transfers, burns and mints -/

theorem call_transferNft {recipient : String}
    (called : ledger.call api sender contract (.transferNft recipient tokenId) = .ok after) :
    ∃ info token, ledger.infoAt api contract = some info ∧
      ledger.nfts api (contract, tokenId) = some token ∧
      info.canSend sender token = true ∧ api.addrValid recipient = true ∧
      Becomes api ledger after
        ((ledger.nfts api).save (contract, tokenId) ⟨⟨recipient⟩, [], token.tokenUri⟩) := by
  obtain ⟨collection, next, found, executed, rfl⟩ := call_eq_ok.mp called
  obtain ⟨token, present, allowed, valid, rfl⟩ := Collection.transferNft_eq_ok.mp executed
  exact ⟨_, token, infoAt_eq_some.mpr ⟨collection, found, rfl⟩,
    nfts_eq_some.mpr ⟨collection, found, present⟩, allowed, valid, becomes_save found⟩

/-- `SendNft` transfers the NFT first. -/
theorem call_sendNft {target : String} {msg : Binary} :
    ledger.call api sender contract (.sendNft target tokenId msg) =
      ledger.call api sender contract (.transferNft target tokenId) :=
  rfl

/-- The owner can transfer an NFT. -/
theorem exists_transferNft {recipient : String}
    (present : ledger.nfts api (contract, tokenId) = some token) (owner : token.owner = sender)
    (valid : api.addrValid recipient = true) :
    ∃ after, ledger.call api sender contract (.transferNft recipient tokenId) = .ok after := by
  obtain ⟨collection, found, held⟩ := nfts_eq_some.mp present
  have allowed : collection.canSend sender token = true := by
    simp [CollectionInfo.canSend, CollectionInfo.canApprove, owner]
  exact ⟨_, call_eq_ok.mpr ⟨collection, _, found,
    Collection.transferNft_eq_ok.mpr ⟨token, held, allowed, valid, rfl⟩, rfl⟩⟩

theorem call_burn (called : ledger.call api sender contract (.burn tokenId) = .ok after) :
    ∃ info token, ledger.infoAt api contract = some info ∧
      ledger.nfts api (contract, tokenId) = some token ∧ info.canSend sender token = true ∧
      Becomes api ledger after ((ledger.nfts api).remove (contract, tokenId)) := by
  obtain ⟨collection, next, found, executed, rfl⟩ := call_eq_ok.mp called
  obtain ⟨token, present, allowed, rfl⟩ := Collection.burn_eq_ok.mp executed
  exact ⟨_, token, infoAt_eq_some.mpr ⟨collection, found, rfl⟩,
    nfts_eq_some.mpr ⟨collection, found, present⟩, allowed, becomes_remove found⟩

/-- The owner can burn an NFT. -/
theorem exists_burn (present : ledger.nfts api (contract, tokenId) = some token)
    (owner : token.owner = sender) :
    ∃ after, ledger.call api sender contract (.burn tokenId) = .ok after := by
  obtain ⟨collection, found, held⟩ := nfts_eq_some.mp present
  have allowed : collection.canSend sender token = true := by
    simp [CollectionInfo.canSend, CollectionInfo.canApprove, owner]
  exact ⟨_, call_eq_ok.mpr ⟨collection, _, found,
    Collection.burn_eq_ok.mpr ⟨token, held, allowed, rfl⟩, rfl⟩⟩

theorem call_mint {owner : String} {tokenUri : Option String}
    (called : ledger.call api sender contract (.mint tokenId owner tokenUri) = .ok after) :
    ∃ info, ledger.infoAt api contract = some info ∧ info.minter = sender ∧
      ledger.nfts api (contract, tokenId) = none ∧ api.addrValid owner = true ∧
      Becomes api ledger after
        ((ledger.nfts api).save (contract, tokenId) ⟨⟨owner⟩, [], tokenUri⟩) := by
  obtain ⟨collection, next, found, executed, rfl⟩ := call_eq_ok.mp called
  obtain ⟨isMinter, valid, unused, rfl⟩ := Collection.mint_eq_ok.mp executed
  refine ⟨_, infoAt_eq_some.mpr ⟨collection, found, rfl⟩, isMinter, ?_, valid,
    becomes_save found⟩
  simp [nfts, found, unused]

/-- The minter can mint an unused token ID. -/
theorem exists_mint {info : CollectionInfo} {owner : String} {tokenUri : Option String}
    (known : ledger.infoAt api contract = some info) (isMinter : info.minter = sender)
    (unused : ledger.nfts api (contract, tokenId) = none)
    (valid : api.addrValid owner = true) :
    ∃ after, ledger.call api sender contract (.mint tokenId owner tokenUri) = .ok after := by
  obtain ⟨collection, found, rfl⟩ := infoAt_eq_some.mp known
  have free : collection.tokens tokenId = none := by simpa [nfts, found] using unused
  exact ⟨_, call_eq_ok.mpr ⟨collection, _, found,
    Collection.mint_eq_ok.mpr ⟨isMinter, valid, free, rfl⟩, rfl⟩⟩

/-! ### What others can do -/

/-- The holder has approved nobody, in any collection. -/
structure Custody (api : Api) (holder : Addr) (ledger : Ledger) : Prop where
  approvals : ∀ {key token}, ledger.nfts api key = some token → token.owner = holder →
    token.approvals = []
  operators : ∀ {contract info}, ledger.infoAt api contract = some info →
    ∀ operator, info.operators (holder, operator) = none

theorem Custody.at_contract {holder : Addr} (custody : ledger.Custody api holder)
    (found : ledger.contractAt api contract = some collection) : collection.Custody holder where
  approvals := fun present => custody.approvals (nfts_eq_some.mpr ⟨collection, found, present⟩)
  operators := custody.operators (infoAt_eq_some.mpr ⟨collection, found, rfl⟩)

theorem Custody.of_contracts {holder : Addr}
    (each : ∀ {contract collection}, ledger.contractAt api contract = some collection →
      collection.Custody holder) : ledger.Custody api holder where
  approvals := by
    intro key token present
    obtain ⟨collection, found, held⟩ := nfts_eq_some.mp present
    exact (each found).approvals held
  operators := by
    intro contract info known
    obtain ⟨collection, found, rfl⟩ := infoAt_eq_some.mp known
    exact (each found).operators

/-- Only the holder itself can move or burn what it holds. -/
theorem Custody.of_canSend {holder : Addr} {info : CollectionInfo}
    (custody : ledger.Custody api holder) (known : ledger.infoAt api contract = some info)
    (present : ledger.nfts api (contract, tokenId) = some token)
    (owned : token.owner = holder) (allowed : info.canSend sender token = true) :
    sender = holder := by
  rcases infoAt_eq_some.mp known with ⟨collection, found, rfl⟩
  rcases nfts_eq_some.mp present with ⟨other, foundOther, inOther⟩
  rw [found] at foundOther
  cases foundOther
  exact (custody.at_contract found).of_canSend inOther owned allowed

/-- What someone other than the holder can do to the ledger: the NFTs of the holder stay,
no collection disappears or changes its name or minter, and no NFT appears in a collection
of which the holder is the minter. -/
structure Outside (api : Api) (holder : Addr) (before after : Ledger) : Prop where
  kept : ∀ {key token}, before.nfts api key = some token → token.owner = holder →
    after.nfts api key = some token
  info_kept : ∀ {contract info}, before.infoAt api contract = some info →
    ∃ later, after.infoAt api contract = some later ∧ later.name = info.name ∧
      later.minter = info.minter
  unminted : ∀ {key info}, before.infoAt api key.1 = some info → info.minter = holder →
    before.nfts api key = none → after.nfts api key = none
  instances : before.instances ≤ after.instances

theorem Outside.refl (api : Api) (holder : Addr) (ledger : Ledger) :
    Outside api holder ledger ledger where
  kept := fun present _ => present
  info_kept := fun known => ⟨_, known, rfl, rfl⟩
  unminted := fun _ _ unused => unused
  instances := Nat.le_refl _

/-- A call by someone else. -/
theorem Custody.call {holder : Addr} {msg : Cw721ExecuteMsg}
    (custody : ledger.Custody api holder) (outsider : sender ≠ holder)
    (called : ledger.call api sender contract msg = .ok after) :
    after.Custody api holder ∧ Outside api holder ledger after := by
  obtain ⟨collection, next, found, executed, rfl⟩ := call_eq_ok.mp called
  obtain ⟨custodyNext, keeps⟩ := (custody.at_contract found).execute outsider executed
  obtain ⟨name, minter, unminted⟩ := Collection.execute_fixed executed
  have lookup : ∀ query, (ledger.put contract next).contractAt api query = _ :=
    contractAt_put (contractAt_eq_some.mp found).1
  refine ⟨.of_contracts ?_, ?_, ?_, ?_, Nat.le_refl _⟩
  · intro query other foundOther
    rw [lookup] at foundOther
    split at foundOther
    next =>
      cases foundOther
      exact custodyNext
    next => exact custody.at_contract foundOther
  · intro key token present owned
    obtain ⟨other, foundOther, held⟩ := nfts_eq_some.mp present
    simp only [nfts, lookup]
    split
    next same =>
      rw [same, found] at foundOther
      cases foundOther
      simp [keeps held owned]
    next => simp [foundOther, held]
  · intro query info known
    simp only [infoAt, lookup]
    split
    next same =>
      obtain ⟨other, foundOther, rfl⟩ := infoAt_eq_some.mp known
      rw [same, found] at foundOther
      cases foundOther
      exact ⟨_, rfl, name, minter⟩
    next => exact ⟨info, known, rfl, rfl⟩
  · intro key info known holds unused
    simp only [nfts, lookup]
    split
    next same =>
      obtain ⟨other, foundOther, rfl⟩ := infoAt_eq_some.mp known
      rw [same, found] at foundOther
      cases foundOther
      have notMinter : collection.minter ≠ sender := by
        rw [holds]
        exact Ne.symm outsider
      refine unminted notMinter key.2 ?_
      simpa [nfts, same, found] using unused
    next => exact unused

end Ledger

/-! ## New collections -/

namespace Deployment

variable {deployment : Deployment} {ledger after : Ledger} {contract : Addr}
variable {msg : Cw721InstantiateMsg}

/-- A new collection is empty and everything else stays. -/
theorem instantiate_eq_ok
    (instantiated : deployment.instantiate ledger msg = .ok (contract, after)) :
    contract = deployment.newAddress ledger.instances ∧
      ledger.infoAt deployment.api contract = none ∧
      after.infoAt deployment.api =
        StoreMap.save (ledger.infoAt deployment.api) contract ⟨msg.name, ⟨msg.minter⟩, .empty⟩ ∧
      after.nfts deployment.api = ledger.nfts deployment.api ∧
      after.instances = ledger.instances + 1 := by
  simp only [instantiate, bind_eq_ok, Collection.validAddr_eq_ok] at instantiated
  obtain ⟨minter, ⟨-, rfl⟩, instantiated⟩ := instantiated
  split at instantiated
  next => cases instantiated
  next free =>
    simp only [pure_eq_ok, Prod.mk.injEq] at instantiated
    obtain ⟨rfl, rfl⟩ := instantiated
    have unused : ledger.contractAt deployment.api
        (deployment.newAddress ledger.instances) = none := by simpa using free
    have lookup : ∀ query, (ledger.put (deployment.newAddress ledger.instances)
        ⟨⟨msg.name, ⟨msg.minter⟩, .empty⟩, .empty⟩).contractAt deployment.api query = _ :=
      Ledger.contractAt_put (deployment.newAddress_valid ledger.instances)
    refine ⟨rfl, by simp [Ledger.infoAt, unused], ?_, ?_, rfl⟩
    · funext query
      rw [StoreMap.save_apply]
      change Option.map _ (Ledger.contractAt _ (Ledger.put _ _ _) query) = _
      rw [lookup]
      split
      next => rfl
      next => rfl
    · funext key
      change Option.bind (Ledger.contractAt _ (Ledger.put _ _ _) key.1) _ = _
      rw [lookup]
      split
      next same => simp [Ledger.nfts, same, unused]
      next => rfl

theorem exists_instantiate
    (free : ledger.infoAt deployment.api (deployment.newAddress ledger.instances) = none)
    (valid : deployment.api.addrValid msg.minter = true) :
    ∃ after, deployment.instantiate ledger msg =
      .ok (deployment.newAddress ledger.instances, after) := by
  have unused : ledger.contractAt deployment.api
      (deployment.newAddress ledger.instances) = none := by simpa [Ledger.infoAt] using free
  have minter : Collection.validAddr deployment.api msg.minter = .ok ⟨msg.minter⟩ := by
    simp [valid]
  simp [instantiate, minter, unused, pure, Except.pure]

/-- Anyone may instantiate a collection. -/
theorem custody_instantiate {holder : Addr} (custody : ledger.Custody deployment.api holder)
    (instantiated : deployment.instantiate ledger msg = .ok (contract, after)) :
    after.Custody deployment.api holder ∧
      Ledger.Outside deployment.api holder ledger after := by
  obtain ⟨-, free, infos, nfts, count⟩ := instantiate_eq_ok instantiated
  refine ⟨⟨?_, ?_⟩, ?_, ?_, ?_, by omega⟩
  · rw [nfts]
    exact custody.approvals
  · intro query info known
    rw [infos, StoreMap.save_apply] at known
    split at known
    next =>
      cases known
      exact fun _ => rfl
    next => exact custody.operators known
  · intro key token present _
    rw [nfts, present]
  · intro query info known
    have different : query ≠ contract := by
      rintro rfl
      simp [free] at known
    exact ⟨info, by rw [infos, StoreMap.save_of_ne different, known], rfl, rfl⟩
  · intro key info _ _ unused
    rw [nfts, unused]

end Deployment

end Ics721
