import Ics721.Chain.Sample
import Ics721.Escrow.Steps

/-!
# Approvals

The bridge can send NFTs of others only if they have approved it.  In a run in which nobody does,
nobody ever has.
-/

namespace Ics721

open Library

/-- Nobody has approved the spender. -/
structure Ledger.Unapproved (api : Api) (spender : Addr) (ledger : Ledger) : Prop where
  approvals : ∀ {key token}, ledger.nfts api key = some token → spender ∉ token.approvals
  operators : ∀ {contract info}, ledger.infoAt api contract = some info →
    ∀ owner, info.operators (owner, spender) = none

/-- Then it can send only what it owns. -/
theorem Ledger.Unapproved.owner {api : Api} {spender : Addr} {ledger : Ledger}
    (unapproved : ledger.Unapproved api spender) {contract : Addr} {tokenId : TokenId}
    {info : CollectionInfo} {token : TokenInfo}
    (known : ledger.infoAt api contract = some info)
    (present : ledger.nfts api (contract, tokenId) = some token)
    (allowed : info.canSend spender token = true) : token.owner = spender := by
  have noApproval := unapproved.approvals present
  have noOperator := unapproved.operators known token.owner
  simpa [CollectionInfo.canSend, CollectionInfo.canApprove, StoreMap.has, noApproval,
    noOperator] using allowed

/-- The message does not approve the spender. -/
def Cw721ExecuteMsg.Withholds (spender : Addr) : Cw721ExecuteMsg → Prop
  | .approve other _ => other ≠ spender.addr
  | .approveAll operator => operator ≠ spender.addr
  | _ => True

/-- Nobody approves the spender. -/
def Chain.Label.Withholds (spender : Addr) : Chain.Label → Prop
  | .execute _ (.execute _ (.cw721 msg)) => msg.Withholds spender
  | _ => True

/-! ## Calls -/

/-- Nobody has approved the spender in a collection. -/
structure Collection.Unapproved (spender : Addr) (collection : Collection) : Prop where
  approvals : ∀ {tokenId token}, collection.tokens tokenId = some token →
    spender ∉ token.approvals
  operators : ∀ owner, collection.operators (owner, spender) = none

namespace Collection.Unapproved

variable {api : Api} {self after : Collection} {sender spender : Addr} {tokenId : TokenId}

/-- An NFT is entered that the spender is not approved for. -/
theorem save {token : TokenInfo} (unapproved : self.Unapproved spender)
    (approvals : spender ∉ token.approvals) :
    Unapproved spender { self with tokens := self.tokens.save tokenId token } where
  operators := unapproved.operators
  approvals := by
    intro other found present
    simp only [StoreMap.save_apply] at present
    split at present
    next =>
      cases present
      exact approvals
    next => exact unapproved.approvals present

theorem transferNft {recipient : String} (unapproved : self.Unapproved spender)
    (executed : self.transferNft api sender recipient tokenId = .ok after) :
    after.Unapproved spender := by
  rcases transferNft_eq_ok.mp executed with ⟨token, -, -, -, rfl⟩
  exact unapproved.save (by simp)

theorem updateApprovals {other : String} {add : Bool} (unapproved : self.Unapproved spender)
    (withholds : add = true → other ≠ spender.addr)
    (executed : self.updateApprovals api sender other tokenId add = .ok after) :
    after.Unapproved spender := by
  simp only [Collection.updateApprovals, bind_eq_ok, loadToken_eq_ok] at executed
  rcases executed with ⟨token, present, executed⟩
  split at executed
  next =>
    simp only [bind_eq_ok, validAddr_eq_ok, pure_eq_ok] at executed
    rcases executed with ⟨_, ⟨-, rfl⟩, rfl⟩
    have before := unapproved.approvals present
    apply unapproved.save
    cases add with
    | true =>
        have different : spender ≠ ⟨other⟩ := by
          rintro rfl
          exact withholds rfl rfl
        simp [before, different]
    | false => simp [before]
  next => cases executed

theorem updateOperators {operator : String} {add : Bool} (unapproved : self.Unapproved spender)
    (withholds : add = true → operator ≠ spender.addr)
    (executed : self.updateOperators api sender operator add = .ok after) :
    after.Unapproved spender := by
  simp only [Collection.updateOperators, bind_eq_ok, validAddr_eq_ok, pure_eq_ok] at executed
  rcases executed with ⟨_, ⟨-, rfl⟩, rfl⟩
  refine ⟨unapproved.approvals, ?_⟩
  intro owner
  cases add with
  | true =>
      have different : (owner, spender) ≠ (sender, ⟨operator⟩) := by
        intro same
        cases same
        exact withholds rfl rfl
      simp only [if_true, StoreMap.save_of_ne different]
      exact unapproved.operators owner
  | false =>
      simp only [Bool.false_eq_true, if_false, StoreMap.remove_apply]
      split
      next => rfl
      next => exact unapproved.operators owner

theorem execute {msg : Cw721ExecuteMsg} (unapproved : self.Unapproved spender)
    (withholds : msg.Withholds spender) (executed : self.execute api sender msg = .ok after) :
    after.Unapproved spender := by
  cases msg with
  | transferNft recipient tokenId => exact unapproved.transferNft executed
  | sendNft contract tokenId msg => exact unapproved.transferNft executed
  | burn tokenId =>
      rcases burn_eq_ok.mp executed with ⟨token, -, -, rfl⟩
      exact ⟨fun present => unapproved.approvals (StoreMap.of_remove present),
        unapproved.operators⟩
  | mint tokenId owner tokenUri =>
      rcases mint_eq_ok.mp executed with ⟨-, -, -, rfl⟩
      exact unapproved.save (by simp)
  | approve other tokenId => exact unapproved.updateApprovals (fun _ => withholds) executed
  | revoke other tokenId => exact unapproved.updateApprovals (by simp) executed
  | approveAll operator => exact unapproved.updateOperators (fun _ => withholds) executed
  | revokeAll operator => exact unapproved.updateOperators (by simp) executed

end Collection.Unapproved

namespace Ledger.Unapproved

variable {api : Api} {before after : Ledger} {sender contract spender : Addr}

theorem call {msg : Cw721ExecuteMsg} (unapproved : before.Unapproved api spender)
    (withholds : msg.Withholds spender)
    (called : before.call api sender contract msg = .ok after) :
    after.Unapproved api spender := by
  rcases call_eq_ok.mp called with ⟨collection, next, found, executed, rfl⟩
  have each : ∀ {query other}, before.contractAt api query = some other →
      other.Unapproved spender :=
    fun found => ⟨fun present => unapproved.approvals (nfts_eq_some.mpr ⟨_, found, present⟩),
      unapproved.operators (infoAt_eq_some.mpr ⟨_, found, rfl⟩)⟩
  have later : ∀ {query other}, (before.put contract next).contractAt api query = some other →
      other.Unapproved spender := by
    intro query other foundOther
    rw [contractAt_put (contractAt_eq_some.mp found).1] at foundOther
    split at foundOther
    next =>
      cases foundOther
      exact (each found).execute withholds executed
    next => exact each foundOther
  constructor
  · intro key token present
    rcases nfts_eq_some.mp present with ⟨other, foundOther, held⟩
    exact (later foundOther).approvals held
  · intro query info known
    rcases infoAt_eq_some.mp known with ⟨other, foundOther, rfl⟩
    exact (later foundOther).operators

theorem callAll {msgs : List Cw721ExecuteMsg} (unapproved : before.Unapproved api spender)
    (withholds : ∀ msg ∈ msgs, msg.Withholds spender)
    (called : before.callAll api sender contract msgs = .ok after) :
    after.Unapproved api spender := by
  induction msgs generalizing before with
  | nil =>
      cases called
      exact unapproved
  | cons msg msgs ih =>
      simp only [Ledger.callAll, List.foldlM_cons, bind_eq_ok] at called
      rcases called with ⟨middle, first, rest⟩
      exact ih (unapproved.call (withholds msg List.mem_cons_self) first)
        (fun other member => withholds other (List.mem_cons_of_mem _ member)) rest

/-- Whatever changed has no approvals, and new collections have no operators. -/
theorem of_changes (unapproved : before.Unapproved api spender)
    (tokens : ∀ key token, after.nfts api key = some token →
      before.nfts api key = some token ∨ token.approvals = [])
    (infos : ∀ query info, after.infoAt api query = some info →
      before.infoAt api query = some info ∨ info.operators = .empty) :
    after.Unapproved api spender where
  approvals := by
    intro key token present
    rcases tokens key token present with same | none
    · exact unapproved.approvals same
    · simp [none]
  operators := by
    intro query info known owner
    rcases infos query info known with same | none
    · exact unapproved.operators same owner
    · rw [none]
      rfl

end Ledger.Unapproved

theorem Ledger.unapproved_empty (api : Api) (spender : Addr) :
    Ledger.Unapproved api spender ⟨.empty, 0⟩ where
  approvals := by
    intro key token present
    simp [Ledger.nfts, Ledger.contractAt] at present
  operators := by
    intro contract info known
    simp [Ledger.infoAt, Ledger.contractAt] at known

/-! ## Steps -/

namespace Deployment

variable {deployment : Deployment} {codeId : Nat} {world after : World Ledger} {spender : Addr}

theorem Received.unapproved {packet : IbcPacket} {data : NonFungibleTokenPacketData}
    {receiver : Addr} (received : deployment.Received packet data receiver world after)
    (unapproved : world.contracts.Unapproved deployment.api spender) :
    after.contracts.Unapproved deployment.api spender := by
  apply unapproved.of_changes
  · intro key token present
    rcases received.kept key with same | ⟨moved, registered⟩ | ⟨created, member, named, known, -⟩
    · rw [same] at present
      exact .inl present
    · rcases received.redeemed key.2 moved with ⟨contract, _, _, known, -, -, -, final⟩
      rw [registered] at known
      cases known
      rw [final] at present
      cases present
      exact .inr rfl
    · rcases received.created created member with ⟨contract, _, registered, -, -, -, final⟩
      rw [known] at registered
      cases registered
      rw [named, present] at final
      cases final
      exact .inr rfl
  · intro query info known
    rcases received.known_or_new with ⟨-, -, infos, -⟩ | ⟨contract, -, -, -, -, -, infos, -⟩
    · rw [infos] at known
      exact .inl known
    · rw [infos, StoreMap.save_apply] at known
      split at known
      next =>
        cases known
        exact .inr rfl
      next => exact .inl known

theorem Executed.unapproved {sender : Addr} {msg : WasmMsg}
    (executed : deployment.Executed sender world msg after)
    (withholds : (Chain.Label.execute sender msg).Withholds spender)
    (unapproved : world.contracts.Unapproved deployment.api spender) :
    after.contracts.Unapproved deployment.api spender := by
  cases executed with
  | called _ call => exact unapproved.call withholds call
  | instantiated instantiation =>
      rcases instantiate_eq_ok instantiation with ⟨-, -, infos, nfts, -⟩
      apply unapproved.of_changes
      · intro key token present
        rw [nfts] at present
        exact .inl present
      · intro query info known
        rw [infos, StoreMap.save_apply] at known
        split at known
        next =>
          cases known
          exact .inr rfl
        next => exact .inl known
  | sent _ call _ _ sends =>
      rcases sends with ⟨_, _, _, _, _, -, -, -, -, -, rfl⟩
      refine unapproved.call ?_ call
      exact trivial
  | forwarded _ _ _ sends =>
      rcases sends with ⟨_, _, _, _, _, -, -, -, -, -, rfl⟩
      exact unapproved
  | paused => exact unapproved

theorem Stepped.unapproved {label : Chain.Label} (stepped : deployment.Stepped world label after)
    (withholds : label.Withholds spender)
    (unapproved : world.contracts.Unapproved deployment.api spender) :
    after.contracts.Unapproved deployment.api spender := by
  cases stepped with
  | stayed => exact unapproved
  | executed _ _ executed => exact executed.unapproved withholds unapproved
  | received _ _ received => exact received.unapproved unapproved
  | failed => exact unapproved
  | refunded _ _ refunds =>
      rcases refunds with ⟨data, _, ledger, -, -, -, called, rfl⟩
      refine unapproved.callAll ?_ called
      simp [Cw721ExecuteMsg.Withholds]
  | burned _ _ burns =>
      rcases burns with ⟨_, _, burned, ledger, -, -, -, called, rfl⟩
      refine unapproved.callAll ?_ called
      simp [Cw721ExecuteMsg.Withholds]
  | migrated => exact unapproved

/-- Nobody has approved a spender after a run in which nobody does. -/
theorem Held.unapproved_of_run (held : deployment.Held codeId world)
    (unapproved : world.contracts.Unapproved deployment.api spender)
    {events : List deployment.Event} (withholds : ∀ event ∈ events, event.label.Withholds spender) :
    (events.foldl deployment.happen world).contracts.Unapproved deployment.api spender := by
  have kept : ∀ world (event : deployment.Event),
      deployment.Held codeId world ∧ world.contracts.Unapproved deployment.api spender →
      event.label.Withholds spender →
      deployment.Held codeId (deployment.happen world event) ∧
        (deployment.happen world event).contracts.Unapproved deployment.api spender :=
    fun world event both withheld => ⟨both.1.step event,
      (both.1.stepped event).unapproved withheld both.2⟩
  exact ((follows_of_mem withholds).invariant kept ⟨held, unapproved⟩).2

end Deployment

end Ics721
