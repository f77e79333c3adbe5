import Ics721.Cw721.Effects

/-!
# Ledgers on which nothing is lost

Most messages of a collection leave all NFTs in existence and give none to a given address.
-/

namespace Ics721

open Library

/-- The message destroys no NFT and gives none to `holder`. -/
def Cw721ExecuteMsg.Spares (holder : Addr) : Cw721ExecuteMsg → Prop
  | .burn _ => False
  | .transferNft recipient _ => recipient ≠ holder.addr
  | .mint _ owner _ => owner ≠ holder.addr
  | _ => True

namespace Ledger

variable {api : Api} {before after : Ledger} {sender contract holder : Addr}
variable {gets : Addr × TokenId → Prop}

/-- No NFT is gone, and `holder` has none that it did not have before, but for what it `gets`. -/
structure Spared (holder : Addr) (gets : Addr × TokenId → Prop)
    (before after : StoreMap (Addr × TokenId) TokenInfo) : Prop where
  kept : ∀ {key}, before key ≠ none → after key ≠ none
  gained : ∀ {key token}, after key = some token → token.owner = holder →
    gets key ∨ ∃ earlier, before key = some earlier ∧ earlier.owner = holder

variable {nfts later : StoreMap (Addr × TokenId) TokenInfo}

theorem Spared.of_changes
    (changes : ∀ key, later key = nfts key ∨ ∃ token, later key = some token ∧
      (token.owner = holder →
        gets key ∨ ∃ earlier, nfts key = some earlier ∧ earlier.owner = holder)) :
    Spared holder gets nfts later where
  kept := by
    intro key present
    rcases changes key with same | ⟨token, entered, -⟩
    · rw [same]
      exact present
    · rw [entered]
      simp
  gained := by
    intro key token present owned
    rcases changes key with same | ⟨other, entered, allowed⟩
    · rw [same] at present
      exact .inr ⟨token, present, owned⟩
    · rw [entered] at present
      cases present
      exact allowed owned

theorem Spared.refl (holder : Addr) (gets : Addr × TokenId → Prop)
    (nfts : StoreMap (Addr × TokenId) TokenInfo) : Spared holder gets nfts nfts :=
  .of_changes fun _ => .inl rfl

/-- An NFT is entered. -/
theorem Spared.save {key : Addr × TokenId} {token : TokenInfo}
    (allowed : token.owner = holder →
      gets key ∨ ∃ earlier, nfts key = some earlier ∧ earlier.owner = holder) :
    Spared holder gets nfts (nfts.save key token) := by
  apply Spared.of_changes
  intro other
  rw [StoreMap.save_apply]
  split
  next same =>
    rw [same]
    exact .inr ⟨token, rfl, allowed⟩
  next => exact .inl rfl

/-- What a message with `Spares` does. -/
theorem spared_of_call {msg : Cw721ExecuteMsg} (spares : msg.Spares holder)
    (silent : msg.callbacks sender = [])
    (called : before.call api sender contract msg = .ok after) :
    Spared holder gets (before.nfts api) (after.nfts api) := by
  -- An NFT that is entered with the owner it has.
  have approved : ∀ {spender tokenId add},
      before.call api sender contract msg = .ok after →
      (∀ collection : Collection, collection.execute api sender msg =
        collection.updateApprovals api sender spender tokenId add) →
      Spared holder gets (before.nfts api) (after.nfts api) := by
    intro spender tokenId add called same
    rcases call_eq_ok.mp called with ⟨collection, next, found, executed, rfl⟩
    rw [same] at executed
    rcases Collection.updateApprovals_eq_ok executed with ⟨token, approvals, present, -, rfl⟩
    rw [(becomes_save found).nfts]
    apply Spared.save
    intro owned
    exact .inr ⟨token, nfts_eq_some.mpr ⟨collection, found, present⟩, owned⟩
  have operated : ∀ {operator add},
      before.call api sender contract msg = .ok after →
      (∀ collection : Collection, collection.execute api sender msg =
        collection.updateOperators api sender operator add) →
      Spared holder gets (before.nfts api) (after.nfts api) := by
    intro operator add called same
    rcases call_eq_ok.mp called with ⟨collection, next, found, executed, rfl⟩
    rw [same] at executed
    rcases Collection.updateOperators_eq_ok executed with ⟨operators, rfl, -⟩
    have unchanged : (before.put contract { collection with operators := operators }).nfts api =
        before.nfts api := by
      funext key
      simp only [nfts, contractAt_put (contractAt_eq_some.mp found).1]
      split
      next here => simp [here, found]
      next => rfl
    rw [unchanged]
    exact .refl _ _ _
  cases msg with
  | transferNft recipient tokenId =>
      rcases call_transferNft called with ⟨_, token, -, -, -, -, became⟩
      rw [became.nfts]
      apply Spared.save
      intro owned
      exact absurd (congrArg Addr.addr owned) spares
  | sendNft => cases silent
  | burn => exact spares.elim
  | mint tokenId owner uri =>
      rcases call_mint called with ⟨_, -, -, -, -, became⟩
      rw [became.nfts]
      apply Spared.save
      intro owned
      exact absurd (congrArg Addr.addr owned) spares
  | approve => exact approved called fun _ => rfl
  | revoke => exact approved called fun _ => rfl
  | approveAll => exact operated called fun _ => rfl
  | revokeAll => exact operated called fun _ => rfl

/-- An NFT is sent to `target`. -/
theorem spared_of_send {tokenId : TokenId} {target : String} {request : Binary}
    (called : before.call api sender contract (.sendNft target tokenId request) = .ok after) :
    Spared holder (· = (contract, tokenId)) (before.nfts api) (after.nfts api) := by
  rw [call_sendNft] at called
  rcases call_transferNft called with ⟨_, token, -, -, -, -, became⟩
  rw [became.nfts]
  exact .save fun _ => .inl rfl

/-- NFTs are transferred to somebody else. -/
theorem Moved.spared {recipient : String} {tokenIds : List TokenId}
    (moves : Moved api sender contract recipient tokenIds before after)
    (other : recipient ≠ holder.addr) :
    Spared holder gets (before.nfts api) (after.nfts api) := by
  apply Spared.of_changes
  intro key
  by_cases touched : key.1 = contract ∧ key.2 ∈ tokenIds
  · rcases touched with ⟨rfl, member⟩
    rcases moves.moved key.2 member with ⟨_, token, -, -, -, final⟩
    right
    refine ⟨_, final, ?_⟩
    intro owned
    exact absurd (congrArg Addr.addr owned) other
  · left
    apply moves.kept
    intro same member
    exact touched ⟨same, member⟩

end Ledger

namespace Deployment

variable {deployment : Deployment} {world after : World Ledger} {receiver : Addr}
variable {packet : IbcPacket} {data : NonFungibleTokenPacketData}
variable {gets : Addr × TokenId → Prop}

/-- A packet for somebody else than the bridge. -/
theorem Received.spared (received : deployment.Received packet data receiver world after)
    (other : receiver ≠ deployment.bridge) :
    Ledger.Spared deployment.bridge gets (world.contracts.nfts deployment.api)
      (after.contracts.nfts deployment.api) := by
  apply Ledger.Spared.of_changes
  intro key
  rcases received.kept key with same | ⟨moved, known⟩ | ⟨token, member, named, voucher, -⟩
  · exact .inl same
  · rcases received.redeemed key.2 moved with ⟨contract, _, token, origin, -, -, -, final⟩
    rw [known] at origin
    cases origin
    exact .inr ⟨_, final, fun owned => absurd owned other⟩
  · rcases received.created token member with ⟨contract, _, origin, -, -, -, final⟩
    rw [voucher] at origin
    cases origin
    rw [named] at final
    exact .inr ⟨_, final, fun owned => absurd owned other⟩

end Deployment

end Ics721
