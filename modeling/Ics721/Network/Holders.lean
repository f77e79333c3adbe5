import Ics721.Network.Model

/-!
# Who holds the NFTs of a chain

What the steps of one chain do to the holders of its NFTs.  Most NFTs are undisturbed: what
the bridge holds it keeps, and no voucher appears.
-/

namespace Ics721

open Library

namespace Deployment

variable {deployment : Deployment} {codeId : Nat} {world after : World Ledger}
variable {classId : ClassId} {tokenId : TokenId} {contract : Addr}

theorem holder_eq_escrow :
    deployment.holder world classId tokenId = some .escrow ↔
      ∃ contract token, world.storage.classIdToNftContract classId = some contract ∧
        world.contracts.nfts deployment.api (contract, tokenId) = some token ∧
        token.owner = deployment.bridge := by
  simp only [holder, Option.bind_eq_some_iff, Option.map_eq_some_iff]
  constructor
  · intro held
    rcases held with ⟨contract, registered, token, present, owner⟩
    refine ⟨contract, token, registered, present, ?_⟩
    by_contra other
    simp [other] at owner
  · intro held
    rcases held with ⟨contract, token, registered, present, owned⟩
    exact ⟨contract, registered, token, present, by simp [owned]⟩

theorem holder_eq_user :
    deployment.holder world classId tokenId = some .user ↔
      ∃ contract token, world.storage.classIdToNftContract classId = some contract ∧
        world.contracts.nfts deployment.api (contract, tokenId) = some token ∧
        token.owner ≠ deployment.bridge := by
  simp only [holder, Option.bind_eq_some_iff, Option.map_eq_some_iff]
  constructor
  · intro held
    rcases held with ⟨contract, registered, token, present, owner⟩
    refine ⟨contract, token, registered, present, ?_⟩
    intro owned
    simp [owned] at owner
  · intro held
    rcases held with ⟨contract, token, registered, present, other⟩
    exact ⟨contract, registered, token, present, by simp [other]⟩

theorem holder_eq_none :
    deployment.holder world classId tokenId = none ↔
      ∀ contract, world.storage.classIdToNftContract classId = some contract →
        world.contracts.nfts deployment.api (contract, tokenId) = none := by
  simp [holder, Option.bind_eq_none_iff]

theorem holder_congr
    (registered : after.storage.classIdToNftContract classId =
      world.storage.classIdToNftContract classId)
    (nfts : ∀ contract, world.storage.classIdToNftContract classId = some contract →
      after.contracts.nfts deployment.api (contract, tokenId) =
        world.contracts.nfts deployment.api (contract, tokenId)) :
    deployment.holder after classId tokenId = deployment.holder world classId tokenId := by
  unfold holder
  rw [registered]
  cases known : world.storage.classIdToNftContract classId with
  | none => rfl
  | some contract => simp only [Option.bind_some, nfts contract known]

/-! ## Undisturbed NFTs -/

/-- What the bridge holds it keeps, and no voucher appears. -/
structure Undisturbed (deployment : Deployment) (world after : World Ledger)
    (classId : ClassId) (tokenId : TokenId) : Prop where
  held : deployment.holder world classId tokenId = some .escrow →
    deployment.holder after classId tokenId = some .escrow
  absent : '/' ∈ classId.id.toList → deployment.holder world classId tokenId = none →
    deployment.holder after classId tokenId = none

theorem Undisturbed.of_eq
    (same : deployment.holder after classId tokenId = deployment.holder world classId tokenId) :
    deployment.Undisturbed world after classId tokenId := by
  constructor
  · rw [same]
    exact id
  · rw [same]
    exact fun _ => id

/-- The bridge alone mints vouchers. -/
def Issues (deployment : Deployment) (world : World Ledger) : Prop :=
  ∀ classId contract, world.storage.classIdToNftContract classId = some contract →
    '/' ∈ classId.id.toList →
    ∃ info, world.contracts.infoAt deployment.api contract = some info ∧
      info.minter = deployment.bridge

theorem undisturbed_outside (issues : deployment.Issues world)
    (extended : Extends world.storage after.storage)
    (registry : '/' ∈ classId.id.toList → after.storage.classIdToNftContract classId =
      world.storage.classIdToNftContract classId)
    (outside : Ledger.Outside deployment.api deployment.bridge world.contracts
      after.contracts) :
    deployment.Undisturbed world after classId tokenId := by
  constructor
  · intro held
    rcases holder_eq_escrow.mp held with ⟨contract, token, registered, present, owned⟩
    exact holder_eq_escrow.mpr ⟨contract, token, extended.contract_kept registered,
      outside.kept present owned, owned⟩
  · intro voucher absent
    rw [holder_eq_none] at absent ⊢
    intro contract registered
    rw [registry voucher] at registered
    rcases issues _ _ registered voucher with ⟨info, known, minter⟩
    exact outside.unminted known minter (absent contract registered)

theorem Issues.outside (issues : deployment.Issues world)
    (registry : ∀ classId : ClassId, '/' ∈ classId.id.toList →
      after.storage.classIdToNftContract classId = world.storage.classIdToNftContract classId)
    (outside : Ledger.Outside deployment.api deployment.bridge world.contracts
      after.contracts) :
    deployment.Issues after := by
  intro classId contract registered voucher
  rw [registry classId voucher] at registered
  rcases issues _ _ registered voucher with ⟨info, known, minter⟩
  rcases outside.info_kept known with ⟨later, found, -, same⟩
  exact ⟨later, found, same.trans minter⟩

/-! ## What accounts do -/

/-- Accounts register local classes only. -/
theorem Executed.registry {sender : Addr} {msg : WasmMsg} (held : deployment.Held codeId world)
    (executed : deployment.Executed sender world msg after) (noProxy : world.storage.proxy = none)
    (noContract : world.contracts.infoAt deployment.api sender = none)
    (voucher : '/' ∈ classId.id.toList) :
    after.storage.classIdToNftContract classId = world.storage.classIdToNftContract classId := by
  cases executed with
  | called => rfl
  | instantiated => rfl
  | @sent contract _ _ _ _ _ call _ _ sends =>
      rcases sends with ⟨_, storage, cls, token, _, -, -, selected, present, -, rfl⟩
      have found := held.sound.registry.classFound selected
      by_cases same : classId = cls.id
      · unfold classForContract at selected
        split at selected
        next known entry =>
          simp only [bind_eq_ok, pure_eq_ok, Prod.mk.injEq] at selected
          rcases selected with ⟨_, -, rfl, rfl⟩
          rfl
        next =>
          simp only [Except.ok.injEq, Prod.mk.injEq] at selected
          rcases selected with ⟨-, rfl⟩
          subst same
          rcases Ledger.infoAt_of_nfts present with ⟨info, known⟩
          rcases Ledger.infoAt_eq_some.mp known with ⟨collection, atContract, -⟩
          exact absurd voucher (deployment.api.valid_no_slash _
            (Ledger.contractAt_eq_some.mp atContract).1)
      · exact found.contracts classId same
  | forwarded named _ allowed sends =>
      exact absurd sends (Executed.no_forward noContract noProxy named allowed)
  | paused pause =>
      simp only [Storage.pause, bind_eq_ok, ite_error_eq_ok, pure_eq_ok] at pause
      rcases pause with ⟨-, -, -, rfl⟩
      rfl

/-! ## What packets do -/

/-- What a packet neither redeems nor creates is undisturbed. -/
theorem Received.undisturbed {packet : IbcPacket} {data : NonFungibleTokenPacketData}
    {receiver : Addr} (received : deployment.Received packet data receiver world after)
    (held : deployment.Held codeId world) (heldAfter : deployment.Held codeId after)
    (notRedeemed : classId = localClass packet data →
      tokenId ∉ redeemedIds (selectActions packet data world.storage).2)
    (notCreated : classId = voucherClassId packet.dest data.classId →
      ∀ token ∈ createdTokens (selectActions packet data world.storage).2, token.id ≠ tokenId) :
    deployment.Undisturbed world after classId tokenId := by
  constructor
  · intro escrow
    rcases holder_eq_escrow.mp escrow with ⟨contract, token, registered, present, owned⟩
    refine holder_eq_escrow.mpr
      ⟨contract, token, received.contract_kept registered, ?_, owned⟩
    rcases received.kept (contract, tokenId) with same | ⟨moved, known⟩ | ⟨_, -, -, -, free⟩
    · rw [same]
      exact present
    · exact absurd moved
        (notRedeemed (held.sound.registry.contract_inj registered known))
    · rw [present] at free
      cases free
  · intro _ absent
    rw [holder_eq_none] at absent ⊢
    intro contract registered
    rcases received.kept (contract, tokenId) with
      same | ⟨moved, known⟩ | ⟨token, member, named, voucher, -⟩
    · rw [same]
      cases known : world.storage.classIdToNftContract classId with
      | some earlier =>
          have kept := received.contract_kept known
          rw [registered] at kept
          cases kept
          exact absent contract known
      | none =>
          rcases received.known_or_new with ⟨contracts, -⟩ |
            ⟨fresh, -, free, -, contracts, -⟩
          · rw [contracts, known] at registered
            cases registered
          · have isNew : contract = fresh := by
              rw [contracts, StoreMap.save_apply] at registered
              split at registered
              next => exact (Option.some.inj registered).symm
              next =>
                rw [known] at registered
                cases registered
            rw [isNew]
            cases present : world.contracts.nfts deployment.api (fresh, tokenId) with
            | none => rfl
            | some token =>
                rcases Ledger.infoAt_of_nfts present with ⟨info, exists_⟩
                rw [free] at exists_
                cases exists_
    · have same := heldAfter.sound.registry.contract_inj registered
        (received.contract_kept known)
      exact absurd moved (notRedeemed same)
    · have same := heldAfter.sound.registry.contract_inj registered voucher
      exact absurd named (notCreated same token member)

/-- What a packet that failed does not carry stays where it is. -/
theorem Refunds.holder {packet : IbcPacket} (held : deployment.Held codeId world)
    (refunds : deployment.Refunds packet world after)
    (notCarried : ¬Carries deployment.api packet classId tokenId) :
    deployment.holder after classId tokenId = deployment.holder world classId tokenId := by
  rcases refunds with ⟨data, source, ledger, decoded, known, -, called, rfl⟩
  have moves := Ledger.moved_of_callAll called
  apply holder_congr
  · rfl
  · intro contract registered
    apply moves.kept (contract, tokenId)
    intro same member
    cases same
    exact notCarried ⟨data, decoded, held.sound.registry.contract_inj known registered, member⟩

/-- What a packet that arrived does not burn stays where it is. -/
theorem Burns.holder {packet : IbcPacket} (held : deployment.Held codeId world)
    (burns : deployment.Burns packet world after)
    (notBurned : ¬(Carries deployment.api packet classId tokenId ∧
      world.storage.incomingClassTokenToChannel (classId, tokenId) =
        some packet.src.channelId)) :
    deployment.holder after classId tokenId = deployment.holder world classId tokenId := by
  rcases burns with ⟨data, source, burned, ledger, decoded, known, arrived, called, rfl⟩
  have burning := Ledger.burned_of_callAll called
  apply holder_congr
  · rfl
  · intro contract registered
    apply burning.kept (contract, tokenId)
    intro same member
    cases same
    have equal := held.sound.registry.contract_inj known registered
    rcases (arrived.2 tokenId).mp member with ⟨inPacket, incoming⟩
    rw [equal] at incoming
    exact notBurned ⟨⟨data, decoded, equal, inPacket⟩, incoming⟩

end Deployment

end Ics721
