import Ics721.Network.Holders

/-!
# The chains of a network

What every step keeps true of a chain whose bridge has no proxy, besides what the bridge
itself relies on.
-/

namespace Ics721

open Library

namespace Deployment

variable {deployment : Deployment} {codeId : Nat} {world after : World Ledger}
variable {classId : ClassId} {tokenId : TokenId} {contract : Addr}

/-- What holds on every chain of a network of bridges without proxies: vouchers are minted
by the bridge, there are free addresses for new contracts, and the metadata of classes is
never an empty text. -/
structure Orderly (deployment : Deployment) (codeId : Nat) (world : World Ledger) : Prop
    extends deployment.Held codeId world where
  noProxy : world.storage.proxy = none
  issues : deployment.Issues world
  room : ∀ index, world.contracts.instances ≤ index →
    world.contracts.infoAt deployment.api (deployment.newAddress index) = none
  records : ∀ {classId cls}, world.storage.classIdToClass classId = some cls →
    cls.uri ≠ some "" ∧ cls.data ≠ some []

theorem Orderly.room_instantiate (orderly : deployment.Orderly codeId world) {ledger : Ledger}
    {info : CollectionInfo}
    (address : contract = deployment.newAddress world.contracts.instances)
    (infos : ledger.infoAt deployment.api =
      StoreMap.save (world.contracts.infoAt deployment.api) contract info)
    (count : ledger.instances = world.contracts.instances + 1) {index : Nat}
    (later : ledger.instances ≤ index) :
    ledger.infoAt deployment.api (deployment.newAddress index) = none := by
  rw [count] at later
  have different : deployment.newAddress index ≠ contract := by
    rw [address]
    intro same
    have equal := deployment.newAddress_injective same
    omega
  rw [infos, StoreMap.save_of_ne different]
  exact orderly.room index (by omega)

theorem Orderly.executed {sender : Addr} {msg : WasmMsg}
    (orderly : deployment.Orderly codeId world) (heldAfter : deployment.Held codeId after)
    (noProxy : after.storage.proxy = none) (account : sender ≠ deployment.bridge)
    (noContract : world.contracts.infoAt deployment.api sender = none)
    (executed : deployment.Executed sender world msg after) :
    deployment.Orderly codeId after where
  toHeld := heldAfter
  noProxy := noProxy
  issues := by
    apply orderly.issues.outside
    · intro classId voucher
      exact executed.registry orderly.toHeld orderly.noProxy noContract voucher
    · exact (executed.custody account orderly.custody).2
  room := by
    intro index later
    have called : ∀ {contract : Addr} {msg : Cw721ExecuteMsg} {ledger : Ledger},
        world.contracts.call deployment.api sender contract msg = .ok ledger →
        ledger.instances ≤ index →
        ledger.infoAt deployment.api (deployment.newAddress index) = none := by
      intro contract msg ledger call later
      rcases Ledger.call_eq_ok.mp call with ⟨_, _, _, -, same⟩
      apply Ledger.call_absent call
      apply orderly.room
      rw [same] at later
      exact later
    cases executed with
    | called _ call => exact called call later
    | instantiated instantiation =>
        rcases instantiate_eq_ok instantiation with ⟨address, -, infos, -, count⟩
        exact orderly.room_instantiate address infos count later
    | sent _ call _ _ sends =>
        rcases sends with ⟨_, _, _, _, _, -, -, -, -, -, rfl⟩
        exact called call later
    | forwarded _ _ _ sends =>
        rcases sends with ⟨_, _, _, _, _, -, -, -, -, -, rfl⟩
        exact orderly.room index later
    | paused _ => exact orderly.room index later
  records := by
    intro classId cls recorded
    have selected : ∀ {contract : Addr} {storage : Storage} {found : Class},
        classForContract world.storage contract = .ok (storage, found) →
        storage.classIdToClass classId = some cls → cls.uri ≠ some "" ∧ cls.data ≠ some [] := by
      intro contract storage found selected recorded
      unfold classForContract at selected
      split at selected
      next =>
        simp only [bind_eq_ok, pure_eq_ok, Prod.mk.injEq] at selected
        rcases selected with ⟨_, -, rfl, -⟩
        exact orderly.records recorded
      next =>
        simp only [Except.ok.injEq, Prod.mk.injEq] at selected
        rcases selected with ⟨rfl, -⟩
        simp only [StoreMap.save_apply] at recorded
        split at recorded
        next =>
          cases recorded
          simp
        next => exact orderly.records recorded
    cases executed with
    | called => exact orderly.records recorded
    | instantiated => exact orderly.records recorded
    | sent _ _ _ _ sends =>
        rcases sends with ⟨_, _, _, _, _, -, -, classFound, -, -, rfl⟩
        exact selected classFound recorded
    | forwarded _ _ _ sends =>
        rcases sends with ⟨_, _, _, _, _, -, -, classFound, -, -, rfl⟩
        exact selected classFound recorded
    | paused pause =>
        simp only [Storage.pause, bind_eq_ok, ite_error_eq_ok, pure_eq_ok] at pause
        rcases pause with ⟨-, -, -, rfl⟩
        exact orderly.records recorded

theorem Orderly.received {packet : IbcPacket} {data : NonFungibleTokenPacketData}
    {receiver : Addr} (orderly : deployment.Orderly codeId world)
    (heldAfter : deployment.Held codeId after) (valid : data.validate = .ok ())
    (received : deployment.Received packet data receiver world after) :
    deployment.Orderly codeId after where
  toHeld := heldAfter
  noProxy := received.storage.proxy.trans orderly.noProxy
  issues := by
    intro classId contract registered voucher
    rcases received.known_or_new with ⟨contracts, -, infos, -⟩ |
      ⟨fresh, -, free, -, contracts, -, infos, -⟩
    · rw [contracts] at registered
      rw [infos]
      exact orderly.issues _ _ registered voucher
    · rw [contracts, StoreMap.save_apply] at registered
      split at registered
      next =>
        cases registered
        rw [infos, StoreMap.save_self]
        exact ⟨_, rfl, rfl⟩
      next =>
        rcases orderly.issues _ _ registered voucher with ⟨info, known, minter⟩
        have different : contract ≠ fresh := by
          intro same
          rw [same, free] at known
          cases known
        rw [infos, StoreMap.save_of_ne different]
        exact ⟨info, known, minter⟩
  room := by
    intro index later
    rcases received.known_or_new with ⟨-, -, infos, count⟩ |
      ⟨fresh, -, -, address, -, -, infos, count⟩
    · rw [infos]
      rw [count] at later
      exact orderly.room index later
    · exact orderly.room_instantiate address infos count later
  records := by
    intro classId cls recorded
    by_cases same : classId = voucherClassId packet.dest data.classId
    · rw [same] at recorded
      rcases received.record with kept | new
      · rw [kept] at recorded
        exact orderly.records recorded
      · rw [new] at recorded
        cases recorded
        rcases NonFungibleTokenPacketData.validate_eq_ok.mp valid with ⟨-, uri, bytes, -⟩
        exact ⟨uri, bytes⟩
    · rw [received.storage.records classId same] at recorded
      exact orderly.records recorded

/-- Steps that leave the registry alone and add no collection. -/
theorem Orderly.of_same (orderly : deployment.Orderly codeId world)
    (heldAfter : deployment.Held codeId after) (noProxy : after.storage.proxy = none)
    (contracts : after.storage.classIdToNftContract = world.storage.classIdToNftContract)
    (records : after.storage.classIdToClass = world.storage.classIdToClass)
    (infos : after.contracts.infoAt deployment.api = world.contracts.infoAt deployment.api)
    (instances : after.contracts.instances = world.contracts.instances) :
    deployment.Orderly codeId after where
  toHeld := heldAfter
  noProxy := noProxy
  issues := by
    unfold Issues
    rw [contracts, infos]
    exact orderly.issues
  room := by
    rw [instances, infos]
    exact orderly.room
  records := by
    rw [records]
    exact orderly.records

theorem Orderly.stepped {label : Chain.Label} (orderly : deployment.Orderly codeId world)
    (heldAfter : deployment.Held codeId after) (noProxy : after.storage.proxy = none)
    (stepped : deployment.Stepped world label after) : deployment.Orderly codeId after := by
  cases stepped with
  | stayed => exact orderly
  | executed account noContract executed =>
      exact orderly.executed heldAfter noProxy account noContract executed
  | received _ checked received =>
      rcases checkIbcPacket_eq_ok.mp checked with ⟨-, -, valid, -, -⟩
      exact orderly.received heldAfter valid received
  | @failed packet data _ _ _ =>
      have folded := sameButTransit_selectFrom packet.dest data.classId
        (tryPopSourcePrefix packet.src data.classId.id) world.storage data.incoming
      rw [← selectActions_eq] at folded
      exact orderly.of_same heldAfter noProxy folded.contracts folded.records rfl rfl
  | refunded _ _ refunds =>
      rcases refunds with ⟨_, _, _, -, -, -, called, rfl⟩
      have moves := Ledger.moved_of_callAll called
      exact orderly.of_same heldAfter noProxy rfl rfl moves.infos moves.instances
  | burned _ _ burns =>
      rcases burns with ⟨_, _, _, _, -, -, -, called, rfl⟩
      have burning := Ledger.burned_of_callAll called
      exact orderly.of_same heldAfter noProxy rfl rfl burning.infos burning.instances
  | migrated migrated =>
      simp only [migrate, Storage.setPauser, bind_eq_ok, mapError_eq_ok, pure_eq_ok,
        Prod.mk.injEq] at migrated
      rcases migrated with ⟨_, -, _, ⟨_, -, rfl⟩, rfl, -⟩
      exact orderly.of_same heldAfter noProxy rfl rfl rfl rfl

theorem Orderly.step (orderly : deployment.Orderly codeId world) {label : Chain.Label}
    (direct : label.Direct) :
    deployment.Orderly codeId (deployment.step deployment.contracts world label) := by
  have held := orderly.toHeld
  have stepped := held.stepped (.of deployment label)
  exact orderly.stepped (held.step (.of deployment label))
    (stepped.noProxy held direct orderly.noProxy) stepped

theorem Orderly.genesis {msg : InstantiateMsg} {ledger : Ledger}
    (unused : deployment.Unused ledger)
    (room : ∀ index, ledger.instances ≤ index →
      ledger.infoAt deployment.api (deployment.newAddress index) = none)
    (instantiated : deployment.instantiateTx deployment.contracts msg ledger = .ok world) :
    deployment.Orderly msg.cw721BaseCodeId world := by
  have held := Held.instantiateTx (.refl _) unused instantiated
  rcases instantiateTx_eq_ok (.refl _) instantiated with ⟨-, pauser, rfl⟩
  constructor
  · exact held
  · rfl
  · intro classId contract registered
    cases registered
  · exact room
  · intro classId cls recorded
    cases recorded

end Deployment

end Ics721
