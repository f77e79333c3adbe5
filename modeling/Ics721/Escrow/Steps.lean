import Ics721.Cw721.Effects
import Ics721.Registry.Runs

/-!
# Steps of a chain with cw721-base collections

Every event on a chain whose collections conform to cw721-base is one of a few: an account
executes a message, a packet goes through or fails, a packet of the bridge is refunded or
burned, or the bridge is migrated.  `Held` is what all of them keep.
-/

namespace Ics721

open Library

/-- The label settles a packet as failed. -/
def Chain.Label.Fails (api : Api) (packet : IbcPacket) (label : Chain.Label) : Prop :=
  label = .timeout packet ∨
    ∃ acknowledgement, label = .ack packet acknowledgement ∧
      tryGetAckError api acknowledgement ≠ none

/-- Soundness only looks at which addresses are contracts. -/
theorem Sound.of_isContract {σ : Type} {chain : Chain} {contracts others : Contracts σ}
    {codeId : Nat} {world : World σ} (sound : Sound chain contracts codeId world)
    (same : others.isContract = contracts.isContract) : Sound chain others codeId world where
  registry := by
    rw [same]
    exact sound.registry
  sequence := sound.sequence
  origin := sound.origin

/-- A call makes no collection appear. -/
theorem Ledger.call_absent {api : Api} {ledger after : Ledger} {sender contract query : Addr}
    {msg : Cw721ExecuteMsg} (called : ledger.call api sender contract msg = .ok after)
    (absent : ledger.infoAt api query = none) : after.infoAt api query = none := by
  rcases Ledger.call_eq_ok.mp called with ⟨collection, next, found, -, rfl⟩
  simp only [infoAt, contractAt_put (contractAt_eq_some.mp found).1]
  split
  next same =>
    simp [infoAt, same, found] at absent
  next => exact absent

namespace Deployment

variable {deployment : Deployment} {codeId : Nat} {world after : World Ledger}

/-- Something that happens to the chain, and which calls of the collections fail then. -/
structure Event (deployment : Deployment) where
  label : Chain.Label
  contracts : Contracts Ledger
  conforms : Conforms deployment.contracts contracts

/-- The chain after an event. -/
def happen (deployment : Deployment) (world : World Ledger) (event : deployment.Event) :
    World Ledger :=
  deployment.step event.contracts world event.label

/-- An event in which nothing fails. -/
def Event.of (deployment : Deployment) (label : Chain.Label) : deployment.Event :=
  ⟨label, deployment.contracts, .refl _⟩

/-- A run in which nothing fails. -/
theorem foldl_happen (deployment : Deployment) (world : World Ledger)
    (labels : List Chain.Label) :
    (labels.map (Event.of deployment)).foldl deployment.happen world =
      labels.foldl (deployment.step deployment.contracts) world :=
  List.foldl_map

/-- What holds on every chain with cw721-base collections: the registry is sound, the bridge
has approved nobody, and it is no collection itself. -/
structure Held (deployment : Deployment) (codeId : Nat) (world : World Ledger) : Prop where
  sound : Sound deployment.toChain deployment.contracts codeId world
  custody : world.contracts.Custody deployment.api deployment.bridge
  absent : world.contracts.infoAt deployment.api deployment.bridge = none

theorem Held.known (held : deployment.Held codeId world) {classId : ClassId} {contract : Addr}
    (registered : world.storage.classIdToNftContract classId = some contract) :
    ∃ info, world.contracts.infoAt deployment.api contract = some info := by
  have isContract := held.sound.registry.contract_known registered
  change (world.contracts.contractAt deployment.api contract).isSome = true at isContract
  rw [isSome_contractAt] at isContract
  exact Option.isSome_iff_exists.mp isContract

theorem Held.foreign (held : deployment.Held codeId world) :
    deployment.Foreign world.storage := by
  intro classId registered
  rcases held.known registered with ⟨info, known⟩
  rw [held.absent] at known
  cases known

/-! ## One step -/

/-- What a step does. -/
inductive Stepped (deployment : Deployment) (world : World Ledger) :
    Chain.Label → World Ledger → Prop where
  | stayed {label : Chain.Label} : Stepped deployment world label world
  | executed {sender : Addr} {msg : WasmMsg} {after : World Ledger}
      (account : sender ≠ deployment.bridge)
      (noContract : world.contracts.infoAt deployment.api sender = none)
      (executed : deployment.Executed sender world msg after) :
      Stepped deployment world (.execute sender msg) after
  | received {packet : IbcPacket} {data : NonFungibleTokenPacketData} {receiver : Addr}
      {after : World Ledger} (addressed : packet.dest.portId = deployment.portId)
      (checked : checkIbcPacket deployment.api world.storage packet = .ok (data, receiver))
      (received : deployment.Received packet data receiver world after) :
      Stepped deployment world (.receive packet) after
  | failed {packet : IbcPacket} {data : NonFungibleTokenPacketData} {receiver : Addr}
      (addressed : packet.dest.portId = deployment.portId)
      (checked : checkIbcPacket deployment.api world.storage packet = .ok (data, receiver)) :
      Stepped deployment world (.receive packet) (noted world packet data)
  | refunded {label : Chain.Label} {packet : IbcPacket} {after : World Ledger}
      (fails : label.Fails deployment.api packet) (pending : packet ∈ world.commitments)
      (refunds : deployment.Refunds packet world after) : Stepped deployment world label after
  | burned {packet : IbcPacket} {acknowledgement : Binary} {after : World Ledger}
      (pending : packet ∈ world.commitments)
      (success : tryGetAckError deployment.api acknowledgement = none)
      (burns : deployment.Burns packet world after) :
      Stepped deployment world (.ack packet acknowledgement) after
  | migrated {pauser proxy : Option String} {storage : Storage} {response : Response}
      (migrated : migrate deployment.api world.storage (.withUpdate pauser proxy) =
        .ok (storage, response)) :
      Stepped deployment world (.migrate (.withUpdate pauser proxy))
        { world with storage := storage }

theorem Held.stepped (held : deployment.Held codeId world) (event : deployment.Event) :
    deployment.Stepped world event.label (deployment.happen world event) := by
  rcases event with ⟨label, contracts, conforms⟩
  have foreign := held.foreign
  unfold happen Chain.step
  split
  next reached done =>
    cases label with
    | execute sender msg =>
        simp only [Chain.transaction] at done
        split at done
        next =>
          cases done
          exact .stayed
        next account =>
          rw [not_or] at account
          have noContract : world.contracts.infoAt deployment.api sender = none := by
            have unknown := account.2
            rw [conforms.isContract] at unknown
            change ¬(world.contracts.contractAt deployment.api sender).isSome = true at unknown
            rw [isSome_contractAt] at unknown
            simpa using unknown
          exact .executed account.1 noContract (executeTx_cases conforms account.1 done)
    | receive packet =>
        simp only [Chain.transaction] at done
        split at done
        next addressed =>
          rcases map_eq_ok.mp done with ⟨⟨final, ack⟩, received, rfl⟩
          rcases receiveTx_cases conforms foreign received with
            ⟨error, -, rfl, -⟩ | ⟨data, receiver, checked, ⟨text, -, rfl⟩ | ⟨-, applies⟩⟩
          · exact .stayed
          · exact .failed addressed checked
          · exact .received addressed checked (received_of_applies applies)
        next =>
          cases done
          exact .stayed
    | ack packet acknowledgement =>
        rcases ackTx_cases conforms foreign done with
          ⟨pending, ⟨failure, refunds⟩ | ⟨success, burns⟩⟩
        · exact .refunded (.inr ⟨_, rfl, failure⟩) pending refunds
        · exact .burned pending success burns
    | timeout packet =>
        rcases timeoutTx_refunds conforms foreign done with ⟨pending, refunds⟩
        exact .refunded (.inl rfl) pending refunds
    | migrate msg =>
        cases msg with
        | withUpdate pauser proxy =>
            simp only [Chain.transaction, Chain.migrateTx, bind_eq_ok, mapError_eq_ok,
              pure_eq_ok] at done
            rcases done with ⟨⟨storage, response⟩, migrated, rfl⟩
            exact .migrated migrated
  next => exact .stayed

/-! ## What every step keeps -/

/-- A message of an account leaves the custody of the bridge alone. -/
theorem Executed.custody {sender : Addr} {msg : WasmMsg}
    (executed : deployment.Executed sender world msg after) (account : sender ≠ deployment.bridge)
    (custody : world.contracts.Custody deployment.api deployment.bridge) :
    after.contracts.Custody deployment.api deployment.bridge ∧
      Ledger.Outside deployment.api deployment.bridge world.contracts after.contracts := by
  cases executed with
  | called _ call => exact custody.call account call
  | instantiated instantiation => exact custody_instantiate custody instantiation
  | sent _ call _ _ sends =>
      rcases sends with ⟨_, _, _, _, _, -, -, -, -, -, rfl⟩
      exact custody.call account call
  | forwarded _ _ _ sends =>
      rcases sends with ⟨_, _, _, _, _, -, -, -, -, -, rfl⟩
      exact ⟨custody, .refl _ _ _⟩
  | paused _ => exact ⟨custody, .refl _ _ _⟩

theorem Executed.absent {sender : Addr} {msg : WasmMsg}
    (executed : deployment.Executed sender world msg after)
    (absent : world.contracts.infoAt deployment.api deployment.bridge = none) :
    after.contracts.infoAt deployment.api deployment.bridge = none := by
  cases executed with
  | called _ call => exact Ledger.call_absent call absent
  | instantiated instantiation =>
      rcases instantiate_eq_ok instantiation with ⟨address, -, infos, -, -⟩
      have different : deployment.bridge ≠ deployment.newAddress world.contracts.instances :=
        (deployment.newAddress_ne_bridge _).symm
      rw [infos, address, StoreMap.save_of_ne different]
      exact absent
  | sent _ call _ _ sends =>
      rcases sends with ⟨_, _, _, _, _, -, -, -, -, -, rfl⟩
      exact Ledger.call_absent call absent
  | forwarded _ _ _ sends =>
      rcases sends with ⟨_, _, _, _, _, -, -, -, -, -, rfl⟩
      exact absent
  | paused _ => exact absent

theorem Received.absent {packet : IbcPacket} {data : NonFungibleTokenPacketData}
    {receiver : Addr} (received : deployment.Received packet data receiver world after)
    (absent : world.contracts.infoAt deployment.api deployment.bridge = none) :
    after.contracts.infoAt deployment.api deployment.bridge = none := by
  rcases received.known_or_new with ⟨-, -, infos, -⟩ | ⟨contract, -, -, address, -, -, infos, -⟩
  · rw [infos]
    exact absent
  · have different : deployment.bridge ≠ deployment.newAddress world.contracts.instances :=
        (deployment.newAddress_ne_bridge _).symm
    rw [infos, address, StoreMap.save_of_ne different]
    exact absent

theorem Stepped.custody {label : Chain.Label} (stepped : deployment.Stepped world label after)
    (custody : world.contracts.Custody deployment.api deployment.bridge) :
    after.contracts.Custody deployment.api deployment.bridge := by
  cases stepped with
  | stayed => exact custody
  | executed account _ executed => exact (executed.custody account custody).1
  | received _ _ received => exact received.custody custody
  | failed => exact custody
  | refunded _ _ refunds =>
      rcases refunds with ⟨data, contract, ledger, -, -, -, called, rfl⟩
      exact (Ledger.moved_of_callAll called).custody custody
  | burned _ _ burns =>
      rcases burns with ⟨data, contract, burned, ledger, -, -, -, called, rfl⟩
      exact (Ledger.burned_of_callAll called).custody custody
  | migrated => exact custody

theorem Stepped.absent {label : Chain.Label} (stepped : deployment.Stepped world label after)
    (absent : world.contracts.infoAt deployment.api deployment.bridge = none) :
    after.contracts.infoAt deployment.api deployment.bridge = none := by
  cases stepped with
  | stayed => exact absent
  | executed _ _ executed => exact executed.absent absent
  | received _ _ received => exact received.absent absent
  | failed => exact absent
  | refunded _ _ refunds =>
      rcases refunds with ⟨data, contract, ledger, -, -, -, called, rfl⟩
      exact (congrFun (Ledger.moved_of_callAll called).infos _).trans absent
  | burned _ _ burns =>
      rcases burns with ⟨data, contract, burned, ledger, -, -, -, called, rfl⟩
      exact (congrFun (Ledger.burned_of_callAll called).infos _).trans absent
  | migrated => exact absent

theorem Held.step (held : deployment.Held codeId world) (event : deployment.Event) :
    deployment.Held codeId (deployment.happen world event) := by
  have sound := (held.sound.of_isContract event.conforms.isContract).step
    (lawful event.conforms codeId) event.label
  have stepped := held.stepped event
  constructor
  · exact sound.1.of_isContract event.conforms.isContract.symm
  · exact stepped.custody held.custody
  · exact stepped.absent held.absent

/-- The registry only grows. -/
theorem Held.extends (held : deployment.Held codeId world) (event : deployment.Event) :
    Extends world.storage (deployment.happen world event).storage :=
  ((held.sound.of_isContract event.conforms.isContract).step
    (lawful event.conforms codeId) event.label).2

/-! ## Where runs start -/

/-- A chain on which the bridge has not acted yet. -/
structure Unused (deployment : Deployment) (ledger : Ledger) : Prop where
  custody : ledger.Custody deployment.api deployment.bridge
  absent : ledger.infoAt deployment.api deployment.bridge = none

theorem unused_empty (deployment : Deployment) : deployment.Unused ⟨.empty, 0⟩ where
  custody := by
    constructor
    · intro key token present
      simp [Ledger.nfts, Ledger.contractAt] at present
    · intro contract info known
      simp [Ledger.infoAt, Ledger.contractAt] at known
  absent := by simp [Ledger.infoAt, Ledger.contractAt]

/-- The bridge is instantiated without proxy: proxies are no cw721-base contracts. -/
theorem instantiateTx_eq_ok {contracts : Contracts Ledger} {msg : InstantiateMsg}
    {ledger : Ledger} (conforms : Conforms deployment.contracts contracts)
    (instantiated : deployment.instantiateTx contracts msg ledger = .ok world) :
    msg.proxy = none ∧ ∃ pauser,
      world = ⟨⟨msg.cw721BaseCodeId, none, pauser, false, .empty, .empty, .empty, .empty, .empty,
        .empty⟩, ledger, [], 0, []⟩ := by
  simp only [Chain.instantiateTx, Ics721.instantiate, Storage.setPauser, bind_eq_ok,
    mapError_eq_ok, pure_eq_ok] at instantiated
  rcases instantiated with ⟨⟨storage, response⟩, ⟨_, ⟨pauser, -, rfl⟩, rfl, rfl⟩, result, ran, rfl⟩
  cases proxied : msg.proxy with
  | none =>
      simp only [proxied, Option.map_none, Option.toList_none, Chain.runMessages,
        Machine.dispatch_nil, Except.ok.injEq] at ran
      subst ran
      exact ⟨rfl, pauser, rfl⟩
  | some proxy =>
      simp only [proxied, Option.map_some, Option.toList_some, Chain.runMessages] at ran
      rw [Machine.dispatch_succ_cons, bind_eq_ok] at ran
      rcases ran with ⟨middle, first, -⟩
      exfalso
      cases instantiation : contracts.instantiate
          ⟨msg.cw721BaseCodeId, none, pauser, false, .empty, .empty, .empty, .empty, .empty,
            .empty⟩ ledger deployment.bridge proxy.codeId (.other proxy.msg) with
      | error err =>
          simp [Machine.runOne, Chain.machine, Chain.executeMsg,
            ContractInstantiateInfo.intoWasmMsg, instantiation,
            ReplyOn.onError] at first
      | ok outcome =>
          have ran := conforms.instantiate instantiation
          cases ran

theorem Held.instantiateTx {contracts : Contracts Ledger} {msg : InstantiateMsg}
    {ledger : Ledger} (conforms : Conforms deployment.contracts contracts)
    (unused : deployment.Unused ledger)
    (instantiated : deployment.instantiateTx contracts msg ledger = .ok world) :
    deployment.Held msg.cw721BaseCodeId world := by
  have sound := Sound.instantiateTx (lawful conforms msg.cw721BaseCodeId) rfl instantiated
  rcases instantiateTx_eq_ok conforms instantiated with ⟨-, pauser, rfl⟩
  constructor
  · exact sound.of_isContract conforms.isContract.symm
  · exact unused.custody
  · exact unused.absent

end Deployment

/-! ## The class of a collection -/

/-- The class under which the NFTs of a collection are sent. -/
def Storage.classOf (storage : Storage) (contract : Addr) : ClassId :=
  (storage.nftContractToClassId contract).getD ⟨contract.addr⟩

/-- What `class_for_contract` leaves alone, and the class it finds. -/
structure ClassFound (storage : Storage) (contract : Addr) (after : Storage) (cls : Class) :
    Prop where
  id : cls.id = storage.classOf contract
  registered : after.classIdToNftContract cls.id = some contract
  contracts : ∀ other, other ≠ cls.id →
    after.classIdToNftContract other = storage.classIdToNftContract other
  outgoing : after.outgoingClassTokenToChannel = storage.outgoingClassTokenToChannel
  incoming : after.incomingClassTokenToChannel = storage.incomingClassTokenToChannel
  metadata : after.tokenMetadata = storage.tokenMetadata
  proxy : after.proxy = storage.proxy
  paused : after.paused = storage.paused

theorem Registry.classFound {codeId : Nat} {known : Addr → Prop} {storage after : Storage}
    {contract : Addr} {cls : Class} (registry : Registry codeId known storage)
    (selected : Ics721.classForContract storage contract = .ok (after, cls)) :
    ClassFound storage contract after cls := by
  unfold Ics721.classForContract at selected
  split at selected
  next classId entry =>
    simp only [bind_eq_ok, Storage.loadClass_eq_ok, pure_eq_ok, Prod.mk.injEq] at selected
    rcases selected with ⟨found, recorded, rfl, rfl⟩
    have named := registry.class_id recorded
    constructor
    · simp [Storage.classOf, entry, named]
    · rw [named]
      exact (registry.inverse classId contract).mpr entry
    · exact fun _ _ => rfl
    · rfl
    · rfl
    · rfl
    · rfl
    · rfl
  next missing =>
    simp only [Except.ok.injEq, Prod.mk.injEq] at selected
    rcases selected with ⟨rfl, rfl⟩
    constructor
    · simp [Storage.classOf, missing]
    · exact StoreMap.save_self _ _ _
    · exact fun _ different => StoreMap.save_of_ne different
    · rfl
    · rfl
    · rfl
    · rfl
    · rfl

/-! ## Packets and what they carry -/

/-- The packet carries a token of a class. -/
def Carries (api : Api) (packet : IbcPacket) (classId : ClassId) (tokenId : TokenId) : Prop :=
  ∃ data, api.packetData.fromBinary packet.data = .ok data ∧ data.classId = classId ∧
    tokenId ∈ data.tokenIds

namespace Deployment

variable {deployment : Deployment} {codeId : Nat} {world after : World Ledger}

theorem carries_outgoingPacket {storage : Storage} {cls : Class} {tokenId : TokenId}
    {uri : Option String} {sender : String} {outgoing : IbcOutgoingMsg} {dest : IbcEndpoint}
    {classId : ClassId} {other : TokenId} :
    Carries deployment.api
        (deployment.outgoingPacket world storage cls tokenId uri sender outgoing dest)
        classId other ↔ classId = cls.id ∧ other = tokenId := by
  simp only [Carries, outgoingPacket, Codec.from_to, Except.ok.injEq, exists_eq_left',
    outgoingPacketData, List.mem_singleton]
  constructor
  · intro carried
    exact ⟨carried.1.symm, carried.2⟩
  · intro carried
    exact ⟨carried.1.symm, carried.2⟩

/-- Whatever is sent by an account comes from one of its NFTs: without proxy nobody but a
collection can hand NFTs to the bridge. -/
theorem Executed.no_forward {sender : Addr} {msg : ExecuteMsg} {record : SendRecord}
    (noContract : world.contracts.infoAt deployment.api sender = none)
    (noProxy : world.storage.proxy = none) (named : msg.sendRecord sender = some record)
    (allowed : MaySend world.storage sender msg) :
    ¬deployment.Sends record world after := by
  intro sends
  rcases allowed with ⟨receive, rfl, -⟩ | ⟨eyeball, receive, -, proxied⟩
  · cases named
    rcases sends with ⟨_, _, _, token, _, -, -, -, present, -, -⟩
    rcases Ledger.infoAt_of_nfts present with ⟨info, known⟩
    rw [noContract] at known
    cases known
  · rw [noProxy] at proxied
    cases proxied

/-! ## Runs without proxy -/

end Deployment

/-- The label sets no proxy. -/
def Chain.Label.Direct : Chain.Label → Prop
  | .migrate (.withUpdate _ proxy) => proxy = none
  | _ => True

namespace Deployment

variable {deployment : Deployment} {codeId : Nat} {world after : World Ledger}

theorem Stepped.noProxy {label : Chain.Label} (stepped : deployment.Stepped world label after)
    (held : deployment.Held codeId world) (direct : label.Direct)
    (noProxy : world.storage.proxy = none) : after.storage.proxy = none := by
  cases stepped with
  | stayed => exact noProxy
  | executed _ _ executed =>
      cases executed with
      | called => exact noProxy
      | instantiated => exact noProxy
      | sent _ _ _ _ sends =>
          rcases sends with ⟨_, storage, cls, _, _, -, -, selected, -, -, rfl⟩
          exact (held.sound.registry.classFound selected).proxy.trans noProxy
      | forwarded _ _ _ sends =>
          rcases sends with ⟨_, storage, cls, _, _, -, -, selected, -, -, rfl⟩
          exact (held.sound.registry.classFound selected).proxy.trans noProxy
      | paused pause =>
          simp only [Storage.pause, bind_eq_ok, ite_error_eq_ok, pure_eq_ok] at pause
          rcases pause with ⟨-, -, -, rfl⟩
          exact noProxy
  | received _ _ received => exact received.storage.proxy.trans noProxy
  | @failed packet data _ _ _ =>
      have folded := sameButTransit_selectFrom packet.dest data.classId
        (tryPopSourcePrefix packet.src data.classId.id) world.storage data.incoming
      rw [← selectActions_eq] at folded
      exact folded.proxy.trans noProxy
  | refunded _ _ refunds =>
      rcases refunds with ⟨_, _, _, -, -, -, -, rfl⟩
      exact noProxy
  | burned _ _ burns =>
      rcases burns with ⟨_, _, _, _, -, -, -, -, rfl⟩
      exact noProxy
  | migrated migrated =>
      subst direct
      simp only [migrate, Storage.setPauser, bind_eq_ok, mapError_eq_ok, pure_eq_ok,
        Prod.mk.injEq] at migrated
      rcases migrated with ⟨newProxy, none, _, ⟨newPauser, -, rfl⟩, rfl, -⟩
      simp only [Option.mapM_none, pure_eq_ok] at none
      exact none.symm

end Deployment

end Ics721
