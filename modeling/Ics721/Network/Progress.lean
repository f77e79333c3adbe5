import Ics721.Bridge.Emission
import Ics721.Network.Packets
import Ics721.Registry.Coherence

/-!
# What goes through

On a chain with cw721-base collections, where no call fails without a reason, packets with
one token go through: what the bridge holds can be redeemed, and a voucher that does not
exist can be created.
-/

namespace Ics721

open Library

namespace Deployment

variable {deployment : Deployment} {codeId : Nat} {world : World Ledger}
variable {packet : IbcPacket} {data : NonFungibleTokenPacketData} {receiver : Addr}
variable {tokenId : TokenId}

/-- `SendNft` goes through if the collection and the bridge accept it. -/
theorem executeTx_sendNft {after : World Ledger} {sender contract : Addr} {request : Binary}
    {ledger : Ledger} (deep : 2 ≤ deployment.depth) (different : contract ≠ deployment.bridge)
    (running : world.storage.paused = false) (noProxy : world.storage.proxy = none)
    (call : world.contracts.call deployment.api sender contract
      (.sendNft deployment.bridge.addr tokenId request) = .ok ledger)
    (sends : deployment.Sends ⟨contract, tokenId, sender.addr, request⟩
      { world with contracts := ledger } after) :
    deployment.executeTx deployment.contracts world sender
      (.execute contract (.cw721 (.sendNft deployment.bridge.addr tokenId request))) =
        .ok after := by
  rcases Nat.exists_eq_add_of_le' deep with ⟨depth, same⟩
  have sent : ∃ reached, deployment.Sends ⟨contract, tokenId, sender.addr, request⟩
      { world with contracts := ledger } reached ∧
      (after, (none : Option ReplyData)) = (reached, none) := ⟨after, sends, rfl⟩
  rcases (@sends_iff _ _ depth _ _ _).mpr sent with
    ⟨storage, response, inner, received, ran, reached⟩
  have executed : Ics721.execute deployment.api deployment.bridge
      (deployment.contracts.querier ledger) world.storage contract
      (.receiveNft ⟨sender.addr, tokenId.id, request⟩) = .ok (storage, response) := by
    simp only [Ics721.execute, Storage.errorIfPaused, running, Bool.false_eq_true, if_false,
      mapError_ok, ok_bind, executeReceiveNft, noProxy, Option.isSome_none]
    exact received
  -- The account calls the collection, the collection calls the bridge.
  have collection : (deployment.machine deployment.contracts).execute world sender
      (.wasm (.execute contract (.cw721 (.sendNft deployment.bridge.addr tokenId request)))) =
        .ok (contract, ⟨{ world with contracts := ledger },
          [(WasmMsg.execute deployment.bridge
            (.bridge (.receiveNft ⟨sender.addr, tokenId.id, request⟩))).sub], none⟩) := by
    simp [Chain.machine, Chain.executeMsg, different, contracts, call, pure, Except.pure,
      World.reactContract, Cw721ExecuteMsg.callbacks]
  have bridge : (deployment.machine deployment.contracts).execute
      { world with contracts := ledger } contract
      (.wasm (.execute deployment.bridge
        (.bridge (.receiveNft ⟨sender.addr, tokenId.id, request⟩)))) =
        .ok (deployment.bridge, ⟨{ world with
          storage := storage
          contracts := ledger
          sends := world.sends ++ [⟨contract, tokenId, sender.addr, request⟩] },
          response.messages, response.data.map .binary⟩) := by
    simp [Chain.machine, Chain.executeMsg, executed, pure, Except.pure, World.react,
      ExecuteMsg.sendRecord]
  have called : (deployment.machine deployment.contracts).dispatch (depth + 2)
      { world with contracts := ledger } contract
      [(WasmMsg.execute deployment.bridge
        (.bridge (.receiveNft ⟨sender.addr, tokenId.id, request⟩))).sub] none =
        .ok (inner.1, none) := by
    rw [Machine.dispatch_succ_cons, Machine.runOne_never rfl]
    simp only [WasmMsg.sub, CosmosMsg.sub, bridge, ok_bind, ran]
    simp [pure, Except.pure]
  cases reached
  simp only [Chain.executeTx, same]
  rw [Machine.dispatch_succ_cons, Machine.runOne_never rfl]
  simp only [WasmMsg.sub, CosmosMsg.sub, collection, ok_bind]
  simp only [WasmMsg.sub, CosmosMsg.sub] at called
  rw [called]
  simp [pure, Except.pure]

/-- Somebody who signs transactions: no contract, and no address that a contract will have. -/
structure Account (deployment : Deployment) (world : World Ledger) (addr : Addr) : Prop where
  valid : deployment.api.addrValid addr.addr = true
  outsider : addr ≠ deployment.bridge
  noContract : world.contracts.infoAt deployment.api addr = none
  never : ∀ index, deployment.newAddress index ≠ addr

/-- The class that is found for a collection has its record. -/
theorem Orderly.record_valid {contract : Addr} {storage : Storage} {cls : Class}
    (orderly : deployment.Orderly codeId world)
    (valid : deployment.api.addrValid contract.addr = true)
    (selected : classForContract world.storage contract = .ok (storage, cls)) :
    cls.Valid := by
  have nonempty := deployment.api.valid_ne_empty _ valid
  have registry := orderly.sound.registry
  unfold classForContract at selected
  split at selected
  next classId entry =>
    simp only [bind_eq_ok, Storage.loadClass_eq_ok, pure_eq_ok, Prod.mk.injEq] at selected
    rcases selected with ⟨found, recorded, rfl, rfl⟩
    refine ⟨?_, orderly.records recorded⟩
    rw [registry.class_id recorded]
    rcases registry.shape ((registry.inverse classId contract).mpr entry) with same | slash
    · rw [same]
      exact nonempty
    · intro empty
      rw [empty] at slash
      simp at slash
  next =>
    simp only [Except.ok.injEq, Prod.mk.injEq] at selected
    rcases selected with ⟨rfl, rfl⟩
    exact ⟨nonempty, by simp, by simp⟩

/-- No contract takes the address of an account. -/
theorem Account.stepped {addr : Addr} {after : World Ledger} {label : Chain.Label}
    (account : deployment.Account world addr)
    (stepped : deployment.Stepped world label after) : deployment.Account after addr := by
  refine { account with noContract := ?_ }
  have absent := account.noContract
  have instantiated : ∀ {ledger : Ledger} {info : CollectionInfo} {contract : Addr},
      contract = deployment.newAddress world.contracts.instances →
      ledger.infoAt deployment.api =
        StoreMap.save (world.contracts.infoAt deployment.api) contract info →
      ledger.infoAt deployment.api addr = none := by
    intro ledger info contract address infos
    have different : addr ≠ contract := by
      intro same
      exact account.never _ (address.symm.trans same.symm)
    rw [infos, StoreMap.save_of_ne different]
    exact absent
  cases stepped with
  | stayed => exact absent
  | executed _ _ executed =>
      cases executed with
      | called _ call => exact Ledger.call_absent call absent
      | instantiated instantiation =>
          rcases instantiate_eq_ok instantiation with ⟨address, -, infos, -, -⟩
          exact instantiated address infos
      | sent _ call _ _ sends =>
          rcases sends with ⟨_, _, _, _, _, -, -, -, -, -, rfl⟩
          exact Ledger.call_absent call absent
      | forwarded _ _ _ sends =>
          rcases sends with ⟨_, _, _, _, _, -, -, -, -, -, rfl⟩
          exact absent
      | paused _ => exact absent
  | received _ _ received =>
      rcases received.known_or_new with ⟨-, -, infos, -⟩ |
        ⟨contract, -, -, address, -, -, infos, -⟩
      · rw [infos]
        exact absent
      · exact instantiated address infos
  | failed => exact absent
  | refunded _ _ refunds =>
      rcases refunds with ⟨data, contract, ledger, -, -, -, called, rfl⟩
      exact (congrFun (Ledger.moved_of_callAll called).infos _).trans absent
  | burned _ _ burns =>
      rcases burns with ⟨data, contract, burned, ledger, -, -, -, called, rfl⟩
      exact (congrFun (Ledger.burned_of_callAll called).infos _).trans absent
  | migrated => exact absent

/-- An account sends an NFT away as it wishes. -/
structure SentAs (deployment : Deployment) (world after : World Ledger) (contract : Addr)
    (wish : IbcOutgoingMsg) (packet : IbcPacket) (data : NonFungibleTokenPacketData)
    (tokenId : TokenId) : Prop extends deployment.Sent world after packet data tokenId where
  classId : data.classId = world.storage.classOf contract
  channelId : packet.src.channelId = wish.channelId
  receiver : data.receiver = wish.receiver
  valid : data.validate = .ok ()
  registered : after.storage.classIdToNftContract data.classId = some contract
  others : ∀ other, other ≠ data.classId →
    after.storage.classIdToNftContract other = world.storage.classIdToNftContract other
  metadata : after.storage.tokenMetadata = world.storage.tokenMetadata
  paused : after.storage.paused = world.storage.paused
  nfts : ∃ token, after.contracts.nfts deployment.api =
    (world.contracts.nfts deployment.api).save (contract, tokenId) token ∧
      token.owner = deployment.bridge

/-- The message with which the owner of an NFT sends it away. -/
def sendMsg (deployment : Deployment) (contract : Addr) (tokenId : TokenId)
    (wish : IbcOutgoingMsg) : WasmMsg :=
  .execute contract (.cw721 (.sendNft deployment.bridge.addr tokenId
    (deployment.api.ibcOutgoing.toBinary wish)))

/-- The owner of an NFT can send it over an open channel. -/
theorem Orderly.exists_send {sender contract : Addr} {token : TokenInfo}
    {wish : IbcOutgoingMsg} {dest : IbcEndpoint} (orderly : deployment.Orderly codeId world)
    (deep : 2 ≤ deployment.depth) (running : world.storage.paused = false)
    (account : deployment.Account world sender)
    (present : world.contracts.nfts deployment.api (contract, tokenId) = some token)
    (owned : token.owner = sender)
    (opened : deployment.counterparty wish.channelId = some dest) :
    ∃ after packet data,
      deployment.step deployment.contracts world
        (.execute sender (deployment.sendMsg contract tokenId wish)) = after ∧
      deployment.SentAs world after contract wish packet data tokenId := by
  rcases Ledger.infoAt_of_nfts present with ⟨info, known⟩
  have different : contract ≠ deployment.bridge := by
    intro same
    rw [same, orderly.absent] at known
    cases known
  have valid : deployment.api.addrValid contract.addr = true := by
    rcases Ledger.infoAt_eq_some.mp known with ⟨collection, found, -⟩
    exact (Ledger.contractAt_eq_some.mp found).1
  rcases Ledger.exists_transferNft present owned deployment.bridge_valid with ⟨ledger, transfer⟩
  rcases Ledger.call_transferNft transfer with ⟨_, before, -, -, -, -, became⟩
  have call : world.contracts.call deployment.api sender contract
      (.sendNft deployment.bridge.addr tokenId (deployment.api.ibcOutgoing.toBinary wish)) =
        .ok ledger := transfer
  have moved : ledger.nfts deployment.api (contract, tokenId) =
      some ⟨⟨deployment.bridge.addr⟩, [], before.tokenUri⟩ := by
    rw [became.nfts, StoreMap.save_self]
  rcases orderly.sound.registry.exists_classForContract contract with ⟨⟨storage, cls⟩, selected⟩
  have departs : ∃ after, deployment.Sends
      ⟨contract, tokenId, sender.addr, deployment.api.ibcOutgoing.toBinary wish⟩
      { world with contracts := ledger } after :=
    ⟨_, wish, storage, cls, _, dest, account.valid, Codec.from_to _ _, selected, moved, opened,
      rfl⟩
  rcases departs with ⟨after, sends⟩
  have ran := executeTx_sendNft deep different running orderly.noProxy call sends
  have noContract : deployment.contracts.isContract world.contracts sender = false := by
    have unknown := account.noContract
    simp only [contracts]
    simpa [Ledger.infoAt] using unknown
  have reached : deployment.step deployment.contracts world
      (.execute sender (deployment.sendMsg contract tokenId wish)) = after := by
    simp only [Chain.step, Chain.transaction, account.outsider, noContract, Bool.false_eq_true,
      or_self, if_false, sendMsg, ran]
  have executed : deployment.Executed sender world (deployment.sendMsg contract tokenId wish)
      after := .sent different call running orderly.noProxy sends
  have extended := orderly.toHeld.extends (.of deployment
    (.execute sender (deployment.sendMsg contract tokenId wish)))
  simp only [happen, Event.of, reached] at extended
  have registry : ∀ classId : ClassId, '/' ∈ classId.id.toList →
      after.storage.classIdToNftContract classId =
        world.storage.classIdToNftContract classId :=
    fun _ voucher => executed.registry orderly.toHeld orderly.noProxy account.noContract voucher
  rcases sends with ⟨again, next, picked, info, other, -, decoded, chosen, -, known, same⟩
  rw [Codec.from_to] at decoded
  cases decoded
  rw [same] at registry extended
  have unregistered : ∀ classId : ClassId, '/' ∈ classId.id.toList →
      next.classIdToNftContract classId = world.storage.classIdToNftContract classId := registry
  have kept : Extends world.storage next := ⟨extended.contract_kept, extended.class_kept⟩
  have sent := orderly.sent_packet unregistered kept account.outsider call chosen known same
  have found := orderly.sound.registry.classFound chosen
  refine ⟨after, _, _, reached, sent, found.id, rfl, rfl,
    validate_outgoing (orderly.record_valid valid chosen), ?_, ?_, ?_, ?_, ?_⟩
  · rw [same]
    exact found.registered
  · rw [same]
    exact found.contracts
  · rw [same]
    exact found.metadata
  · rw [same]
    exact found.paused
  · rw [same]
    exact ⟨_, became.nfts, rfl⟩

/-- One token of a packet goes back to the collection it came from. -/
structure RedeemedOne (deployment : Deployment) (world after : World Ledger)
    (localClass : ClassId) (tokenId : TokenId) (receiver : Addr) : Prop where
  storage : after.storage = { world.storage with
    outgoingClassTokenToChannel :=
      world.storage.outgoingClassTokenToChannel.remove (localClass, tokenId) }
  commitments : after.commitments = world.commitments
  moved : ∃ contract before token,
    world.storage.classIdToNftContract localClass = some contract ∧
    world.contracts.nfts deployment.api (contract, tokenId) = some before ∧
    after.contracts.nfts deployment.api =
      (world.contracts.nfts deployment.api).save (contract, tokenId) token ∧
    token.owner = receiver

/-- What the bridge holds can be redeemed. -/
theorem Held.receiveTx_redemption (held : deployment.Held codeId world)
    (deep : 3 ≤ deployment.depth)
    (checked : checkIbcPacket deployment.api world.storage packet = .ok (data, receiver))
    {localClass : ClassId}
    (selected : selectActions packet data world.storage =
      ({ world.storage with
          outgoingClassTokenToChannel :=
            world.storage.outgoingClassTokenToChannel.remove (localClass, tokenId) },
        [.redemption localClass tokenId]))
    (escrow : deployment.holder world localClass tokenId = some .escrow) :
    ∃ after, deployment.receiveTx deployment.contracts world packet =
        .ok (after, ackSuccess deployment.api) ∧
      deployment.RedeemedOne world after localClass tokenId receiver := by
  rcases holder_eq_escrow.mp escrow with ⟨contract, token, registered, present, owned⟩
  have valid : deployment.api.addrValid receiver.addr = true := by
    rcases checkIbcPacket_eq_ok.mp checked with ⟨-, -, -, known, rfl⟩
    exact known
  rcases Ledger.exists_transferNft present owned valid with ⟨ledger, called⟩
  rcases Ledger.call_transferNft called with ⟨_, before, -, -, -, -, became⟩
  have applies : deployment.Applies receiver
      (data.aggregate (selectActions packet data world.storage).2) (noted world packet data)
      { noted world packet data with contracts := ledger } := by
    rw [selected]
    refine ⟨_, ⟨contract, ledger, ?_, ?_, rfl⟩, rfl⟩
    · simp only [noted, selected]
      exact registered
    · simp only [Ledger.callAll, List.map_cons, List.map_nil, List.foldlM_cons,
        List.foldlM_nil, bind_eq_ok, pure_eq_ok]
      exact ⟨ledger, called, rfl⟩
  refine ⟨_, receiveTx_of_applies deep held.foreign checked applies, ?_, rfl, ?_⟩
  · simp only [noted, selected]
  · exact ⟨contract, token, _, registered, present, became.nfts, rfl⟩

/-- The collection of a class is known, or instantiated at a free address. -/
theorem opens_of_minter (world : World Ledger) {classId : ClassId}
    (minter : ∀ contract, world.storage.classIdToNftContract classId = some contract →
      ∃ info, world.contracts.infoAt deployment.api contract = some info ∧
        info.minter = deployment.bridge)
    (free : world.contracts.infoAt deployment.api
      (deployment.newAddress world.contracts.instances) = none) :
    ∃ contract opened info,
      deployment.Opens classId contract world opened ∧
      opened.contracts.infoAt deployment.api contract = some info ∧
      info.minter = deployment.bridge ∧
      ∀ tokenId, deployment.holder world classId tokenId = none →
        opened.contracts.nfts deployment.api (contract, tokenId) = none := by
  cases known : world.storage.classIdToNftContract classId with
  | some contract =>
      rcases minter contract known with ⟨info, found, isMinter⟩
      exact ⟨contract, _, info, .inl ⟨known, rfl⟩, found, isMinter,
        fun tokenId unused => holder_eq_none.mp unused contract known⟩
  | none =>
      have valid : deployment.api.addrValid
          (Cw721InstantiateMsg.mk classId.id classId.id deployment.bridge.addr).minter = true :=
        deployment.bridge_valid
      rcases exists_instantiate free valid with ⟨ledger, instantiated⟩
      rcases instantiate_eq_ok instantiated with ⟨-, -, infos, nfts, -⟩
      refine ⟨_, _, ⟨classId.id, deployment.bridge, .empty⟩,
        .inr ⟨known, ledger, instantiated, rfl⟩, ?_, rfl, ?_⟩
      · rw [infos, StoreMap.save_self]
      · intro tokenId _
        rw [nfts]
        cases present : world.contracts.nfts deployment.api
            (deployment.newAddress world.contracts.instances, tokenId) with
        | none => rfl
        | some token =>
            rcases Ledger.infoAt_of_nfts present with ⟨info, exists_⟩
            rw [free] at exists_
            cases exists_

/-- The collection of a voucher class can be opened. -/
theorem Orderly.exists_opens (orderly : deployment.Orderly codeId world)
    {storage : Storage} {classId : ClassId}
    (registry : storage.classIdToNftContract = world.storage.classIdToNftContract)
    (voucher : '/' ∈ classId.id.toList)
    (unused : deployment.holder world classId tokenId = none) :
    ∃ contract opened info,
      deployment.Opens classId contract { world with storage := storage } opened ∧
      opened.contracts.infoAt deployment.api contract = some info ∧
      info.minter = deployment.bridge ∧
      opened.contracts.nfts deployment.api (contract, tokenId) = none := by
  have minter : ∀ contract, storage.classIdToNftContract classId = some contract →
      ∃ info, world.contracts.infoAt deployment.api contract = some info ∧
        info.minter = deployment.bridge := by
    intro contract known
    rw [registry] at known
    exact orderly.issues _ _ known voucher
  have free := orderly.room _ (Nat.le_refl _)
  rcases opens_of_minter { world with storage := storage } minter free with
    ⟨contract, opened, info, opens, found, isMinter, allFree⟩
  refine ⟨contract, opened, info, opens, found, isMinter, allFree tokenId ?_⟩
  rw [← unused]
  exact holder_congr (congrFun registry classId) fun _ _ => rfl

/-- A voucher that does not exist can be created. -/
theorem Orderly.receiveTx_creation (orderly : deployment.Orderly codeId world)
    (deep : 3 ≤ deployment.depth)
    (checked : checkIbcPacket deployment.api world.storage packet = .ok (data, receiver))
    {uri : Option String} {bytes : Option Binary}
    (selected : (selectActions packet data world.storage).2 =
      [.creation (voucherClassId packet.dest data.classId) ⟨tokenId, uri, bytes⟩])
    (unused : deployment.holder world (voucherClassId packet.dest data.classId) tokenId = none) :
    ∃ after contract token, deployment.receiveTx deployment.contracts world packet =
        .ok (after, ackSuccess deployment.api) ∧
      deployment.Received packet data receiver world after ∧
      after.storage.classIdToNftContract (voucherClassId packet.dest data.classId) =
        some contract ∧
      after.contracts.nfts deployment.api (contract, tokenId) = some token ∧
      token.owner = receiver := by
  have valid : deployment.api.addrValid receiver.addr = true := by
    rcases checkIbcPacket_eq_ok.mp checked with ⟨-, -, -, known, rfl⟩
    exact known
  have folded := sameButTransit_selectFrom packet.dest data.classId
    (tryPopSourcePrefix packet.src data.classId.id) world.storage data.incoming
  rw [← selectActions_eq] at folded
  have recorded : ((noted world packet data).storage.saveClass
      ⟨voucherClassId packet.dest data.classId, data.classUri,
        data.classData⟩).classIdToNftContract = world.storage.classIdToNftContract :=
    folded.contracts
  rcases orderly.exists_opens recorded (slash_mem_voucherClassId _ _) unused with
    ⟨contract, opened, info, opens, found, minter, free⟩
  have mintable : ∃ ledger, opened.contracts.call deployment.api deployment.bridge contract
      (.mint tokenId receiver.addr uri) = .ok ledger :=
    Ledger.exists_mint found minter free valid
  rcases mintable with ⟨ledger, called⟩
  have applies : deployment.Applies receiver
      (data.aggregate (selectActions packet data world.storage).2) (noted world packet data)
      { opened with
        storage := opened.storage.saveMetadata (voucherClassId packet.dest data.classId)
          [⟨tokenId, uri, bytes⟩]
        contracts := ledger } := by
    rw [selected]
    refine ⟨noted world packet data, rfl, contract, opened, ledger, opens, ?_, rfl⟩
    simp only [Ledger.callAll, List.map_cons, List.map_nil, List.foldlM_cons, List.foldlM_nil,
      bind_eq_ok, pure_eq_ok]
    exact ⟨ledger, called, rfl⟩
  have received := received_of_applies applies
  have created : ⟨tokenId, uri, bytes⟩ ∈
      createdTokens (selectActions packet data world.storage).2 := by
    rw [selected]
    exact List.mem_singleton.mpr rfl
  rcases received.created _ created with ⟨collection, _, known, -, -, -, minted⟩
  exact ⟨_, collection, _, receiveTx_of_applies deep orderly.foreign checked applies, received,
    known, minted, rfl⟩

end Deployment

end Ics721
