import Ics721.Escrow.Isolation
import Ics721.Escrow.Runs

/-!
# A failed transfer leaves no trace

A chain on which an NFT is sent and comes back is compared with the same chain without the
transfer.  Until the packet fails they differ in one NFT, and afterwards in nothing that can be
seen from outside, except that the class of the NFT may be known to one of them only.
-/

namespace Ics721

open Library

/-! ## The transfer -/

/-- The bridge has sent an NFT. -/
theorem Apart.of_send {codeId : Nat} {known : Addr → Prop} {storage after : Storage}
    {contract : Addr} {cls : Class} (registry : Registry codeId known storage)
    (contractKnown : known contract) (noSlash : '/' ∉ contract.addr.toList)
    (selected : Ics721.classForContract storage contract = .ok (after, cls))
    (tokenId : TokenId) (held kept : TokenInfo) (channelId : String) :
    Apart ⟨cls.id, tokenId, contract, held, kept⟩ False
      { after with
        outgoingClassTokenToChannel :=
          after.outgoingClassTokenToChannel.save (cls.id, tokenId) channelId } storage := by
  rcases registry.classForContract contractKnown noSlash selected with ⟨next, -, entry⟩
  have others : ∀ classId, after.classIdToNftContract classId = some contract ↔
      classId = cls.id := by
    intro classId
    constructor
    · intro same
      exact next.contract_inj same entry
    · intro same
      rw [same, entry]
  have contracts : ∀ other, after.nftContractToClassId other = some cls.id ↔
      other = contract := by
    intro other
    rw [← next.inverse, entry, Option.some.injEq]
    exact eq_comm
  have shape := next.shape entry
  unfold Ics721.classForContract at selected
  split at selected
  next classId known =>
    simp only [bind_eq_ok, Storage.loadClass_eq_ok, pure_eq_ok, Prod.mk.injEq] at selected
    rcases selected with ⟨found, recorded, rfl, rfl⟩
    exact ⟨rfl, rfl, rfl, rfl, rfl, rfl, fun key different => StoreMap.save_of_ne different,
      .same rfl rfl rfl, others, contracts, False.elim, shape⟩
  next missing =>
    simp only [Except.ok.injEq, Prod.mk.injEq] at selected
    rcases selected with ⟨rfl, rfl⟩
    have fresh := registry.local_class_fresh noSlash missing
    exact ⟨rfl, rfl, rfl, rfl, rfl, rfl, fun key different => StoreMap.save_of_ne different,
      .locally noSlash missing fresh rfl rfl rfl, others, contracts, False.elim, shape⟩

/-- The collection has moved the NFT to the bridge. -/
theorem Ledger.Twins.of_send {api : Api} {bridge sender contract : Addr} {tokenId : TokenId}
    {request : Binary} {world ledger : Ledger} {kept : TokenInfo} (classId : ClassId)
    (present : world.nfts api (contract, tokenId) = some kept)
    (call : world.call api sender contract (.sendNft bridge.addr tokenId request) = .ok ledger) :
    Ledger.Twins api ⟨classId, tokenId, contract, ⟨bridge, [], kept.tokenUri⟩, kept⟩ ledger
      world := by
  rcases Ledger.call_eq_ok.mp call with ⟨collection, next, found, executed, rfl⟩
  rcases Collection.transferNft_eq_ok.mp executed with ⟨token, held, -, -, rfl⟩
  rcases Ledger.nfts_eq_some.mp present with ⟨again, foundAgain, keeps⟩
  rw [found] at foundAgain
  cases foundAgain
  rw [held] at keeps
  cases keeps
  have valid := (Ledger.contractAt_eq_some.mp found).1
  have moved : (world.put contract { collection with
      tokens := collection.tokens.save tokenId ⟨⟨bridge.addr⟩, [], kept.tokenUri⟩ }).contractAt
        api contract = some _ := (Ledger.contractAt_put valid contract).trans (if_pos rfl)
  refine ⟨rfl, ?_, ⟨_, collection, moved, found, rfl, ?_, ?_, held⟩, rfl⟩
  · intro query different
    rw [Ledger.contractAt_put valid, if_neg different]
  · intro query different
    exact StoreMap.save_of_ne different
  · exact StoreMap.save_self _ _ _

/-- The packet of an NFT, on its way or failed. -/
structure Departs (deployment : Deployment) (packet : IbcPacket) (classId : ClassId)
    (tokenId : TokenId) (owner : Addr) : Prop where
  carried : ∃ data, deployment.api.packetData.fromBinary packet.data = .ok data ∧
    data.classId = classId ∧ data.tokenIds = [tokenId] ∧ data.sender = owner.addr
  valid : deployment.api.addrValid owner.addr = true

/-- Sending an NFT makes the difference. -/
theorem World.Twins.of_sends {deployment : Deployment} {codeId : Nat}
    {world after : World Ledger} {owner contract : Addr} {tokenId : TokenId} {request : Binary}
    {ledger : Ledger} {kept : TokenInfo} {packet : IbcPacket}
    (sound : Sound deployment.toChain deployment.contracts codeId world)
    (present : world.contracts.nfts deployment.api (contract, tokenId) = some kept)
    (call : world.contracts.call deployment.api owner contract
      (.sendNft deployment.bridge.addr tokenId request) = .ok ledger)
    (sends : deployment.Sends ⟨contract, tokenId, owner.addr, request⟩
      { world with contracts := ledger } after)
    (new : packet ∈ after.commitments) (old : packet ∉ world.commitments) :
    Departs deployment packet (world.storage.classOf contract) tokenId owner ∧
      World.Twins deployment ⟨world.storage.classOf contract, tokenId, contract,
        ⟨deployment.bridge, [], kept.tokenUri⟩, kept⟩ packet False after world := by
  rcases sends with ⟨outgoing, storage, cls, token, dest, valid, -, selected, -, -, rfl⟩
  have lawful := Deployment.lawful (.refl deployment.contracts) codeId
  have isContract : deployment.contracts.isContract world.contracts contract = true := by
    rcases Ledger.nfts_eq_some.mp present with ⟨collection, found, -⟩
    change (world.contracts.contractAt deployment.api contract).isSome = true
    rw [found]
    rfl
  have noSlash := deployment.api.valid_no_slash _ (lawful.contract_valid isContract)
  have found := sound.registry.classFound selected
  simp only [List.mem_append, old, List.mem_singleton, false_or] at new
  rw [← found.id]
  constructor
  · constructor
    · have decoded : deployment.api.packetData.fromBinary packet.data = .ok
          (outgoingPacketData storage cls tokenId token.tokenUri ⟨owner.addr⟩ outgoing) := by
        rw [new]
        exact Codec.from_to _ _
      exact ⟨_, decoded, rfl, rfl, rfl⟩
    · exact valid
  · have number : packet.sequence = world.nextSequence := by rw [new]; rfl
    refine ⟨?_, .of_send cls.id present call, ?_, ?_, rfl, ?_⟩
    · exact .of_send sound.registry isContract noSlash selected _ _ _ _
    · exact List.mem_append_right _ (List.mem_singleton.mpr new)
    · have early : ∀ other ∈ world.commitments, other.besides packet.sequence = other := by
        intro other member
        rcases sound.origin other member with ⟨record, sent, -⟩
        have below := (List.getElem?_eq_some_iff.mp sent).1
        rw [sound.sequence] at below
        simp only [IbcPacket.besides, number, below, if_true]
      rw [← new, List.erase_append_right _ old, List.map_congr_left early, List.map_id']
      simp
    · exact Nat.le_of_eq number

/-! ## The refund -/

namespace Deployment

variable {deployment : Deployment} {world after : World Ledger} {packet : IbcPacket}

/-- Whatever makes a packet fail runs the refund. -/
theorem step_of_refunds {label : Chain.Label} (fails : label.Fails deployment.api packet)
    (foreign : ∀ data, deployment.api.packetData.fromBinary packet.data = .ok data →
      world.storage.classIdToNftContract data.classId ≠ some deployment.bridge)
    (pending : packet ∈ world.commitments) (refunds : deployment.Refunds packet world after) :
    deployment.step deployment.contracts world label = after := by
  rcases fails with rfl | ⟨acknowledgement, rfl, failure⟩
  · have settled : deployment.timeoutTx deployment.contracts world packet = .ok after :=
      settle_of_refunds foreign pending refunds
    simp only [Chain.step, Chain.transaction, settled]
  · rcases Option.ne_none_iff_exists'.mp failure with ⟨error, read⟩
    have settled : deployment.ackTx deployment.contracts world packet acknowledgement =
        .ok after := by
      simp only [Chain.ackTx, ibcPacketAck, read]
      exact settle_of_refunds foreign pending refunds
    simp only [Chain.step, Chain.transaction, settled]

/-- The transfer of an NFT has left no trace: all that may be left is that its class, a local
one, is known. -/
structure Undone (deployment : Deployment) (contract : Addr) (classId : ClassId)
    (tokenId : TokenId) (owner : Addr) (after without : World Ledger) : Prop where
  returned : ∃ token, after.contracts.nfts deployment.api (contract, tokenId) = some token ∧
    token.owner = owner
  kept : ∃ token, without.contracts.nfts deployment.api (contract, tokenId) = some token ∧
    token.owner = owner
  nfts : ∀ key, key ≠ (contract, tokenId) →
    after.contracts.nfts deployment.api key = without.contracts.nfts deployment.api key
  forgotten : after.storage.outgoingClassTokenToChannel (classId, tokenId) = none
  outgoing : ∀ key, key ≠ (classId, tokenId) →
    after.storage.outgoingClassTokenToChannel key =
      without.storage.outgoingClassTokenToChannel key
  incoming : after.storage.incomingClassTokenToChannel =
    without.storage.incomingClassTokenToChannel
  metadata : after.storage.tokenMetadata = without.storage.tokenMetadata
  code : after.storage.cw721CodeId = without.storage.cw721CodeId
  proxy : after.storage.proxy = without.storage.proxy
  pauser : after.storage.pauser = without.storage.pauser
  paused : after.storage.paused = without.storage.paused
  classes : SameClasses contract after.storage without.storage
  registered : after.storage.classIdToNftContract classId = some contract

end Deployment

theorem Ledger.Twins.nfts_eq {api : Api} {shipment : Shipment} {left right : Ledger}
    (twins : Ledger.Twins api shipment left right) {key : Addr × TokenId}
    (different : key ≠ (shipment.contract, shipment.tokenId)) :
    left.nfts api key = right.nfts api key := by
  unfold Ledger.nfts
  by_cases own : key.1 = shipment.contract
  · rcases twins.here with ⟨collection, twin, found, there, same⟩
    rw [own, found, there]
    apply same.tokens
    intro token
    exact different (Prod.ext own token)
  · rw [twins.others key.1 own]

/-- The packet fails. -/
theorem World.Twins.undone {deployment : Deployment} {shipment : Shipment} {packet : IbcPacket}
    {left right : World Ledger} {owner : Addr} {failure : Chain.Label}
    (twins : World.Twins deployment shipment packet False left right)
    (departs : Departs deployment packet shipment.classId shipment.tokenId owner)
    (different : shipment.contract ≠ deployment.bridge)
    (escrowed : shipment.held.owner = deployment.bridge) (owned : shipment.kept.owner = owner)
    (fails : failure.Fails deployment.api packet) :
    deployment.Undone shipment.contract shipment.classId shipment.tokenId owner
      (deployment.step deployment.contracts left failure) right := by
  rcases departs.carried with ⟨data, decoded, class_, tokens, sender⟩
  have entry : left.storage.classIdToNftContract data.classId = some shipment.contract := by
    rw [twins.storage.collection, class_]
  rcases twins.ledger.here with ⟨collection, twin, found, there, same⟩
  have present : left.contracts.nfts deployment.api (shipment.contract, shipment.tokenId) =
      some shipment.held := Ledger.nfts_eq_some.mpr ⟨collection, found, same.held⟩
  rcases Ledger.exists_transferNft present escrowed departs.valid with ⟨ledger, called⟩
  rcases Ledger.call_transferNft called with ⟨info, token, -, -, -, -, became⟩
  have refunds : deployment.Refunds packet left _ :=
    ⟨data, shipment.contract, ledger, decoded, entry, sender ▸ departs.valid, by
      simp only [tokens, sender, Ledger.callAll, List.map_cons, List.map_nil, List.foldlM_cons,
        List.foldlM_nil, called]
      rfl, rfl⟩
  have foreign : ∀ other, deployment.api.packetData.fromBinary packet.data = .ok other →
      left.storage.classIdToNftContract other.classId ≠ some deployment.bridge := by
    intro other again
    rw [decoded] at again
    cases again
    rw [entry, ne_eq, Option.some.injEq]
    exact different
  rw [Deployment.step_of_refunds fails foreign twins.pending refunds]
  have cleared : ∀ key, key ≠ (shipment.classId, shipment.tokenId) →
      (left.storage.clearOutgoing data.classId data.tokenIds).outgoingClassTokenToChannel key =
        left.storage.outgoingClassTokenToChannel key := by
    intro key other
    apply StoreMap.foldl_remove_of_not_mem
    intro tokenId member own
    rw [tokens, List.mem_singleton] at member
    rw [member, class_] at own
    exact other own.symm
  constructor
  · refine ⟨⟨owner, [], token.tokenUri⟩, ?_, rfl⟩
    simp only [became.nfts]
    exact StoreMap.save_self _ _ _
  · exact ⟨shipment.kept, Ledger.nfts_eq_some.mpr ⟨twin, there, same.kept⟩, owned⟩
  · intro key other
    simp only [became.nfts, StoreMap.save_of_ne other]
    exact twins.ledger.nfts_eq other
  · apply StoreMap.foldl_remove_of_mem
    exact ⟨shipment.tokenId, by simp [tokens], by rw [class_]⟩
  · intro key other
    rw [← twins.storage.outgoing key other]
    exact cleared key other
  · exact twins.storage.incoming
  · exact twins.storage.metadata
  · exact twins.storage.code
  · exact twins.storage.proxy
  · exact twins.storage.pauser
  · exact twins.storage.paused
  · have unchanged : Apart shipment False
        (left.storage.clearOutgoing data.classId data.tokenIds) right.storage := by
      apply twins.storage.of_same
      · exact twins.storage.code
      · exact twins.storage.proxy
      · exact twins.storage.pauser
      · exact twins.storage.paused
      · exact twins.storage.incoming
      · exact twins.storage.metadata
      · intro key other
        rw [cleared key other, twins.storage.outgoing key other]
      all_goals rfl
    exact unchanged.classes
  · exact (twins.storage.collection _).mpr rfl

/-! ## Any run -/

/-- The registry is sound in every reachable state. -/
theorem Deployment.sound_of_events {deployment : Deployment} {contracts : Contracts Ledger}
    {msg : InstantiateMsg} {ledger : Ledger} {genesis : World Ledger}
    (conforms : Conforms deployment.contracts contracts)
    (instantiated : deployment.instantiateTx contracts msg ledger = .ok genesis)
    (events : List deployment.Event) :
    Sound deployment.toChain deployment.contracts msg.cw721BaseCodeId
      (events.foldl deployment.happen genesis) := by
  have start := Sound.instantiateTx (lawful conforms msg.cw721BaseCodeId) rfl instantiated
  apply run_invariant ?_ events (start.of_isContract conforms.isContract.symm)
  intro world event sound
  have step := (sound.of_isContract event.conforms.isContract).step
    (lawful event.conforms msg.cw721BaseCodeId) event.label
  exact step.1.of_isContract event.conforms.isContract.symm

/-- An owner sends an NFT, anything that is not about this NFT happens, and then the packet
fails.  The chain ends as it does without the transfer. -/
theorem failed_send_undone {deployment : Deployment} {contracts : Contracts Ledger}
    (conforms : Conforms deployment.contracts contracts) {msg : InstantiateMsg}
    {ledger : Ledger} {genesis : World Ledger}
    (instantiated : deployment.instantiateTx contracts msg ledger = .ok genesis)
    (earlier : List deployment.Event) {world sent : World Ledger}
    (reached : earlier.foldl deployment.happen genesis = world) {owner contract : Addr}
    {tokenId : TokenId} {token : TokenInfo} {request : Binary}
    (present : world.contracts.nfts deployment.api (contract, tokenId) = some token)
    (owned : token.owner = owner)
    (sending : deployment.step deployment.contracts world (.execute owner (.execute contract
      (.cw721 (.sendNft deployment.bridge.addr tokenId request)))) = sent)
    {packet : IbcPacket} (new : packet ∈ sent.commitments) (old : packet ∉ world.commitments)
    (between : List Chain.Label)
    (aside : ∀ label ∈ between, ¬label.About deployment.api contract
      (world.storage.classOf contract) tokenId)
    {failure : Chain.Label} (fails : failure.Fails deployment.api packet) :
    deployment.Undone contract (world.storage.classOf contract) tokenId owner
      (deployment.step deployment.contracts
        (between.foldl (deployment.step deployment.contracts) sent) failure)
      ((between.filterMap (Chain.Label.without packet.sequence)).foldl
        (deployment.step deployment.contracts) world) := by
  have sound := Deployment.sound_of_events conforms instantiated earlier
  rw [reached] at sound
  have executed : owner ≠ deployment.bridge ∧ deployment.Executed owner world
      (.execute contract (.cw721 (.sendNft deployment.bridge.addr tokenId request))) sent := by
    unfold Chain.step at sending
    split at sending
    next after done =>
      subst sending
      simp only [Chain.transaction] at done
      split at done
      next =>
        cases done
        exact absurd new old
      next account =>
        have outsider : owner ≠ deployment.bridge := fun self => account (.inl self)
        exact ⟨outsider, Deployment.executeTx_cases (.refl _) outsider done⟩
    next =>
      subst sending
      exact absurd new old
  cases executed.2 with
  | called different call => exact absurd new old
  | sent different call running noProxy sends =>
      rcases World.Twins.of_sends sound present call sends new old with ⟨departs, twins⟩
      have carries : Carries deployment.api packet (world.storage.classOf contract) tokenId := by
        rcases departs.carried with ⟨data, decoded, class_, tokens, -⟩
        exact ⟨data, decoded, class_, by simp [tokens]⟩
      exact (twins.run carries sound aside).undone departs different rfl owned fails

namespace Sample

/-- Alice sends another NFT of her collection over the same channel. -/
def sendPearl : Chain.Label :=
  .execute ⟨"alice"⟩ (.execute ⟨"contract0"⟩
    (.cw721 (.sendNft "bridge" ⟨"pearl"⟩ (request "bob" "channel-0"))))

/-- Alice has two NFTs. -/
def pair : List Chain.Label :=
  minted ++ [.execute ⟨"alice"⟩ (.execute ⟨"contract0"⟩ (.cw721 (.mint ⟨"pearl"⟩ "alice" none)))]

/-- The packet with the other NFT. -/
def pearlPacket : IbcPacket where
  data := api.packetData.toBinary
    ⟨⟨"contract0"⟩, none, none, [⟨"pearl"⟩], none, none, "alice", "bob", none⟩
  src := ⟨"wasm.bridge", "channel-0"⟩
  dest := ⟨"wasm.east", "channel-7"⟩
  sequence := 1
  timeout := ⟨none, some 5⟩

theorem pearl_aside (label : Chain.Label) (listed : label ∈ [sendPearl, .timeout pearlPacket]) :
    ¬label.About chain.api ⟨"contract0"⟩ ⟨"contract0"⟩ ⟨"gem"⟩ := by
  simp only [List.mem_cons, List.not_mem_nil, or_false] at listed
  rcases listed with rfl | rfl
  · simp [sendPearl, Chain.Label.About, Cw721ExecuteMsg.names]
  · intro about
    have carried : Carries api pearlPacket ⟨"contract0"⟩ ⟨"gem"⟩ := about
    rcases carried with ⟨data, decoded, -, member⟩
    simp only [pearlPacket, Codec.from_to, Except.ok.injEq] at decoded
    subst decoded
    simp at member

end Sample

/-- The other NFT times out on its own, under another number where the first one is not sent. -/
theorem failed_send_undone_of_sample :
    [Sample.sendPearl, .timeout Sample.pearlPacket].filterMap (Chain.Label.without 0) =
        [Sample.sendPearl, .timeout { Sample.pearlPacket with sequence := 0 }] ∧
      Sample.chain.Undone ⟨"contract0"⟩ ⟨"contract0"⟩ ⟨"gem"⟩ ⟨"alice"⟩
        (Sample.run (Sample.pair ++ [Sample.sendGem "alice" "bob" "channel-0", Sample.sendPearl,
          .timeout Sample.pearlPacket, .timeout Sample.firstPacket]))
        (Sample.run (Sample.pair ++ [Sample.sendPearl,
          .timeout { Sample.pearlPacket with sequence := 0 }])) := by
  have observed :
      (Sample.run Sample.pair).contracts.nfts Sample.api (⟨"contract0"⟩, ⟨"gem"⟩) =
          some ⟨⟨"alice"⟩, [], none⟩ ∧
        (Sample.run Sample.pair).storage.classOf ⟨"contract0"⟩ = ⟨"contract0"⟩ ∧
        (Sample.run (Sample.pair ++ [Sample.sendGem "alice" "bob" "channel-0"])).commitments =
          [Sample.firstPacket] ∧
        (Sample.run Sample.pair).commitments = [] := by
    decide +kernel
  rcases observed with ⟨present, class_, sent, unsent⟩
  have new : Sample.firstPacket ∈
      (Sample.run (Sample.pair ++ [Sample.sendGem "alice" "bob" "channel-0"])).commitments := by
    simp [sent]
  have old : Sample.firstPacket ∉ (Sample.run Sample.pair).commitments := by
    simp [unsent]
  have between : [Sample.sendPearl, .timeout Sample.pearlPacket].filterMap
      (Chain.Label.without Sample.firstPacket.sequence) =
        [Sample.sendPearl, .timeout { Sample.pearlPacket with sequence := 0 }] := rfl
  have reached : (Sample.pair.map (.of Sample.chain)).foldl Sample.chain.happen Sample.genesis =
      Sample.run Sample.pair := Deployment.foldl_happen _ _ _
  have sending : Sample.chain.step Sample.chain.contracts (Sample.run Sample.pair)
      (Sample.sendGem "alice" "bob" "channel-0") =
        Sample.run (Sample.pair ++ [Sample.sendGem "alice" "bob" "channel-0"]) := by
    simp only [Sample.run, List.foldl_append, List.foldl_cons, List.foldl_nil]
  have aside : ∀ label ∈ [Sample.sendPearl, .timeout Sample.pearlPacket],
      ¬label.About Sample.chain.api ⟨"contract0"⟩
        ((Sample.run Sample.pair).storage.classOf ⟨"contract0"⟩) ⟨"gem"⟩ := by
    rw [class_]
    exact Sample.pearl_aside
  have fails : (Chain.Label.timeout Sample.firstPacket).Fails Sample.chain.api
      Sample.firstPacket := .inl rfl
  refine ⟨between, ?_⟩
  have undone := failed_send_undone (.refl _) Sample.instantiateTx_genesis
    (Sample.pair.map (.of Sample.chain)) reached present rfl sending new old _ aside fails
  rw [class_, between] at undone
  simp only [Sample.run, List.foldl_append, List.foldl_cons, List.foldl_nil] at undone ⊢
  exact undone

end Ics721
