import Ics721.Network.Orderly

/-!
# Packets between bridges

Bridges send one token with every packet.  A packet of a bridge comes from one of its
channels and goes to the other end, and no packet is sent twice.
-/

namespace Ics721

open Library

/-! ## One token -/

section Single

variable {packet : IbcPacket} {data : NonFungibleTokenPacketData} {tokenId : TokenId}

theorem incoming_single (valid : data.validate = .ok ()) (single : data.tokenIds = [tokenId]) :
    ∃ uri bytes, data.incoming = [((tokenId, uri), bytes)] := by
  have ids := data.map_incoming valid
  rw [single] at ids
  cases same : data.incoming with
  | nil =>
      rw [same] at ids
      cases ids
  | cons item rest =>
      rw [same] at ids
      simp only [List.map_cons, List.cons.injEq, List.map_eq_nil_iff] at ids
      rcases item with ⟨⟨id, uri⟩, bytes⟩
      rcases ids with ⟨rfl, rfl⟩
      exact ⟨uri, bytes, rfl⟩

theorem tryPopSourcePrefix_eq_some {source : IbcEndpoint} {classId localClass : ClassId} :
    tryPopSourcePrefix source classId.id = some localClass.id ↔
      classId = voucherClassId source localClass := by
  unfold tryPopSourcePrefix
  rw [stripPrefix_eq_some]
  constructor
  · exact congrArg ClassId.mk
  · exact congrArg ClassId.id

/-- The token of a packet is redeemed or becomes a voucher. -/
theorem selectActions_single (packet : IbcPacket) (valid : data.validate = .ok ())
    (single : data.tokenIds = [tokenId]) (storage : Storage) :
    (∃ localClass, data.classId = voucherClassId packet.src localClass ∧
      storage.outgoingClassTokenToChannel (localClass, tokenId) = some packet.dest.channelId ∧
      selectActions packet data storage =
        ({ storage with
            outgoingClassTokenToChannel :=
              storage.outgoingClassTokenToChannel.remove (localClass, tokenId) },
          [.redemption localClass tokenId])) ∨
    ((∀ localClass, data.classId = voucherClassId packet.src localClass →
        storage.outgoingClassTokenToChannel (localClass, tokenId) ≠
          some packet.dest.channelId) ∧
      ∃ uri bytes, selectActions packet data storage =
        ({ storage with
            incomingClassTokenToChannel := storage.incomingClassTokenToChannel.save
              (voucherClassId packet.dest data.classId, tokenId) packet.dest.channelId },
          [.creation (voucherClassId packet.dest data.classId) ⟨tokenId, uri, bytes⟩])) := by
  rcases incoming_single valid single with ⟨uri, bytes, incoming⟩
  rw [selectActions_eq, incoming]
  simp only [selectFrom]
  rcases chooseAction_cases packet.dest data.classId
      (tryPopSourcePrefix packet.src data.classId.id) storage ((tokenId, uri), bytes) with
    ⟨localClass, popped, sent, chosen⟩ | ⟨staying, chosen⟩
  · left
    refine ⟨localClass, tryPopSourcePrefix_eq_some.mp popped, sent, ?_⟩
    rw [chosen]
  · right
    constructor
    · intro localClass returns
      exact staying localClass (tryPopSourcePrefix_eq_some.mpr returns)
    · refine ⟨uri, bytes, ?_⟩
      rw [chosen]

theorem localClass_eq {localClass : ClassId}
    (returns : data.classId = voucherClassId packet.src localClass) :
    Ics721.localClass packet data = localClass := by
  unfold Ics721.localClass
  rw [tryPopSourcePrefix_eq_some.mpr returns]
  rfl

end Single

/-! ## Packets of a bridge -/

namespace Deployment

variable {deployment : Deployment} {codeId : Nat} {world after : World Ledger}

/-- A packet of the bridge, with the data it carries. -/
structure Posted (deployment : Deployment) (packet : IbcPacket)
    (data : NonFungibleTokenPacketData) (tokenId : TokenId) : Prop where
  port : packet.src.portId = deployment.portId
  dest : deployment.counterparty packet.src.channelId = some packet.dest
  decoded : deployment.api.packetData.fromBinary packet.data = .ok data
  single : data.tokenIds = [tokenId]

theorem Posted.carries_iff {packet : IbcPacket} {data : NonFungibleTokenPacketData}
    {tokenId : TokenId} (posted : deployment.Posted packet data tokenId) {classId : ClassId}
    {other : TokenId} :
    Carries deployment.api packet classId other ↔ classId = data.classId ∧ other = tokenId := by
  unfold Carries
  rw [posted.decoded]
  simp [posted.single, eq_comm]

/-- An account sends an NFT away with a packet. -/
structure Sent (deployment : Deployment) (world after : World Ledger) (packet : IbcPacket)
    (data : NonFungibleTokenPacketData) (tokenId : TokenId) : Prop
    extends deployment.Posted packet data tokenId where
  free : deployment.holder world data.classId tokenId ≠ some .escrow
  known : '/' ∈ data.classId.id.toList →
    deployment.holder world data.classId tokenId ≠ none
  locked : deployment.holder after data.classId tokenId = some .escrow
  outgoing : after.storage.outgoingClassTokenToChannel =
    world.storage.outgoingClassTokenToChannel.save (data.classId, tokenId) packet.src.channelId
  incoming : after.storage.incomingClassTokenToChannel =
    world.storage.incomingClassTokenToChannel
  commitments : after.commitments = world.commitments ++ [packet]
  sequence : packet.sequence = world.nextSequence
  nextSequence : after.nextSequence = world.nextSequence + 1

/-- The packet of a request. -/
theorem Orderly.sent_packet {sender contract : Addr} {tokenId : TokenId} {request : Binary}
    {ledger : Ledger} {wish : IbcOutgoingMsg} {storage : Storage} {cls : Class}
    {token : TokenInfo} {dest : IbcEndpoint} (orderly : deployment.Orderly codeId world)
    (registry : ∀ classId : ClassId, '/' ∈ classId.id.toList →
      storage.classIdToNftContract classId = world.storage.classIdToNftContract classId)
    (extended : Extends world.storage storage) (account : sender ≠ deployment.bridge)
    (call : world.contracts.call deployment.api sender contract
      (.sendNft deployment.bridge.addr tokenId request) = .ok ledger)
    (selected : classForContract world.storage contract = .ok (storage, cls))
    (opened : deployment.counterparty wish.channelId = some dest)
    (same : after = { world with
      storage := { storage with
        outgoingClassTokenToChannel := storage.outgoingClassTokenToChannel.save
          (cls.id, tokenId) wish.channelId }
      contracts := ledger
      commitments := world.commitments ++ [deployment.outgoingPacket
        { world with contracts := ledger } storage cls tokenId token.tokenUri sender.addr wish
        dest]
      nextSequence := world.nextSequence + 1
      sends := world.sends ++ [⟨contract, tokenId, sender.addr, request⟩] }) :
    deployment.Sent world after
      (deployment.outgoingPacket { world with contracts := ledger } storage cls tokenId
        token.tokenUri sender.addr wish dest)
      (outgoingPacketData storage cls tokenId token.tokenUri ⟨sender.addr⟩ wish) tokenId := by
  subst same
  have found := orderly.sound.registry.classFound selected
  rw [Ledger.call_sendNft] at call
  rcases Ledger.call_transferNft call with
    ⟨info, before, known, presentBefore, allowed, -, became⟩
  constructor
  · constructor
    · rfl
    · exact opened
    · exact Codec.from_to _ _
    · rfl
  · intro escrow
    rcases holder_eq_escrow.mp escrow with ⟨earlier, held, registered, presentHeld, owned⟩
    have same : contract = earlier :=
      Option.some.inj (found.registered.symm.trans (extended.contract_kept registered))
    subst same
    rw [presentBefore] at presentHeld
    cases presentHeld
    exact account (orderly.custody.of_canSend known presentBefore owned allowed)
  · intro voucher absent
    have registered : world.storage.classIdToNftContract cls.id = some contract :=
      (registry cls.id voucher).symm.trans found.registered
    rw [holder_eq_none.mp absent contract registered] at presentBefore
    cases presentBefore
  · refine holder_eq_escrow.mpr ⟨contract, ⟨⟨deployment.bridge.addr⟩, [], before.tokenUri⟩,
      found.registered, ?_, rfl⟩
    simp only [became.nfts, StoreMap.save_self]
  · simp only [outgoingPacketData, outgoingPacket, found.outgoing]
  · exact found.incoming
  · rfl
  · rfl
  · rfl

theorem Orderly.sent {sender contract : Addr} {tokenId : TokenId} {request : Binary}
    {ledger : Ledger} (orderly : deployment.Orderly codeId world)
    (registry : ∀ classId : ClassId, '/' ∈ classId.id.toList →
      after.storage.classIdToNftContract classId = world.storage.classIdToNftContract classId)
    (extended : Extends world.storage after.storage) (account : sender ≠ deployment.bridge)
    (call : world.contracts.call deployment.api sender contract
      (.sendNft deployment.bridge.addr tokenId request) = .ok ledger)
    (sends : deployment.Sends ⟨contract, tokenId, sender.addr, request⟩
      { world with contracts := ledger } after) :
    ∃ packet data, deployment.Sent world after packet data tokenId := by
  rcases sends with ⟨wish, storage, cls, token, dest, -, -, selected, -, opened, same⟩
  rw [same] at registry extended
  have unregistered : ∀ classId : ClassId, '/' ∈ classId.id.toList →
      storage.classIdToNftContract classId = world.storage.classIdToNftContract classId :=
    registry
  have kept : Extends world.storage storage := ⟨extended.contract_kept, extended.class_kept⟩
  exact ⟨_, _, orderly.sent_packet unregistered kept account call selected opened same⟩

/-- A step settles packets or sends one. -/
theorem Orderly.mailed {label : Chain.Label} (orderly : deployment.Orderly codeId world)
    (extended : Extends world.storage after.storage)
    (stepped : deployment.Stepped world label after) :
    (after.commitments.Sublist world.commitments ∧
        after.nextSequence = world.nextSequence) ∨
      ∃ packet data tokenId, deployment.Sent world after packet data tokenId := by
  cases stepped with
  | stayed => exact .inl ⟨.refl _, rfl⟩
  | executed account noContract executed =>
      have registry : ∀ classId : ClassId, '/' ∈ classId.id.toList →
          after.storage.classIdToNftContract classId =
            world.storage.classIdToNftContract classId := by
        intro classId voucher
        exact executed.registry orderly.toHeld orderly.noProxy noContract voucher
      cases executed with
      | called => exact .inl ⟨.refl _, rfl⟩
      | instantiated => exact .inl ⟨.refl _, rfl⟩
      | @sent _ tokenId _ _ _ _ call _ _ sends =>
          rcases orderly.sent registry extended account call sends with ⟨packet, data, sent⟩
          exact .inr ⟨packet, data, tokenId, sent⟩
      | forwarded named _ allowed sends =>
          exact absurd sends (Executed.no_forward noContract orderly.noProxy named allowed)
      | paused => exact .inl ⟨.refl _, rfl⟩
  | received _ _ received =>
      rw [received.same]
      exact .inl ⟨.refl _, rfl⟩
  | failed => exact .inl ⟨.refl _, rfl⟩
  | refunded _ _ refunds =>
      rcases refunds with ⟨_, _, _, -, -, -, -, rfl⟩
      exact .inl ⟨List.erase_sublist, rfl⟩
  | burned _ _ burns =>
      rcases burns with ⟨_, _, _, _, -, -, -, -, rfl⟩
      exact .inl ⟨List.erase_sublist, rfl⟩
  | migrated => exact .inl ⟨.refl _, rfl⟩

end Deployment

/-! ## Packets in flight -/

namespace Network

variable {ι : Type} (network : Network ι)

/-- What every chain of a network and its packets look like. -/
structure Linked (state : State ι) : Prop where
  orderly : ∀ chain, ∃ codeId,
    (network.deployment chain).Orderly codeId (state.worlds chain)
  posted : ∀ chain, ∀ packet ∈ (state.worlds chain).commitments,
    ∃ data tokenId, (network.deployment chain).Posted packet data tokenId
  numbered : ∀ chain, ∀ packet ∈ (state.worlds chain).commitments,
    packet.sequence < (state.worlds chain).nextSequence
  distinct : ∀ chain, (state.worlds chain).commitments.Nodup
  received : ∀ chain packet, state.acks chain packet ≠ none →
    packet.sequence < (state.worlds chain).nextSequence

/-- Acknowledgements mean the same on all chains. -/
theorem tryGetAckError_eq (network : Network ι) (here there : ι) :
    tryGetAckError (network.deployment here).api =
      tryGetAckError (network.deployment there).api := by
  funext ack
  simp only [tryGetAckError, network.speaks]

end Network

namespace Deployment.Posted

variable {ι : Type} {network : Network ι} {here : ι} {packet : IbcPacket}
variable {data : NonFungibleTokenPacketData} {tokenId : TokenId}

/-- All chains of a network read a packet alike. -/
theorem decodes (posted : (network.deployment here).Posted packet data tokenId) (chain : ι) :
    (network.deployment chain).api.packetData.fromBinary packet.data = .ok data := by
  have decoded := posted.decoded
  rw [network.speaks] at decoded ⊢
  exact decoded

theorem cls (posted : (network.deployment here).Posted packet data tokenId) :
    network.vouchers.cls packet = data.classId := by
  have decoded := posted.decoded
  rw [network.speaks] at decoded
  simp [Network.vouchers, Network.payload, decoded, Except.toOption]

theorem token (posted : (network.deployment here).Posted packet data tokenId) :
    network.vouchers.token packet = tokenId := by
  have decoded := posted.decoded
  rw [network.speaks] at decoded
  simp [Network.vouchers, Network.payload, decoded, posted.single, Except.toOption]

/-- The channel of a packet and where it goes. -/
theorem opened (posted : (network.deployment here).Posted packet data tokenId) :
    ∃ there far, network.peer here packet.src.channelId = some (there, far) ∧
      packet.dest = ⟨(network.deployment there).portId, far⟩ := by
  have dest := posted.dest
  rw [network.counterparty] at dest
  rcases Option.map_eq_some_iff.mp dest with ⟨⟨there, far⟩, opened, same⟩
  exact ⟨there, far, opened, same.symm⟩

/-- The classes of the packet, as the two ends see them. -/
theorem voucher_src (posted : (network.deployment here).Posted packet data tokenId)
    (classId : ClassId) :
    network.vouchers.voucher here (network.vouchers.channel packet) classId =
      voucherClassId packet.src classId := by
  simp only [Network.vouchers, ← posted.port]

theorem voucher_dest {there : ι} {far : String}
    (dest : packet.dest = ⟨(network.deployment there).portId, far⟩)
    (classId : ClassId) :
    network.vouchers.voucher there far classId = voucherClassId packet.dest classId := by
  rw [dest]
  rfl

end Deployment.Posted

end Ics721
