import Ics721.Network.Progress
import Ics721.Receive.Attributes
import Ics721.Receive.Partition
import Ics721.Receive.Truth
import Ics721.Chain.Sample

/-!
# Which packets are accepted

A packet may name any number of NFTs, some to be redeemed and some to be created, and is
accepted as a whole or not at all.  Whether it is can be told from the state in which it
arrives, NFT by NFT.  Packets whose texts the host would not write down are left out.
-/

namespace Ics721

open Library

/-! ## Many calls on one collection -/

namespace Ledger

variable {api : Api} {ledger after : Ledger} {sender contract : Addr} {tokenId : TokenId}
variable {token : TokenInfo} {info : CollectionInfo}

/-- Whoever may send an NFT can transfer it. -/
theorem exists_transfer {recipient : String} (known : ledger.infoAt api contract = some info)
    (present : ledger.nfts api (contract, tokenId) = some token)
    (allowed : info.canSend sender token = true) (valid : api.addrValid recipient = true) :
    ∃ after, ledger.call api sender contract (.transferNft recipient tokenId) = .ok after := by
  rcases infoAt_eq_some.mp known with ⟨collection, found, rfl⟩
  rcases nfts_eq_some.mp present with ⟨other, foundOther, held⟩
  rw [found] at foundOther
  cases foundOther
  exact ⟨_, call_eq_ok.mpr ⟨collection, _, found,
    Collection.transferNft_eq_ok.mpr ⟨token, held, allowed, valid, rfl⟩, rfl⟩⟩

/-- Different NFTs are transferred one after the other. -/
theorem exists_transferAll {recipient : String} {tokenIds : List TokenId}
    (distinct : tokenIds.Nodup) (valid : api.addrValid recipient = true)
    (known : tokenIds ≠ [] → ledger.infoAt api contract = some info)
    (each : ∀ tokenId ∈ tokenIds, ∃ token,
      ledger.nfts api (contract, tokenId) = some token ∧ info.canSend sender token = true) :
    ∃ after, ledger.callAll api sender contract
      (tokenIds.map fun tokenId => .transferNft recipient tokenId) = .ok after := by
  induction tokenIds generalizing ledger with
  | nil => exact ⟨ledger, rfl⟩
  | cons tokenId tokenIds ih =>
      rcases each tokenId List.mem_cons_self with ⟨token, present, allowed⟩
      have here := known (List.cons_ne_nil _ _)
      rcases exists_transfer here present allowed valid with ⟨middle, called⟩
      rcases call_transferNft called with ⟨_, _, -, -, -, -, became⟩
      have rest : ∃ after, middle.callAll api sender contract
          (tokenIds.map fun tokenId => .transferNft recipient tokenId) = .ok after := by
        apply ih distinct.of_cons
        · intro _
          rw [became.infos]
          exact here
        · intro other member
          rcases each other (List.mem_cons_of_mem _ member) with ⟨found, presentOther, may⟩
          refine ⟨found, ?_, may⟩
          rw [became.nfts, StoreMap.save_of_ne]
          · exact presentOther
          · intro same
            cases same
            exact (List.nodup_cons.mp distinct).1 member
      rcases rest with ⟨after, remaining⟩
      refine ⟨after, ?_⟩
      simp only [callAll, List.map_cons, List.foldlM_cons, bind_eq_ok]
      exact ⟨middle, called, remaining⟩

/-- Different unused NFTs are minted one after the other. -/
theorem exists_mintAll {owner : String} {tokens : List Token}
    (distinct : (tokens.map Token.id).Nodup) (valid : api.addrValid owner = true)
    (known : ledger.infoAt api contract = some info) (minter : info.minter = sender)
    (unused : ∀ token ∈ tokens, ledger.nfts api (contract, token.id) = none) :
    ∃ after, ledger.callAll api sender contract
      (tokens.map fun token => .mint token.id owner token.uri) = .ok after := by
  induction tokens generalizing ledger with
  | nil => exact ⟨ledger, rfl⟩
  | cons token tokens ih =>
      rw [List.map_cons, List.nodup_cons] at distinct
      have minted : ∃ middle,
          ledger.call api sender contract (.mint token.id owner token.uri) = .ok middle :=
        exists_mint known minter (unused token List.mem_cons_self) valid
      rcases minted with ⟨middle, called⟩
      rcases call_mint called with ⟨_, -, -, -, -, became⟩
      have rest : ∃ after, middle.callAll api sender contract
          (tokens.map fun token => .mint token.id owner token.uri) = .ok after := by
        apply ih distinct.2
        · rw [became.infos]
          exact known
        · intro other member
          rw [became.nfts, StoreMap.save_of_ne]
          · exact unused other (List.mem_cons_of_mem _ member)
          · intro same
            have equal : other.id = token.id := congrArg Prod.snd same
            apply distinct.1
            rw [← equal]
            exact List.mem_map_of_mem member
      rcases rest with ⟨after, remaining⟩
      refine ⟨after, ?_⟩
      simp only [callAll, List.map_cons, List.foldlM_cons, bind_eq_ok]
      exact ⟨middle, called, remaining⟩

/-- No NFT is minted twice. -/
theorem nodup_of_mintAll {owner : String} {tokens : List Token}
    (called : ledger.callAll api sender contract
      (tokens.map fun token => .mint token.id owner token.uri) = .ok after) :
    (tokens.map Token.id).Nodup := by
  induction tokens generalizing ledger with
  | nil => exact List.nodup_nil
  | cons token tokens ih =>
      simp only [callAll, List.map_cons, List.foldlM_cons, bind_eq_ok] at called
      rcases called with ⟨middle, first, rest⟩
      rw [List.map_cons, List.nodup_cons]
      refine ⟨?_, ih rest⟩
      intro again
      rcases List.mem_map.mp again with ⟨other, member, same⟩
      rcases call_mint first with ⟨_, -, -, -, -, became⟩
      have unused := ((minted_of_callAll rest).minted other member).1
      rw [same, became.nfts, StoreMap.save_self] at unused
      cases unused

end Ledger

/-- An NFT is redeemed once: its outgoing entry is gone then. -/
theorem nodup_redeemedIds {dest : IbcEndpoint} {classId : ClassId} {localClassId : Option String}
    {storage : Storage} {items : List Incoming} :
    (redeemedIds (selectFrom dest classId localClassId storage items).2).Nodup := by
  induction items generalizing storage with
  | nil => exact List.nodup_nil
  | cons item items ih =>
      simp only [selectFrom]
      rcases chooseAction_cases dest classId localClassId storage item with
        ⟨localClass, popped, sent, chosen⟩ | ⟨staying, chosen⟩
      · rw [chosen]
        change (item.1.1 :: redeemedIds _).Nodup
        rw [List.nodup_cons]
        refine ⟨?_, ih⟩
        intro again
        rcases List.mem_filterMap.mp again with ⟨action, member, redeemed⟩
        cases action with
        | creation => cases redeemed
        | redemption otherClass tokenId =>
            cases redeemed
            rcases redemption_selectFrom member with ⟨otherPopped, present, -⟩
            rw [popped] at otherPopped
            have same : localClass = otherClass := by
              cases localClass
              cases otherClass
              exact congrArg ClassId.mk (Option.some.inj otherPopped)
            subst same
            simp only [StoreMap.remove_self] at present
            cases present
      · rw [chosen]
        exact ih

/-- The length of the key under which the bridge stores something about an NFT: a name of one
byte and the class ID, both after two bytes for their lengths, and the token ID. -/
def keyLength (classId : ClassId) (tokenId : TokenId) : Nat :=
  2 + 1 + 2 + classId.id.utf8ByteSize + tokenId.id.utf8ByteSize

/-- What the host does not refuse to write down: no blank text becomes an attribute, of the
bridge's response or of the collection's, and no key and no value is too long to be stored. -/
structure Ordinary (packet : IbcPacket) (data : NonFungibleTokenPacketData) : Prop
    extends Readable packet data where
  tokenIds : ∀ tokenId ∈ data.tokenIds, ¬Blank tokenId.id
  keys : ∀ tokenId ∈ data.tokenIds,
    keyLength (voucherClassId packet.dest data.classId) tokenId ≤ 60000
  values : packet.data.length ≤ 60000

namespace Deployment

variable {deployment : Deployment} {codeId : Nat} {world after : World Ledger}
variable {packet : IbcPacket} {data : NonFungibleTokenPacketData}

/-- The bridge may send an NFT of a class away. -/
def Movable (deployment : Deployment) (world : World Ledger) (classId : ClassId)
    (tokenId : TokenId) : Prop :=
  ∃ contract info token, world.storage.classIdToNftContract classId = some contract ∧
    world.contracts.infoAt deployment.api contract = some info ∧
    world.contracts.nfts deployment.api (contract, tokenId) = some token ∧
    info.canSend deployment.bridge token = true

/-- What has to hold for a packet to be accepted: the bridge is not paused, the packet is well
formed, ordinary and for a valid address, what it redeems the bridge may send, and what it
creates is new. -/
structure Welcomes (deployment : Deployment) (world : World Ledger) (packet : IbcPacket)
    (data : NonFungibleTokenPacketData) : Prop where
  ordinary : Ordinary packet data
  running : world.storage.paused = false
  decoded : deployment.api.packetData.fromBinary packet.data = .ok data
  valid : data.validate = .ok ()
  addressed : deployment.api.addrValid data.receiver = true
  redeemable : ∀ tokenId ∈ redeemedIds (selectActions packet data world.storage).2,
    deployment.Movable world (localClass packet data) tokenId
  distinct : ((createdTokens (selectActions packet data world.storage).2).map Token.id).Nodup
  unused : ∀ token ∈ createdTokens (selectActions packet data world.storage).2,
    deployment.holder world (voucherClassId packet.dest data.classId) token.id = none

/-- What is accepted was welcome. -/
theorem Held.welcomes (held : deployment.Held codeId world)
    (ordinary : ∀ data, deployment.api.packetData.fromBinary packet.data = .ok data →
      Ordinary packet data)
    (received : deployment.receiveTx deployment.contracts world packet =
      .ok (after, ackSuccess deployment.api)) :
    ∃ data, deployment.Welcomes world packet data := by
  rcases receiveTx_cases (.refl _) held.foreign received with
    ⟨error, -, -, isFail⟩ | ⟨data, receiver, checked, ⟨text, isFail, -⟩ | ⟨-, applies⟩⟩
  · exact absurd isFail (ackSuccess_ne_ackFail _ _)
  · exact absurd isFail (ackSuccess_ne_ackFail _ _)
  · rcases checkIbcPacket_eq_ok.mp checked with ⟨running, decoded, valid, addressed, rfl⟩
    have done := received_of_applies applies
    refine ⟨data, ordinary data decoded, running, decoded, valid, addressed, ?_, ?_, ?_⟩
    · intro tokenId redeemed
      rcases done.redeemed tokenId redeemed with
        ⟨contract, info, token, registered, known, present, allowed, -⟩
      exact ⟨contract, info, token, registered, known, present, allowed⟩
    · rcases (applies_iff (uniform_selectActions packet data world.storage)).mp applies with
        ⟨middle, -, ⟨nothing, -⟩ | ⟨-, creates⟩⟩
      · rw [nothing]
        exact List.nodup_nil
      · rcases creates with ⟨contract, opened, ledger, -, called, -⟩
        exact Ledger.nodup_of_mintAll called
    · intro token created
      rcases done.created token created with ⟨contract, _, known, -, -, unused, -⟩
      rw [holder_eq_none]
      intro earlier registered
      have same := done.contract_kept registered
      rw [known] at same
      cases same
      exact unused

/-- The redemptions of a packet went through: nothing but the owners of NFTs changed. -/
structure AfterRedemptions (deployment : Deployment) (world : World Ledger) (packet : IbcPacket)
    (data : NonFungibleTokenPacketData) (middle : World Ledger) : Prop where
  redeemed : (redeemedIds (selectActions packet data world.storage).2 = [] ∧
      middle = noted world packet data) ∨
    (redeemedIds (selectActions packet data world.storage).2 ≠ [] ∧
      deployment.Redeems ⟨data.receiver⟩
        ⟨⟨localClass packet data, data.classUri, data.classData⟩,
          redeemedIds (selectActions packet data world.storage).2⟩
        (noted world packet data) middle)
  registry : middle.storage.classIdToNftContract = world.storage.classIdToNftContract
  infos : middle.contracts.infoAt deployment.api = world.contracts.infoAt deployment.api
  instances : middle.contracts.instances = world.contracts.instances
  absent : ∀ key, world.contracts.nfts deployment.api key = none →
    middle.contracts.nfts deployment.api key = none

theorem Welcomes.exists_redeemed (welcomes : deployment.Welcomes world packet data) :
    ∃ middle, deployment.AfterRedemptions world packet data middle := by
  have folded := sameButTransit_selectFrom packet.dest data.classId
    (tryPopSourcePrefix packet.src data.classId.id) world.storage data.incoming
  rw [← selectActions_eq] at folded
  have registry : (noted world packet data).storage.classIdToNftContract =
      world.storage.classIdToNftContract := folded.contracts
  by_cases nothing : redeemedIds (selectActions packet data world.storage).2 = []
  · exact ⟨_, .inl ⟨nothing, rfl⟩, registry, rfl, rfl, fun _ => id⟩
  · rcases List.exists_mem_of_ne_nil _ nothing with ⟨first, member⟩
    rcases welcomes.redeemable first member with ⟨contract, info, _, registered, known, -, -⟩
    have each : ∀ tokenId ∈ redeemedIds (selectActions packet data world.storage).2,
        ∃ token, world.contracts.nfts deployment.api (contract, tokenId) = some token ∧
          info.canSend deployment.bridge token = true := by
      intro tokenId redeemed
      rcases welcomes.redeemable tokenId redeemed with
        ⟨other, otherInfo, token, otherRegistered, otherKnown, present, allowed⟩
      rw [registered] at otherRegistered
      cases otherRegistered
      rw [known] at otherKnown
      cases otherKnown
      exact ⟨token, present, allowed⟩
    have once : (redeemedIds (selectActions packet data world.storage).2).Nodup := by
      rw [selectActions_eq]
      exact nodup_redeemedIds
    rcases Ledger.exists_transferAll once welcomes.addressed (fun _ => known) each with
      ⟨ledger, called⟩
    have moves := Ledger.moved_of_callAll called
    rw [← registry] at registered
    refine ⟨_, .inr ⟨nothing, contract, ledger, registered, called, rfl⟩, registry, moves.infos,
      moves.instances, ?_⟩
    intro key free
    by_cases touched : key.1 = contract ∧
        key.2 ∈ redeemedIds (selectActions packet data world.storage).2
    · rcases touched with ⟨rfl, redeemed⟩
      rcases each key.2 redeemed with ⟨token, present, -⟩
      rw [free] at present
      cases present
    · exact (moves.kept key fun same redeemed => touched ⟨same, redeemed⟩).trans free

/-- After the redemptions what is new can be created, in a collection that is known or new. -/
theorem Welcomes.exists_created (welcomes : deployment.Welcomes world packet data)
    (orderly : deployment.Orderly codeId world) {middle : World Ledger}
    (redeemed : deployment.AfterRedemptions world packet data middle) :
    ∃ last, deployment.Creates ⟨data.receiver⟩
      ⟨⟨voucherClassId packet.dest data.classId, data.classUri, data.classData⟩,
        createdTokens (selectActions packet data world.storage).2⟩ middle last := by
  let recorded : World Ledger := { middle with
    storage := middle.storage.saveClass
      ⟨voucherClassId packet.dest data.classId, data.classUri, data.classData⟩ }
  have registry : recorded.storage.classIdToNftContract = world.storage.classIdToNftContract :=
    redeemed.registry
  have minter : ∀ contract, recorded.storage.classIdToNftContract
        (voucherClassId packet.dest data.classId) = some contract →
      ∃ info, recorded.contracts.infoAt deployment.api contract = some info ∧
        info.minter = deployment.bridge := by
    intro contract registered
    rw [registry] at registered
    rcases orderly.issues _ _ registered (slash_mem_voucherClassId _ _) with
      ⟨info, known, isMinter⟩
    exact ⟨info, (congrFun redeemed.infos contract).trans known, isMinter⟩
  have free : recorded.contracts.infoAt deployment.api
      (deployment.newAddress recorded.contracts.instances) = none := by
    change middle.contracts.infoAt deployment.api
      (deployment.newAddress middle.contracts.instances) = none
    rw [redeemed.infos, redeemed.instances]
    exact orderly.room _ (Nat.le_refl _)
  rcases opens_of_minter recorded minter free with
    ⟨contract, opened, info, opens, found, isMinter, allFree⟩
  have each : ∀ token ∈ createdTokens (selectActions packet data world.storage).2,
      opened.contracts.nfts deployment.api (contract, token.id) = none := by
    intro token created
    apply allFree
    rw [holder_eq_none]
    intro earlier registered
    rw [registry] at registered
    exact redeemed.absent _ (holder_eq_none.mp (welcomes.unused token created) earlier registered)
  rcases Ledger.exists_mintAll welcomes.distinct welcomes.addressed found isMinter each with
    ⟨ledger, called⟩
  exact ⟨_, contract, opened, ledger, opens, called, rfl⟩

/-- What is welcome is accepted. -/
theorem Welcomes.exists_accepted (welcomes : deployment.Welcomes world packet data)
    (orderly : deployment.Orderly codeId world) (deep : 3 ≤ deployment.depth) :
    ∃ after, deployment.receiveTx deployment.contracts world packet =
      .ok (after, ackSuccess deployment.api) := by
  have checked : checkIbcPacket deployment.api world.storage packet =
      .ok (data, ⟨data.receiver⟩) :=
    checkIbcPacket_eq_ok.mpr ⟨welcomes.running, welcomes.decoded, welcomes.valid,
      welcomes.addressed, rfl⟩
  rcases welcomes.exists_redeemed with ⟨middle, redeemed⟩
  have applies : ∃ last, deployment.Applies ⟨data.receiver⟩
      (data.aggregate (selectActions packet data world.storage).2) (noted world packet data)
      last := by
    simp only [applies_iff (uniform_selectActions packet data world.storage)]
    by_cases nothing : createdTokens (selectActions packet data world.storage).2 = []
    · exact ⟨middle, middle, redeemed.redeemed, .inl ⟨nothing, rfl⟩⟩
    · rcases welcomes.exists_created orderly redeemed with ⟨last, creates⟩
      exact ⟨last, middle, redeemed.redeemed, .inr ⟨nothing, creates⟩⟩
  rcases applies with ⟨last, applies⟩
  exact ⟨last, receiveTx_of_applies deep orderly.foreign checked applies⟩

/-- A run without proxies. -/
theorem Orderly.run (orderly : deployment.Orderly codeId world) {labels : List Chain.Label}
    (direct : ∀ label ∈ labels, label.Direct) :
    deployment.Orderly codeId (labels.foldl (deployment.step deployment.contracts) world) :=
  (follows_of_mem direct).invariant (fun _ _ held allowed => held.step allowed) orderly

end Deployment

/-- Whatever ordinary packet arrives in whatever reachable state, it is acknowledged, with a
response that the host accepts, and with success if and only if the state welcomes it. -/
theorem accepted_iff_of_run {deployment : Deployment} (deep : 3 ≤ deployment.depth)
    {msg : InstantiateMsg} {ledger : Ledger} {genesis : World Ledger}
    (unused : deployment.Unused ledger)
    (room : ∀ index, ledger.instances ≤ index →
      ledger.infoAt deployment.api (deployment.newAddress index) = none)
    (instantiated : deployment.instantiateTx deployment.contracts msg ledger = .ok genesis)
    (labels : List Chain.Label) (direct : ∀ label ∈ labels, label.Direct) {world : World Ledger}
    (reached : labels.foldl (deployment.step deployment.contracts) genesis = world)
    (packet : IbcPacket)
    (ordinary : ∀ data, deployment.api.packetData.fromBinary packet.data = .ok data →
      Ordinary packet data) :
    ∃ after ack, deployment.receiveTx deployment.contracts world packet = .ok (after, ack) ∧
      Admitted (ibcPacketReceive deployment.api deployment.bridge world.storage
        packet).2.attributes ∧
      (tryGetAckError deployment.api ack = none ↔
        ∃ data, deployment.Welcomes world packet data) := by
  subst reached
  have orderly := (Deployment.Orderly.genesis unused room instantiated).run direct
  generalize labels.foldl (deployment.step deployment.contracts) genesis = world at orderly
  rcases deployment.toChain.exists_receiveTx deployment.contracts world packet with
    ⟨after, ack, received⟩
  have admitted := admitted_ibcPacketReceive deployment.bridge world.storage
    fun data decoded => (ordinary data decoded).toReadable
  refine ⟨after, ack, received, admitted, ?_⟩
  constructor
  · intro success
    rcases Deployment.receiveTx_cases (.refl _) orderly.foreign received with
      ⟨_, -, -, rfl⟩ | ⟨_, _, -, ⟨_, rfl, -⟩ | ⟨rfl, -⟩⟩
    · rw [tryGetAckError_ackFail] at success
      cases success
    · rw [tryGetAckError_ackFail] at success
      cases success
    · exact orderly.welcomes ordinary received
  · intro welcome
    rcases welcome with ⟨data, welcomes⟩
    rcases welcomes.exists_accepted orderly deep with ⟨last, accepted⟩
    rw [received] at accepted
    cases accepted
    exact tryGetAckError_ackSuccess _

/-- The counterparty of `channel-0` returns Alice's NFT with two new ones of one ID. -/
theorem accepted_iff_of_sample :
    ∃ after ack, Sample.chain.receiveTx Sample.chain.contracts (Sample.run Sample.sent)
        Sample.mixedPacket = .ok (after, ack) ∧
      Admitted (ibcPacketReceive Sample.chain.api Sample.chain.bridge
        (Sample.run Sample.sent).storage Sample.mixedPacket).2.attributes ∧
      (tryGetAckError Sample.chain.api ack = none ↔
        ∃ data, Sample.chain.Welcomes (Sample.run Sample.sent) Sample.mixedPacket data) := by
  have room : ∀ index, (⟨.empty, 0⟩ : Ledger).instances ≤ index →
      (⟨.empty, 0⟩ : Ledger).infoAt Sample.chain.api (Sample.chain.newAddress index) = none := by
    intro index _
    simp [Ledger.infoAt, Ledger.contractAt]
  have direct : ∀ label ∈ Sample.sent, label.Direct := by
    simp [Sample.sent, Sample.minted, Sample.sendGem, Chain.Label.Direct]
  have ordinary : ∀ data,
      Sample.chain.api.packetData.fromBinary Sample.mixedPacket.data = .ok data →
        Ordinary Sample.mixedPacket data := by
    have same : Sample.chain.api = Sample.api := rfl
    intro data decoded
    simp only [same, Sample.mixedPacket, Codec.from_to, Except.ok.injEq] at decoded
    subst decoded
    exact ⟨⟨by decide +kernel, by decide +kernel, by decide +kernel, memoAdmitted_none⟩,
      by decide +kernel, by decide +kernel, by decide +kernel⟩
  have reached : Sample.sent.foldl (Sample.chain.step Sample.chain.contracts) Sample.genesis =
      Sample.run Sample.sent := rfl
  exact accepted_iff_of_run (by decide) Sample.chain.unused_empty room
    Sample.instantiateTx_genesis Sample.sent direct reached Sample.mixedPacket ordinary

end Ics721
