import Ics721.Receive.Approvals
import Ics721.Receive.Failure
import Ics721.Receive.Partition

/-!
# The acknowledgement tells the truth

A packet is answered with a success exactly if each of its tokens was handed to the
receiver, and with an error only if no NFT was touched.
-/

namespace Ics721

open Library

/-! ## What an acknowledgement says -/

namespace Deployment

variable {deployment : Deployment} {codeId : Nat} {world after : World Ledger}
variable {packet : IbcPacket} {data : NonFungibleTokenPacketData}

/-- A token of the packet moved from the bridge to the receiver, in the collection of the
class without the prefix of the packet's source. -/
def Returned (deployment : Deployment) (packet : IbcPacket) (data : NonFungibleTokenPacketData)
    (world after : World Ledger) (contract : Addr) (tokenId : TokenId) : Prop :=
  ∃ localClassId token,
    tryPopSourcePrefix packet.src data.classId.id = some localClassId ∧
    world.storage.classIdToNftContract ⟨localClassId⟩ = some contract ∧
    world.contracts.nfts deployment.api (contract, tokenId) = some token ∧
    token.owner = deployment.bridge ∧
    after.contracts.nfts deployment.api (contract, tokenId) =
      some ⟨⟨data.receiver⟩, [], token.tokenUri⟩

/-- The token at a place of the packet was minted for the receiver with its URI, in the
collection of the class with the prefix of the packet's destination. -/
def Vouched (deployment : Deployment) (packet : IbcPacket) (data : NonFungibleTokenPacketData)
    (world after : World Ledger) (contract : Addr) (index : Nat) (tokenId : TokenId) : Prop :=
  after.storage.classIdToNftContract (voucherClassId packet.dest data.classId) =
      some contract ∧
    world.contracts.nfts deployment.api (contract, tokenId) = none ∧
    after.contracts.nfts deployment.api (contract, tokenId) =
      some ⟨⟨data.receiver⟩, [], data.tokenUris.bind (·[index]?)⟩

/-- What the acknowledgement of a packet says about the NFTs. -/
inductive Acknowledged (deployment : Deployment) (packet : IbcPacket) (world after : World Ledger)
    (ack : Binary) : Prop where
  | success {data : NonFungibleTokenPacketData}
      (read : tryGetAckError deployment.api ack = none)
      (decoded : deployment.api.packetData.fromBinary packet.data = .ok data)
      (each : ∀ index tokenId, data.tokenIds[index]? = some tokenId → ∃ contract,
        deployment.Returned packet data world after contract tokenId ∨
          deployment.Vouched packet data world after contract index tokenId)
      (others : ∀ contract tokenId,
        after.contracts.nfts deployment.api (contract, tokenId) ≠
          world.contracts.nfts deployment.api (contract, tokenId) →
        ∃ index, data.tokenIds[index]? = some tokenId ∧
          (deployment.Returned packet data world after contract tokenId ∨
            deployment.Vouched packet data world after contract index tokenId))
  | failure {error : String} (read : tryGetAckError deployment.api ack = some error)
      (same : after.contracts = world.contracts)

theorem Received.returned {receiver : Addr}
    (received : deployment.Received packet data receiver world after)
    (named : receiver = ⟨data.receiver⟩)
    (unapproved : world.contracts.Unapproved deployment.api deployment.bridge)
    {tokenId : TokenId}
    (member : tokenId ∈ redeemedIds (selectActions packet data world.storage).2) :
    ∃ contract, world.storage.classIdToNftContract (localClass packet data) = some contract ∧
      deployment.Returned packet data world after contract tokenId := by
  rcases received.redeemed tokenId member with
    ⟨contract, info, token, registered, known, present, allowed, final⟩
  have redeemed := List.mem_filterMap.mp member
  rcases redeemed with ⟨action, chosen, isRedeemed⟩
  cases action with
  | creation classId token => cases isRedeemed
  | redemption classId other =>
      rw [selectActions_eq] at chosen
      have popped := (redemption_selectFrom chosen).1
      have same : localClass packet data = classId := by
        rw [localClass, popped]
        rfl
      refine ⟨contract, registered, classId.id, token, popped, ?_, present,
        unapproved.owner known present allowed, ?_⟩
      · rw [← registered, same]
      · rw [final, named]

theorem Received.vouched {receiver : Addr}
    (received : deployment.Received packet data receiver world after)
    (named : receiver = ⟨data.receiver⟩) {index : Nat} {token : Token}
    (member : token ∈ createdTokens (selectActions packet data world.storage).2)
    (uri : token.uri = data.tokenUris.bind (·[index]?)) :
    ∃ contract, after.storage.classIdToNftContract (voucherClassId packet.dest data.classId) =
        some contract ∧
      deployment.Vouched packet data world after contract index token.id := by
  rcases received.created token member with ⟨contract, info, registered, -, -, free, final⟩
  refine ⟨contract, registered, registered, free, ?_⟩
  rw [final, named, uri]

/-- A packet that went through is answered truthfully. -/
theorem Received.acknowledged {receiver : Addr} {ack : Binary}
    (received : deployment.Received packet data receiver world after)
    (checked : checkIbcPacket deployment.api world.storage packet = .ok (data, receiver))
    (unapproved : world.contracts.Unapproved deployment.api deployment.bridge)
    (read : tryGetAckError deployment.api ack = none) :
    deployment.Acknowledged packet world after ack := by
  rcases checkIbcPacket_eq_ok.mp checked with ⟨-, decoded, valid, -, named⟩
  apply Acknowledged.success read decoded
  · intro index tokenId present
    rcases exists_action valid present with ⟨action, chosen⟩
    rcases getElem?_selectActions valid chosen with ⟨other, same, isFor⟩
    rw [present] at same
    cases same
    have member := List.mem_of_getElem? chosen
    cases action with
    | redemption classId redeemed =>
        cases isFor
        rcases received.returned named unapproved (List.mem_filterMap.mpr ⟨_, member, rfl⟩) with
          ⟨contract, -, returned⟩
        exact ⟨contract, .inl returned⟩
    | creation classId token =>
        cases isFor
        rcases received.vouched named (List.mem_filterMap.mpr ⟨_, member, rfl⟩) rfl with
          ⟨contract, -, vouched⟩
        exact ⟨contract, .inr vouched⟩
  · intro contract tokenId changed
    rcases received.kept (contract, tokenId) with
      same | ⟨moved, registered⟩ | ⟨token, member, named', registered, -⟩
    · exact absurd same changed
    · rcases List.mem_filterMap.mp moved with ⟨action, member, isRedeemed⟩
      rcases List.mem_iff_getElem?.mp member with ⟨index, chosen⟩
      rcases getElem?_selectActions valid chosen with ⟨other, present, isFor⟩
      rcases received.returned named unapproved moved with ⟨source, known, returned⟩
      rw [registered] at known
      cases known
      cases action with
      | creation classId token => cases isRedeemed
      | redemption classId redeemed =>
          cases isRedeemed
          cases isFor
          exact ⟨index, present, .inl returned⟩
    · rcases List.mem_filterMap.mp member with ⟨action, inActions, isCreated⟩
      rcases List.mem_iff_getElem?.mp inActions with ⟨index, chosen⟩
      rcases getElem?_selectActions valid chosen with ⟨other, present, isFor⟩
      cases action with
      | redemption classId redeemed => cases isCreated
      | creation classId created =>
          cases isCreated
          cases isFor
          cases named'
          rcases received.vouched named member rfl with ⟨source, known, vouched⟩
          rw [registered] at known
          cases known
          exact ⟨index, present, .inr vouched⟩

theorem Held.acknowledged {contracts : Contracts Ledger} (held : deployment.Held codeId world)
    (conforms : Conforms deployment.contracts contracts)
    (unapproved : world.contracts.Unapproved deployment.api deployment.bridge)
    {ack : Binary}
    (transaction : deployment.receiveTx contracts world packet = .ok (after, ack)) :
    ack ≠ [] ∧ deployment.Acknowledged packet world after ack := by
  rcases receiveTx_cases conforms held.foreign transaction with
    ⟨error, -, rfl, rfl⟩ | ⟨data, receiver, checked, ⟨text, rfl, rfl⟩ | ⟨rfl, applies⟩⟩
  · exact ⟨Codec.toBinary_ne_nil _ _, .failure (tryGetAckError_ackFail _ _) rfl⟩
  · exact ⟨Codec.toBinary_ne_nil _ _, .failure (tryGetAckError_ackFail _ _) rfl⟩
  · exact ⟨Codec.toBinary_ne_nil _ _, (received_of_applies applies).acknowledged checked
      unapproved (tryGetAckError_ackSuccess _)⟩

end Deployment

/-- The transaction of a received packet never fails. -/
theorem Chain.exists_receiveTx {σ : Type} (chain : Chain) (contracts : Contracts σ)
    (world : World σ) (packet : IbcPacket) :
    ∃ after ack, chain.receiveTx contracts world packet = .ok (after, ack) := by
  rw [Chain.receiveTx_eq]
  split
  next error rejected => exact ⟨_, _, rfl⟩
  next data receiver checked =>
    simp only
    split
    next after reply delivered => exact ⟨_, _, rfl⟩
    next err failed => exact ⟨_, _, rfl⟩

/-- Whatever packet arrives in whatever reachable state, exactly one acknowledgement is
committed, and it is true. -/
theorem ack_truthful_of_run {deployment : Deployment} {msg : InstantiateMsg}
    {ledger : Ledger} {genesis : World Ledger} (unused : deployment.Unused ledger)
    (instantiated : deployment.instantiateTx deployment.contracts msg ledger = .ok genesis)
    (events : List deployment.Event) {contracts : Contracts Ledger}
    (conforms : Conforms deployment.contracts contracts)
    (unapproved : (events.foldl deployment.happen genesis).contracts.Unapproved deployment.api
      deployment.bridge)
    (packet : IbcPacket) :
    ∃ after ack,
      deployment.receiveTx contracts (events.foldl deployment.happen genesis) packet =
        .ok (after, ack) ∧
      ack ≠ [] ∧
      deployment.Acknowledged packet (events.foldl deployment.happen genesis) after ack := by
  have start := Deployment.Held.instantiateTx (.refl _) unused instantiated
  have held := run_invariant (fun world event (held : deployment.Held _ world) =>
    held.step event) events start
  rcases deployment.exists_receiveTx contracts (events.foldl deployment.happen genesis) packet
    with ⟨after, ack, transaction⟩
  exact ⟨after, ack, transaction, held.acknowledged conforms unapproved transaction⟩

namespace Sample

/-- The counterparty of `channel-0` returns Alice's NFT together with a new token. -/
def mixedOnce : IbcPacket where
  data := api.packetData.toBinary
    ⟨⟨"wasm.east/channel-7/contract0"⟩, none, none, [⟨"gem"⟩, ⟨"copy"⟩], none, none, "dora",
      "alice", none⟩
  src := ⟨"wasm.east", "channel-7"⟩
  dest := ⟨"wasm.bridge", "channel-0"⟩
  sequence := 0
  timeout := ⟨none, some 5⟩

/-- Nobody has approved the bridge. -/
theorem unapproved_sent :
    ((sent.map (Deployment.Event.of chain)).foldl chain.happen genesis).contracts.Unapproved
      chain.api chain.bridge := by
  have held := Deployment.Held.instantiateTx (.refl _) chain.unused_empty instantiateTx_genesis
  apply held.unapproved_of_run (Ledger.unapproved_empty _ _)
  simp [sent, minted, sendGem, Deployment.Event.of, Chain.Label.Withholds,
    Cw721ExecuteMsg.Withholds]

end Sample

/-- Alice's NFT comes back with two new tokens of one ID, which fails, or with one. -/
theorem ack_truthful_of_sample :
    (∃ after ack, Sample.chain.receiveTx Sample.chain.contracts (Sample.run Sample.sent)
        Sample.mixedPacket = .ok (after, ack) ∧ ack ≠ [] ∧
      Sample.chain.Acknowledged Sample.mixedPacket (Sample.run Sample.sent) after ack ∧
      tryGetAckError Sample.api ack = some "token_id already claimed") ∧
    ∃ after ack, Sample.chain.receiveTx Sample.chain.contracts (Sample.run Sample.sent)
        Sample.mixedOnce = .ok (after, ack) ∧ ack ≠ [] ∧
      Sample.chain.Acknowledged Sample.mixedOnce (Sample.run Sample.sent) after ack ∧
      tryGetAckError Sample.api ack = none := by
  have truthful : ∀ packet, ∃ after ack,
      Sample.chain.receiveTx Sample.chain.contracts (Sample.run Sample.sent) packet =
        .ok (after, ack) ∧ ack ≠ [] ∧
      Sample.chain.Acknowledged packet (Sample.run Sample.sent) after ack := by
    intro packet
    have acknowledged := ack_truthful_of_run Sample.chain.unused_empty
      Sample.instantiateTx_genesis (Sample.sent.map (.of _)) (.refl _) Sample.unapproved_sent
      packet
    rw [Deployment.foldl_happen] at acknowledged
    exact acknowledged
  have observed :
      (Sample.chain.receiveTx Sample.chain.contracts (Sample.run Sample.sent)
          Sample.mixedPacket).map (fun outcome => tryGetAckError Sample.api outcome.2) =
        .ok (some "token_id already claimed") ∧
      (Sample.chain.receiveTx Sample.chain.contracts (Sample.run Sample.sent)
          Sample.mixedOnce).map (fun outcome => tryGetAckError Sample.api outcome.2) =
        .ok none := by
    decide +kernel
  constructor
  · rcases truthful Sample.mixedPacket with ⟨after, ack, received, present, acknowledged⟩
    rw [received] at observed
    exact ⟨after, ack, received, present, acknowledged, Except.ok.inj observed.1⟩
  · rcases truthful Sample.mixedOnce with ⟨after, ack, received, present, acknowledged⟩
    rw [received] at observed
    exact ⟨after, ack, received, present, acknowledged, Except.ok.inj observed.2⟩

end Ics721
