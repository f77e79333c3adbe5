import Ics721.Receive.Truth

/-!
# A packet touches only its channel's share of the state

Whatever arrives on a channel, it changes only what belongs to that channel, and what it
does depends on nothing but the channel's own outgoing entries and the pause state.
-/

namespace Ics721

open Library

/-! ## The decision depends on the channel's own entries -/

/-- Two storages have the same outgoing entries for a channel. -/
def AgreeOn (channelId : String) (left right : Storage) : Prop :=
  ∀ key, left.outgoingClassTokenToChannel key = some channelId ↔
    right.outgoingClassTokenToChannel key = some channelId

section Decisions

variable {dest : IbcEndpoint} {classId : ClassId} {localClassId : Option String}
variable {left right : Storage}

theorem AgreeOn.chooseAction (agree : AgreeOn dest.channelId left right) (item : Incoming) :
    AgreeOn dest.channelId (chooseAction dest classId localClassId left item).1
        (chooseAction dest classId localClassId right item).1 ∧
      (Ics721.chooseAction dest classId localClassId left item).2 =
        (Ics721.chooseAction dest classId localClassId right item).2 := by
  rcases chooseAction_cases dest classId localClassId left item with
    ⟨localClass, popped, sent, chosen⟩ | ⟨staying, chosen⟩
  · rcases chooseAction_cases dest classId localClassId right item with
      ⟨other, poppedRight, -, chosenRight⟩ | ⟨stayingRight, -⟩
    · have same : other = localClass := by
        rw [popped] at poppedRight
        cases other
        cases localClass
        simpa using poppedRight.symm
      subst same
      rw [chosen, chosenRight]
      constructor
      · intro key
        simp only [StoreMap.remove_apply]
        split
        next => simp
        next => exact agree key
      · rfl
    · exact absurd ((agree _).mp sent) (stayingRight localClass popped)
  · rcases chooseAction_cases dest classId localClassId right item with
      ⟨other, popped, sent, -⟩ | ⟨-, chosenRight⟩
    · exact absurd ((agree _).mpr sent) (staying other popped)
    · rw [chosen, chosenRight]
      exact ⟨agree, rfl⟩

theorem AgreeOn.selectFrom (agree : AgreeOn dest.channelId left right) (items : List Incoming) :
    (selectFrom dest classId localClassId left items).2 =
      (Ics721.selectFrom dest classId localClassId right items).2 := by
  induction items generalizing left right with
  | nil => rfl
  | cons item items ih =>
      rcases agree.chooseAction item with ⟨next, same⟩
      simp only [Ics721.selectFrom]
      rw [same, ih next]

/-- Storages that agree on a channel and on the pause state answer a packet on that channel
in the same way. -/
theorem AgreeOn.ibcPacketReceive {packet : IbcPacket}
    (agree : AgreeOn packet.dest.channelId left right) (paused : left.paused = right.paused)
    (api : Api) (contract : Addr) :
    (ibcPacketReceive api contract left packet).2 =
      (Ics721.ibcPacketReceive api contract right packet).2 := by
  have checked : checkIbcPacket api left packet = checkIbcPacket api right packet := by
    simp only [checkIbcPacket, Storage.errorIfPaused, paused]
  simp only [Ics721.ibcPacketReceive, receiveIbcPacket, checked]
  cases checkIbcPacket api right packet with
  | error error => rfl
  | ok outcome =>
      rcases outcome with ⟨data, receiver⟩
      have actions : (selectActions packet data left).2 = (selectActions packet data right).2 := by
        rw [selectActions_eq, selectActions_eq]
        exact agree.selectFrom data.incoming
      simp only [ok_bind, pure, Except.pure, actions]

end Decisions

/-! ## The frame -/

/-- The class ID starts with the prefix of an endpoint. -/
def ClassId.Under (endpoint : IbcEndpoint) (classId : ClassId) : Prop :=
  (getEndpointPrefix endpoint).toList <+: classId.id.toList

theorem under_voucherClassId (dest : IbcEndpoint) (classId : ClassId) :
    (voucherClassId dest classId).Under dest := by
  simp [ClassId.Under, voucherClassId]

namespace Deployment

variable {deployment : Deployment} {codeId : Nat} {world after : World Ledger}
variable {packet : IbcPacket} {data : NonFungibleTokenPacketData}

/-- Only the share of a channel changes. -/
structure TouchesOnly (deployment : Deployment) (endpoint : IbcEndpoint)
    (world after : World Ledger) : Prop where
  outgoing : ∀ key, after.storage.outgoingClassTokenToChannel key =
      world.storage.outgoingClassTokenToChannel key ∨
    (world.storage.outgoingClassTokenToChannel key = some endpoint.channelId ∧
      after.storage.outgoingClassTokenToChannel key = none)
  incoming : ∀ key, after.storage.incomingClassTokenToChannel key ≠
    world.storage.incomingClassTokenToChannel key → key.1.Under endpoint
  records : ∀ classId, after.storage.classIdToClass classId ≠
    world.storage.classIdToClass classId → classId.Under endpoint
  metadata : ∀ key, after.storage.tokenMetadata key ≠ world.storage.tokenMetadata key →
    key.1.Under endpoint
  contracts : ∀ classId, after.storage.classIdToNftContract classId ≠
    world.storage.classIdToNftContract classId → classId.Under endpoint
  /-- At most one new collection is entered. -/
  classes : after.storage.nftContractToClassId = world.storage.nftContractToClassId ∨
    ∃ contract classId info, classId.Under endpoint ∧
      world.contracts.infoAt deployment.api contract = none ∧
      after.contracts.infoAt deployment.api contract = some info ∧
      after.storage.nftContractToClassId =
        world.storage.nftContractToClassId.save contract classId
  proxy : after.storage.proxy = world.storage.proxy
  pauser : after.storage.pauser = world.storage.pauser
  paused : after.storage.paused = world.storage.paused
  code : after.storage.cw721CodeId = world.storage.cw721CodeId
  /-- Only what the bridge held for the channel changes hands, and what is new. -/
  nfts : ∀ contract tokenId, after.contracts.nfts deployment.api (contract, tokenId) ≠
      world.contracts.nfts deployment.api (contract, tokenId) →
    (∃ classId token, world.storage.classIdToNftContract classId = some contract ∧
      world.storage.outgoingClassTokenToChannel (classId, tokenId) = some endpoint.channelId ∧
      world.contracts.nfts deployment.api (contract, tokenId) = some token ∧
      token.owner = deployment.bridge) ∨
    (∃ classId, classId.Under endpoint ∧
      after.storage.classIdToNftContract classId = some contract ∧
      world.contracts.nfts deployment.api (contract, tokenId) = none)

theorem TouchesOnly.refl (deployment : Deployment) (endpoint : IbcEndpoint)
    (world : World Ledger) : deployment.TouchesOnly endpoint world world where
  outgoing := fun _ => .inl rfl
  incoming := fun _ changed => absurd rfl changed
  records := fun _ changed => absurd rfl changed
  metadata := fun _ changed => absurd rfl changed
  contracts := fun _ changed => absurd rfl changed
  classes := .inl rfl
  proxy := rfl
  pauser := rfl
  paused := rfl
  code := rfl
  nfts := fun _ _ changed => absurd rfl changed

/-- What the fold does to the outgoing map. -/
theorem outgoing_selectActions (packet : IbcPacket) (data : NonFungibleTokenPacketData)
    (storage : Storage) (key : ClassId × TokenId) :
    (selectActions packet data storage).1.outgoingClassTokenToChannel key =
        storage.outgoingClassTokenToChannel key ∨
      (storage.outgoingClassTokenToChannel key = some packet.dest.channelId ∧
        (selectActions packet data storage).1.outgoingClassTokenToChannel key = none) := by
  rw [selectActions_eq]
  rcases outgoing_selectFrom packet.dest data.classId
    (tryPopSourcePrefix packet.src data.classId.id) storage data.incoming key with
    same | ⟨-, -, sent, gone⟩
  · exact .inl same
  · exact .inr ⟨sent, gone⟩

/-- What the fold does to the incoming map. -/
theorem incoming_selectActions (packet : IbcPacket) (data : NonFungibleTokenPacketData)
    (storage : Storage) (key : ClassId × TokenId)
    (changed : (selectActions packet data storage).1.incomingClassTokenToChannel key ≠
      storage.incomingClassTokenToChannel key) : key.1.Under packet.dest := by
  rw [selectActions_eq] at changed
  rcases incoming_selectFrom packet.dest data.classId
    (tryPopSourcePrefix packet.src data.classId.id) storage data.incoming key with
    same | ⟨named, -⟩
  · exact absurd same changed
  · rw [named]
    exact under_voucherClassId _ _

theorem touchesOnly_noted (deployment : Deployment) (world : World Ledger) (packet : IbcPacket)
    (data : NonFungibleTokenPacketData) :
    deployment.TouchesOnly packet.dest world (noted world packet data) := by
  have folded := sameButTransit_selectFrom packet.dest data.classId
    (tryPopSourcePrefix packet.src data.classId.id) world.storage data.incoming
  rw [← selectActions_eq] at folded
  constructor
  · exact outgoing_selectActions packet data world.storage
  · exact incoming_selectActions packet data world.storage
  · exact fun _ changed => absurd (congrFun folded.records _) changed
  · exact fun _ changed => absurd (congrFun folded.metadata _) changed
  · exact fun _ changed => absurd (congrFun folded.contracts _) changed
  · exact .inl folded.classes
  · exact folded.proxy
  · exact folded.pauser
  · exact folded.paused
  · exact folded.code
  · exact fun _ _ changed => absurd rfl changed

theorem Received.touchesOnly {receiver : Addr}
    (received : deployment.Received packet data receiver world after)
    (unapproved : world.contracts.Unapproved deployment.api deployment.bridge) :
    deployment.TouchesOnly packet.dest world after := by
  have under := under_voucherClassId packet.dest data.classId
  constructor
  · rw [received.outgoing]
    exact outgoing_selectActions packet data world.storage
  · rw [received.incoming]
    exact incoming_selectActions packet data world.storage
  · intro classId changed
    by_contra outside
    exact changed (received.storage.records classId fun same => outside (same ▸ under))
  · intro key changed
    by_contra outside
    exact changed (received.storage.metadata key fun same => outside (same ▸ under))
  · intro classId changed
    by_contra outside
    exact changed (received.storage.contracts classId fun same => outside (same ▸ under))
  · rcases received.known_or_new with
      ⟨-, classes, -, -⟩ | ⟨contract, -, free, -, -, classes, infos, -⟩
    · exact .inl classes
    · right
      have entered := StoreMap.save_self (world.contracts.infoAt deployment.api) contract
        ⟨(voucherClassId packet.dest data.classId).id, deployment.bridge, .empty⟩
      rw [← infos] at entered
      exact ⟨contract, _, _, under, free, entered, classes⟩
  · exact received.storage.proxy
  · exact received.storage.pauser
  · exact received.storage.paused
  · exact received.storage.code
  · intro contract tokenId changed
    rcases received.kept (contract, tokenId) with
      same | ⟨moved, registered⟩ | ⟨token, -, -, registered, free⟩
    · exact absurd same changed
    · left
      have redeemed :=
        (mem_redeemedIds (uniform_selectActions packet data world.storage)).mp moved
      rw [selectActions_eq] at redeemed
      have sent := (redemption_selectFrom redeemed).2.1
      rcases received.redeemed tokenId moved with
        ⟨source, info, token, known, atSource, present, allowed, -⟩
      rw [registered] at known
      cases known
      exact ⟨_, token, registered, sent, present, unapproved.owner atSource present allowed⟩
    · right
      exact ⟨_, under, registered, free⟩

theorem Held.touchesOnly {contracts : Contracts Ledger} (held : deployment.Held codeId world)
    (conforms : Conforms deployment.contracts contracts)
    (unapproved : world.contracts.Unapproved deployment.api deployment.bridge)
    {ack : Binary}
    (transaction : deployment.receiveTx contracts world packet = .ok (after, ack)) :
    deployment.TouchesOnly packet.dest world after := by
  rcases receiveTx_cases conforms held.foreign transaction with
    ⟨error, -, rfl, rfl⟩ | ⟨data, receiver, checked, ⟨text, rfl, rfl⟩ | ⟨rfl, applies⟩⟩
  · exact .refl _ _ _
  · exact touchesOnly_noted _ _ _ _
  · exact (received_of_applies applies).touchesOnly unapproved

end Deployment

/-- In every reachable state a packet touches only the share of the channel it arrives on,
and the bridge answers it in the same way in any other state that agrees on that share. -/
theorem receive_framed_of_run {deployment : Deployment} {msg : InstantiateMsg}
    {ledger : Ledger} {genesis : World Ledger} (unused : deployment.Unused ledger)
    (instantiated : deployment.instantiateTx deployment.contracts msg ledger = .ok genesis)
    (events : List deployment.Event) {contracts : Contracts Ledger}
    (conforms : Conforms deployment.contracts contracts)
    (unapproved : (events.foldl deployment.happen genesis).contracts.Unapproved deployment.api
      deployment.bridge)
    {packet : IbcPacket} {channelId : String}
    (arrives : packet.dest = ⟨deployment.portId, channelId⟩) {after : World Ledger} {ack : Binary}
    (transaction : deployment.receiveTx contracts (events.foldl deployment.happen genesis)
      packet = .ok (after, ack)) :
    deployment.TouchesOnly ⟨deployment.portId, channelId⟩
        (events.foldl deployment.happen genesis) after ∧
      ∀ other : Storage,
        AgreeOn channelId (events.foldl deployment.happen genesis).storage other →
        (events.foldl deployment.happen genesis).storage.paused = other.paused →
        (ibcPacketReceive deployment.api deployment.bridge
            (events.foldl deployment.happen genesis).storage packet).2 =
          (ibcPacketReceive deployment.api deployment.bridge other packet).2 := by
  have start := Deployment.Held.instantiateTx (.refl _) unused instantiated
  have held := run_invariant (fun world event (held : deployment.Held _ world) =>
    held.step event) events start
  constructor
  · rw [← arrives]
    exact held.touchesOnly conforms unapproved transaction
  · intro other agree paused
    have channel : packet.dest.channelId = channelId := by rw [arrives]
    rw [← channel] at agree
    exact agree.ibcPacketReceive paused deployment.api deployment.bridge

/-- Another bridge that holds Alice's NFT for `channel-0`, and one more for `channel-1`, and has
no collections. -/
def Sample.otherStorage : Storage :=
  { Sample.genesis.storage with
    outgoingClassTokenToChannel :=
      (Sample.run Sample.sent).storage.outgoingClassTokenToChannel.save
        (⟨"contract0"⟩, ⟨"pearl"⟩) "channel-1" }

/-- Alice's NFT comes back with two new tokens of one ID, which fails, or with one. -/
theorem receive_framed_of_sample :
    (∃ after ack, Sample.chain.receiveTx Sample.chain.contracts (Sample.run Sample.sent)
        Sample.mixedPacket = .ok (after, ack) ∧
      Sample.chain.TouchesOnly ⟨"wasm.bridge", "channel-0"⟩ (Sample.run Sample.sent) after) ∧
    ∃ after ack, Sample.chain.receiveTx Sample.chain.contracts (Sample.run Sample.sent)
        Sample.mixedOnce = .ok (after, ack) ∧ tryGetAckError Sample.api ack = none ∧
      Sample.chain.TouchesOnly ⟨"wasm.bridge", "channel-0"⟩ (Sample.run Sample.sent) after ∧
      (ibcPacketReceive Sample.api Sample.chain.bridge (Sample.run Sample.sent).storage
          Sample.mixedOnce).2 =
        (ibcPacketReceive Sample.api Sample.chain.bridge Sample.otherStorage
          Sample.mixedOnce).2 := by
  have framed : ∀ {packet after ack}, packet.dest = ⟨"wasm.bridge", "channel-0"⟩ →
      Sample.chain.receiveTx Sample.chain.contracts (Sample.run Sample.sent) packet =
        .ok (after, ack) →
      Sample.chain.TouchesOnly ⟨"wasm.bridge", "channel-0"⟩ (Sample.run Sample.sent) after ∧
        ∀ other : Storage, AgreeOn "channel-0" (Sample.run Sample.sent).storage other →
          (Sample.run Sample.sent).storage.paused = other.paused →
          (ibcPacketReceive Sample.api Sample.chain.bridge (Sample.run Sample.sent).storage
              packet).2 =
            (ibcPacketReceive Sample.api Sample.chain.bridge other packet).2 := by
    intro packet after ack arrives received
    have reached : (Sample.sent.map (Deployment.Event.of Sample.chain)).foldl
        Sample.chain.happen Sample.genesis = Sample.run Sample.sent :=
      Deployment.foldl_happen _ _ _
    rw [← reached] at received ⊢
    exact receive_framed_of_run Sample.chain.unused_empty Sample.instantiateTx_genesis
      (Sample.sent.map (.of _)) (.refl _) Sample.unapproved_sent arrives received
  have observed :
      (Sample.chain.receiveTx Sample.chain.contracts (Sample.run Sample.sent)
          Sample.mixedOnce).map (fun outcome => tryGetAckError Sample.api outcome.2) =
        .ok none ∧
      (Sample.run Sample.sent).storage.outgoingClassTokenToChannel
          (⟨"contract0"⟩, ⟨"pearl"⟩) = none ∧
      (Sample.run Sample.sent).storage.paused = false := by
    decide +kernel
  rcases observed with ⟨success, unsent, running⟩
  have agree : AgreeOn "channel-0" (Sample.run Sample.sent).storage Sample.otherStorage := by
    intro key
    simp only [Sample.otherStorage, StoreMap.save_apply]
    split
    next same => simp [same, unsent]
    next => exact Iff.rfl
  constructor
  · rcases Sample.chain.exists_receiveTx Sample.chain.contracts (Sample.run Sample.sent)
      Sample.mixedPacket with ⟨after, ack, received⟩
    exact ⟨after, ack, received, (framed rfl received).1⟩
  · rcases Sample.chain.exists_receiveTx Sample.chain.contracts (Sample.run Sample.sent)
      Sample.mixedOnce with ⟨after, ack, received⟩
    rcases framed rfl received with ⟨touches, alike⟩
    rw [received] at success
    exact ⟨after, ack, received, Except.ok.inj success, touches, alike _ agree running⟩

end Ics721
