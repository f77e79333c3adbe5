import Ics721.Chain.Sample
import Ics721.Escrow.Steps
import Ics721.Library.Runs

/-!
# Channels do not reach into each other's escrow

An NFT that the bridge holds for one channel can be unlocked only over that channel, as
long as it is never sent out while an unsettled packet on another channel still carries it.
Without that condition a late refund takes it from the other channel.
-/

namespace Ics721

open Library

namespace Chain.Label

/-- The channel on which a packet is received or settled. -/
def channel : Chain.Label → Option String
  | .receive packet => some packet.dest.channelId
  | .ack packet _ => some packet.src.channelId
  | .timeout packet => some packet.src.channelId
  | .execute _ _ | .migrate _ => none

end Chain.Label

namespace Deployment

variable {deployment : Deployment} {codeId : Nat} {world after : World Ledger}
variable {classId : ClassId} {tokenId : TokenId} {channelId : String} {contract : Addr}
variable {token : TokenInfo} {label : Chain.Label}

/-- The bridge holds an NFT that it sent out over a channel. -/
structure InEscrow (deployment : Deployment) (world : World Ledger) (classId : ClassId)
    (tokenId : TokenId) (channelId : String) (contract : Addr) (token : TokenInfo) : Prop where
  registered : world.storage.classIdToNftContract classId = some contract
  present : world.contracts.nfts deployment.api (contract, tokenId) = some token
  owned : token.owner = deployment.bridge
  outgoing : world.storage.outgoingClassTokenToChannel (classId, tokenId) = some channelId

/-- The step makes the bridge transfer or burn an NFT: a packet redeems it, a packet that
carries it is refunded, or a packet that carries it arrived at the voucher's source. -/
def Unlocks (deployment : Deployment) (world : World Ledger) (classId : ClassId)
    (tokenId : TokenId) : Chain.Label → Prop
  | .receive packet => ∃ data, deployment.api.packetData.fromBinary packet.data = .ok data ∧
      Action.redemption classId tokenId ∈ (selectActions packet data world.storage).2
  | .ack packet acknowledgement =>
      packet ∈ world.commitments ∧ Carries deployment.api packet classId tokenId ∧
        (tryGetAckError deployment.api acknowledgement = none →
          world.storage.incomingClassTokenToChannel (classId, tokenId) =
            some packet.src.channelId)
  | .timeout packet => packet ∈ world.commitments ∧ Carries deployment.api packet classId tokenId
  | .execute _ _ | .migrate _ => False

/-- Unsettled packets that carry an NFT in escrow are on the channel it is in escrow for. -/
def OnChannel (deployment : Deployment) (world : World Ledger) : Prop :=
  ∀ packet ∈ world.commitments, ∀ classId tokenId channelId,
    Carries deployment.api packet classId tokenId →
    world.storage.outgoingClassTokenToChannel (classId, tokenId) = some channelId →
    packet.src.channelId = channelId

/-- An account sends an NFT of a collection to the bridge, to go out over a channel, and the
transaction succeeds. -/
def Event.Ships (event : deployment.Event) (world : World Ledger) (contract : Addr)
    (tokenId : TokenId) (channelId : String) : Prop :=
  ∃ sender request outgoing,
    event.label = .execute sender
      (.execute contract (.cw721 (.sendNft deployment.bridge.addr tokenId request))) ∧
    sender ≠ deployment.bridge ∧ world.contracts.infoAt deployment.api sender = none ∧
    deployment.api.ibcOutgoing.fromBinary request = .ok outgoing ∧
    outgoing.channelId = channelId ∧
    ∃ after, deployment.executeTx event.contracts world sender
      (.execute contract (.cw721 (.sendNft deployment.bridge.addr tokenId request))) = .ok after

/-- An NFT is not sent while an unsettled packet on another channel carries it. -/
def SendsApart (deployment : Deployment) (world : World Ledger) (event : deployment.Event) :
    Prop :=
  ∀ contract tokenId channelId, event.Ships world contract tokenId channelId →
    ∀ packet ∈ world.commitments,
      Carries deployment.api packet (world.storage.classOf contract) tokenId →
      packet.src.channelId = channelId

/-! ## What a step on another channel does -/

theorem OnChannel.not_unlocks (onChannel : deployment.OnChannel world)
    (escrow : deployment.InEscrow world classId tokenId channelId contract token)
    {other : String} (on : label.channel = some other) (different : other ≠ channelId) :
    ¬deployment.Unlocks world classId tokenId label := by
  intro unlocks
  cases label with
  | execute sender msg => cases on
  | migrate msg => cases on
  | receive packet =>
      rcases unlocks with ⟨data, -, redeemed⟩
      cases on
      rw [selectActions_eq] at redeemed
      have sent := (redemption_selectFrom redeemed).2.1
      rw [escrow.outgoing] at sent
      cases sent
      exact different rfl
  | ack packet acknowledgement =>
      cases on
      exact different (onChannel packet unlocks.1 _ _ _ unlocks.2.1 escrow.outgoing)
  | timeout packet =>
      cases on
      exact different (onChannel packet unlocks.1 _ _ _ unlocks.2 escrow.outgoing)

/-- What is not redeemed stays in escrow. -/
theorem InEscrow.received {packet : IbcPacket} {data : NonFungibleTokenPacketData}
    {receiver : Addr} (escrow : deployment.InEscrow world classId tokenId channelId contract token)
    (held : deployment.Held codeId world)
    (received : deployment.Received packet data receiver world after)
    (staying : Action.redemption classId tokenId ∉ (selectActions packet data world.storage).2) :
    deployment.InEscrow after classId tokenId channelId contract token := by
  constructor
  · exact received.contract_kept escrow.registered
  · rcases received.kept (contract, tokenId) with same | ⟨moved, known⟩ | ⟨_, -, -, -, free⟩
    · rw [same]
      exact escrow.present
    · exfalso
      have uniform := uniform_selectActions packet data world.storage
      have equal := held.sound.registry.contract_inj known escrow.registered
      have redeemed := (mem_redeemedIds uniform).mp moved
      rw [equal] at redeemed
      exact staying redeemed
    · rw [escrow.present] at free
      cases free
  · exact escrow.owned
  · rw [received.outgoing, selectActions_eq]
    rw [selectActions_eq] at staying
    rcases outgoing_selectFrom packet.dest data.classId
        (tryPopSourcePrefix packet.src data.classId.id) world.storage data.incoming
        (classId, tokenId) with same | ⟨redeemed, -⟩
    · rw [same]
      exact escrow.outgoing
    · exact absurd redeemed staying

theorem InEscrow.noted {packet : IbcPacket} {data : NonFungibleTokenPacketData}
    (escrow : deployment.InEscrow world classId tokenId channelId contract token)
    (staying : Action.redemption classId tokenId ∉ (selectActions packet data world.storage).2) :
    deployment.InEscrow (noted world packet data) classId tokenId channelId contract token := by
  rw [selectActions_eq] at staying
  have folded := sameButTransit_selectFrom packet.dest data.classId
    (tryPopSourcePrefix packet.src data.classId.id) world.storage data.incoming
  constructor
  · simp only [Deployment.noted, selectActions_eq, folded.contracts]
    exact escrow.registered
  · exact escrow.present
  · exact escrow.owned
  · simp only [Deployment.noted, selectActions_eq]
    rcases outgoing_selectFrom packet.dest data.classId
        (tryPopSourcePrefix packet.src data.classId.id) world.storage data.incoming
        (classId, tokenId) with same | ⟨redeemed, -⟩
    · rw [same]
      exact escrow.outgoing
    · exact absurd redeemed staying

/-- What a failed packet does not carry stays in escrow. -/
theorem InEscrow.refunded {packet : IbcPacket}
    (escrow : deployment.InEscrow world classId tokenId channelId contract token)
    (held : deployment.Held codeId world) (refunds : deployment.Refunds packet world after)
    (notCarried : ¬Carries deployment.api packet classId tokenId) :
    deployment.InEscrow after classId tokenId channelId contract token := by
  rcases refunds with ⟨data, source, ledger, decoded, known, -, called, rfl⟩
  have moves := Ledger.moved_of_callAll called
  have elsewhere : data.classId = classId → tokenId ∉ data.tokenIds :=
    fun same member => notCarried ⟨data, decoded, same, member⟩
  constructor
  · exact escrow.registered
  · rw [moves.kept (contract, tokenId)]
    · exact escrow.present
    · intro same
      cases same
      exact elsewhere (held.sound.registry.contract_inj known escrow.registered)
  · exact escrow.owned
  · have untouched : ∀ other ∈ data.tokenIds, (data.classId, other) ≠ (classId, tokenId) := by
      intro other member same
      cases same
      exact elsewhere rfl member
    exact (StoreMap.foldl_remove_of_not_mem untouched).trans escrow.outgoing

/-- What a packet that arrived does not burn stays in escrow. -/
theorem InEscrow.burned {packet : IbcPacket}
    (escrow : deployment.InEscrow world classId tokenId channelId contract token)
    (held : deployment.Held codeId world) (burns : deployment.Burns packet world after)
    (notBurned : ¬(Carries deployment.api packet classId tokenId ∧
      world.storage.incomingClassTokenToChannel (classId, tokenId) =
        some packet.src.channelId)) :
    deployment.InEscrow after classId tokenId channelId contract token := by
  rcases burns with ⟨data, source, burned, ledger, decoded, known, arrived, called, rfl⟩
  have burning := Ledger.burned_of_callAll called
  constructor
  · exact escrow.registered
  · rw [burning.kept (contract, tokenId)]
    · exact escrow.present
    · intro same member
      cases same
      have equal := held.sound.registry.contract_inj known escrow.registered
      rcases (arrived.2 tokenId).mp member with ⟨inPacket, incoming⟩
      rw [equal] at incoming
      exact notBurned ⟨⟨data, decoded, equal, inPacket⟩, incoming⟩
  · exact escrow.owned
  · exact escrow.outgoing

/-- Steps on other channels leave the escrow of a channel alone. -/
theorem InEscrow.kept (escrow : deployment.InEscrow world classId tokenId channelId contract token)
    (held : deployment.Held codeId world) (stepped : deployment.Stepped world label after)
    {other : String} (on : label.channel = some other)
    (staying : ¬deployment.Unlocks world classId tokenId label) :
    deployment.InEscrow after classId tokenId channelId contract token := by
  cases stepped with
  | stayed => exact escrow
  | executed => cases on
  | migrated => cases on
  | received _ checked received =>
      rcases checkIbcPacket_eq_ok.mp checked with ⟨-, decoded, -, -, -⟩
      apply escrow.received held received
      intro redeemed
      exact staying ⟨_, decoded, redeemed⟩
  | failed _ checked =>
      rcases checkIbcPacket_eq_ok.mp checked with ⟨-, decoded, -, -, -⟩
      apply escrow.noted
      intro redeemed
      exact staying ⟨_, decoded, redeemed⟩
  | refunded fails pending refunds =>
      apply escrow.refunded held refunds
      intro carried
      rcases fails with rfl | ⟨acknowledgement, rfl, failure⟩
      · exact staying ⟨pending, carried⟩
      · exact staying ⟨pending, carried, fun success => absurd success failure⟩
  | burned pending success burns =>
      apply escrow.burned held burns
      intro burned
      exact staying ⟨pending, burned.1, fun _ => burned.2⟩

/-! ## Runs -/

/-- Fewer unsettled packets and fewer outgoing entries. -/
theorem OnChannel.of_less (onChannel : deployment.OnChannel world)
    (commitments : ∀ packet ∈ after.commitments, packet ∈ world.commitments)
    (outgoing : ∀ key value, after.storage.outgoingClassTokenToChannel key = some value →
      world.storage.outgoingClassTokenToChannel key = some value) :
    deployment.OnChannel after := by
  intro packet member classId tokenId channelId carried sent
  exact onChannel packet (commitments packet member) classId tokenId channelId carried
    (outgoing _ _ sent)

/-- A send that stays apart from packets on other channels. -/
theorem OnChannel.sends {request : Binary} {sender : String} {ledger : Ledger}
    (onChannel : deployment.OnChannel world) (held : deployment.Held codeId world)
    (apart : ∀ outgoing, deployment.api.ibcOutgoing.fromBinary request = .ok outgoing →
      ∀ packet ∈ world.commitments,
        Carries deployment.api packet (world.storage.classOf contract) tokenId →
        packet.src.channelId = outgoing.channelId)
    (sends : deployment.Sends ⟨contract, tokenId, sender, request⟩
      { world with contracts := ledger } after) :
    deployment.OnChannel after := by
  rcases sends with ⟨outgoing, storage, cls, token, dest, -, decoded, selected, -, -, rfl⟩
  have found := held.sound.registry.classFound selected
  intro packet member classId other channelId carried sent
  rcases List.mem_append.mp member with old | new
  · by_cases same : (classId, other) = (cls.id, tokenId)
    · cases same
      simp only [StoreMap.save_self, Option.some.injEq] at sent
      rw [found.id] at carried
      rw [← sent]
      exact apart outgoing decoded packet old carried
    · simp only [StoreMap.save_of_ne same, found.outgoing] at sent
      exact onChannel packet old classId other channelId carried sent
  · rw [List.mem_singleton.mp new] at carried ⊢
    rcases carries_outgoingPacket.mp carried with ⟨rfl, rfl⟩
    simp only [StoreMap.save_self, Option.some.injEq] at sent
    exact sent

/-- What the chain does when an account executes a message. -/
theorem happen_execute {event : deployment.Event} {sender : Addr} {msg : WasmMsg}
    (labelled : event.label = .execute sender msg) (account : sender ≠ deployment.bridge)
    (noContract : world.contracts.infoAt deployment.api sender = none) :
    (∃ done, deployment.executeTx event.contracts world sender msg = .ok done ∧
        deployment.happen world event = done) ∨
      ((∀ done, deployment.executeTx event.contracts world sender msg ≠ .ok done) ∧
        deployment.happen world event = world) := by
  have unsigned : ¬(sender = deployment.bridge ∨
      event.contracts.isContract world.contracts sender = true) := by
    rw [not_or, event.conforms.isContract]
    change _ ∧ ¬(world.contracts.contractAt deployment.api sender).isSome = true
    rw [isSome_contractAt, noContract]
    exact ⟨account, by simp⟩
  unfold happen Chain.step
  rw [labelled]
  simp only [Chain.transaction, unsigned, if_false]
  cases deployment.executeTx event.contracts world sender msg with
  | ok done => exact .inl ⟨done, rfl, rfl⟩
  | error failure => exact .inr ⟨by simp, rfl⟩

/-- What is shipped is sent away by the bridge. -/
theorem Event.Ships.sends {event : deployment.Event}
    (ships : event.Ships world contract tokenId channelId) :
    ∃ sender request outgoing ledger,
      world.contracts.call deployment.api sender contract
        (.sendNft deployment.bridge.addr tokenId request) = .ok ledger ∧
      deployment.api.ibcOutgoing.fromBinary request = .ok outgoing ∧
      outgoing.channelId = channelId ∧
      deployment.Sends ⟨contract, tokenId, sender.addr, request⟩
        { world with contracts := ledger } (deployment.happen world event) := by
  rcases ships with ⟨sender, request, outgoing, labelled, account, noContract, decoded, named,
    final, done⟩
  rcases happen_execute labelled account noContract with
    ⟨other, doneAgain, happened⟩ | ⟨failed, -⟩
  · rw [doneAgain] at done
    cases done
    rw [happened]
    cases executeTx_cases event.conforms account doneAgain with
    | called different call silent => cases silent
    | sent different call running noProxy sends =>
        exact ⟨sender, request, outgoing, _, call, decoded, named, sends⟩
  · exact absurd done (failed final)

theorem OnChannel.step (onChannel : deployment.OnChannel world)
    (held : deployment.Held codeId world) (noProxy : world.storage.proxy = none)
    {event : deployment.Event} (apart : deployment.SendsApart world event) :
    deployment.OnChannel (deployment.happen world event) := by
  have stepped := held.stepped event
  have executes := fun sender msg => @happen_execute deployment world event sender msg
  unfold SendsApart Event.Ships at apart
  generalize deployment.happen world event = after at stepped executes
  generalize event.label = label at stepped executes apart
  cases stepped with
  | stayed => exact onChannel
  | executed account noContract executed =>
      cases executed with
      | called => exact onChannel
      | instantiated => exact onChannel
      | @sent _ tokenId request _ _ _ _ _ _ sends =>
          apply onChannel.sends held _ sends
          intro outgoing decoded
          apply apart _ tokenId
          refine ⟨_, request, outgoing, rfl, account, noContract, decoded, rfl, ?_⟩
          rcases executes _ _ rfl account noContract with ⟨done, succeeded, -⟩ | ⟨-, same⟩
          · exact ⟨done, succeeded⟩
          · rcases sends with ⟨_, _, _, _, _, -, -, -, -, -, rfl⟩
            have longer := congrArg (fun world => world.sends.length) same
            simp at longer
      | forwarded named _ allowed sends =>
          exact absurd sends (Executed.no_forward noContract noProxy named allowed)
      | paused pause =>
          simp only [Storage.pause, bind_eq_ok, ite_error_eq_ok, pure_eq_ok] at pause
          rcases pause with ⟨-, -, -, rfl⟩
          exact onChannel
  | received _ _ received =>
      apply onChannel.of_less
      · intro packet member
        rw [received.same] at member
        exact member
      · intro key value sent
        rw [received.outgoing, selectActions_eq] at sent
        exact of_outgoing_selectFrom sent
  | failed =>
      apply onChannel.of_less
      · exact fun _ => id
      · intro key value sent
        simp only [Deployment.noted, selectActions_eq] at sent
        exact of_outgoing_selectFrom sent
  | refunded _ _ refunds =>
      rcases refunds with ⟨data, source, ledger, -, -, -, -, rfl⟩
      apply onChannel.of_less
      · exact fun _ => List.mem_of_mem_erase
      · exact fun key value sent => StoreMap.of_foldl_remove sent
  | burned _ _ burns =>
      rcases burns with ⟨data, source, burned, ledger, -, -, -, -, rfl⟩
      apply onChannel.of_less
      · exact fun _ => List.mem_of_mem_erase
      · exact fun key value sent => sent
  | migrated migrated =>
      simp only [migrate, Storage.setPauser, bind_eq_ok, mapError_eq_ok, pure_eq_ok,
        Prod.mk.injEq] at migrated
      rcases migrated with ⟨_, -, _, ⟨_, -, rfl⟩, rfl, -⟩
      exact onChannel

/-- No step on another channel unlocks an NFT in escrow, or changes it or its outgoing
entry. -/
def EscrowIsolated (deployment : Deployment) (world : World Ledger) : Prop :=
  ∀ (event : deployment.Event) (other : String), event.label.channel = some other →
    ∀ classId tokenId channelId contract token,
      deployment.InEscrow world classId tokenId channelId contract token →
      other ≠ channelId →
      ¬deployment.Unlocks world classId tokenId event.label ∧
        deployment.InEscrow (deployment.happen world event) classId tokenId channelId contract
          token

/-- What holds along runs in which sends stay apart. -/
structure Isolated (deployment : Deployment) (codeId : Nat) (world : World Ledger) : Prop
    extends deployment.Held codeId world where
  noProxy : world.storage.proxy = none
  onChannel : deployment.OnChannel world

theorem Isolated.step (isolated : deployment.Isolated codeId world) (event : deployment.Event)
    (allowed : event.label.Direct ∧ deployment.SendsApart world event) :
    deployment.Isolated codeId (deployment.happen world event) := by
  have held := isolated.toHeld
  have stepped := held.stepped event
  exact ⟨held.step event, stepped.noProxy held allowed.1 isolated.noProxy,
    isolated.onChannel.step held isolated.noProxy allowed.2⟩

theorem Isolated.escrowIsolated (isolated : deployment.Isolated codeId world) :
    deployment.EscrowIsolated world := by
  intro event other on classId tokenId channelId contract token escrow different
  have staying := isolated.onChannel.not_unlocks escrow on different
  constructor
  · exact staying
  · exact escrow.kept isolated.toHeld (isolated.toHeld.stepped event) on staying

/-- A send over one channel, while an unsettled packet on another carries the NFT, lets the
timeout of that packet reach into the escrow. -/
theorem EscrowIsolated.sendsApart (held : deployment.Held codeId world)
    {event : deployment.Event}
    (isolated : deployment.EscrowIsolated (deployment.happen world event)) :
    deployment.SendsApart world event := by
  intro contract tokenId channelId ships packet pending carried
  by_contra different
  rcases ships.sends with ⟨sender, request, outgoing, ledger, call, decoded, rfl, sends⟩
  rcases sends with ⟨again, storage, cls, token, dest, -, decodedAgain, selected, present, -,
    happened⟩
  rw [decoded] at decodedAgain
  cases decodedAgain
  have found := held.sound.registry.classFound selected
  rw [happened] at isolated
  rw [Ledger.call_sendNft] at call
  rcases Ledger.call_transferNft call with ⟨info, before, -, -, -, -, became⟩
  have escrow : deployment.InEscrow (deployment.happen world event) cls.id tokenId
      outgoing.channelId contract token := by
    rw [happened]
    constructor
    · exact found.registered
    · exact present
    · simp only [became.nfts, StoreMap.save_self] at present
      cases present
      rfl
    · exact StoreMap.save_self _ _ _
  rw [happened] at escrow
  have staying := (isolated (.of _ (.timeout packet)) packet.src.channelId rfl _ _ _ _ _ escrow
    different).1
  apply staying
  rw [found.id]
  exact ⟨List.mem_append_left _ pending, carried⟩

end Deployment

/-- Channels leave each other's escrow alone in every state of a run if and only if no NFT is
sent in it while an unsettled packet on another channel carries it. -/
theorem escrow_isolated_of_run {deployment : Deployment} {msg : InstantiateMsg}
    {ledger : Ledger} {genesis : World Ledger} (unused : deployment.Unused ledger)
    (instantiated : deployment.instantiateTx deployment.contracts msg ledger = .ok genesis)
    {events : List deployment.Event} (direct : ∀ event ∈ events, event.label.Direct) :
    Along deployment.happen deployment.EscrowIsolated genesis events ↔
      Follows deployment.happen deployment.SendsApart genesis events := by
  have held := Deployment.Held.instantiateTx (.refl _) unused instantiated
  constructor
  · intro along
    exact along.follows (fun world event held => held.step event)
      (fun world event held isolated => isolated.sendsApart held) held
  · intro follows
    rcases Deployment.instantiateTx_eq_ok (.refl _) instantiated with ⟨-, pauser, rfl⟩
    have start : deployment.Isolated msg.cw721BaseCodeId _ := ⟨held, rfl, by
      intro packet member
      cases member⟩
    have along := (follows.and direct).along
      (fun world event isolated allowed => isolated.step event allowed) start
    exact along.mono fun world isolated => isolated.escrowIsolated

theorem escrow_isolated_of_sample :
    Sample.chain.InEscrow (Sample.run Sample.sent) ⟨"contract0"⟩ ⟨"gem"⟩ "channel-0"
        ⟨"contract0"⟩ ⟨⟨"bridge"⟩, [], none⟩ ∧
      Sample.chain.EscrowIsolated (Sample.run Sample.sent) := by
  have nothingSent : ∀ labels ∈ [[], Sample.sent.take 1, Sample.sent.take 2],
      (Sample.run labels).commitments = [] := by
    decide +kernel
  have apart : ∀ labels ∈ [[], Sample.sent.take 1, Sample.sent.take 2], ∀ event,
      Sample.chain.SendsApart (Sample.run labels) event := by
    intro labels early event contract tokenId channelId _ packet member
    rw [nothingSent labels early] at member
    cases member
  have follows : Follows Sample.chain.happen Sample.chain.SendsApart Sample.genesis
      (Sample.sent.map (.of Sample.chain)) :=
    ⟨apart [] (by simp) _, apart (Sample.sent.take 1) (by simp) _,
      apart (Sample.sent.take 2) (by simp) _, trivial⟩
  have direct : ∀ event ∈ Sample.sent.map (Deployment.Event.of Sample.chain),
      event.label.Direct := by
    simp [Sample.sent, Sample.minted, Sample.sendGem, Deployment.Event.of, Chain.Label.Direct]
  have along := (escrow_isolated_of_run (Sample.chain.unused_empty) Sample.instantiateTx_genesis
    direct).mpr follows
  constructor
  · have observed :
        (Sample.run Sample.sent).storage.classIdToNftContract ⟨"contract0"⟩ =
            some ⟨"contract0"⟩ ∧
          (Sample.run Sample.sent).contracts.nfts Sample.api (⟨"contract0"⟩, ⟨"gem"⟩) =
            some ⟨⟨"bridge"⟩, [], none⟩ ∧
          (Sample.run Sample.sent).storage.outgoingClassTokenToChannel
            (⟨"contract0"⟩, ⟨"gem"⟩) = some "channel-0" := by
      decide +kernel
    exact ⟨observed.1, observed.2.1, rfl, observed.2.2⟩
  · rw [← List.append_nil (Sample.sent.map _)] at along
    have final := along.of_prefix
    rw [Deployment.foldl_happen] at final
    exact final

namespace Sample

/-- The packet with which Alice sends her NFT over `channel-0`. -/
def firstPacket : IbcPacket where
  data := api.packetData.toBinary
    ⟨⟨"contract0"⟩, none, none, [⟨"gem"⟩], none, none, "alice", "bob", none⟩
  src := ⟨"wasm.bridge", "channel-0"⟩
  dest := ⟨"wasm.east", "channel-7"⟩
  sequence := 0
  timeout := ⟨none, some 5⟩

/-- The counterparty of `channel-0` claims that the NFT is on its way back. -/
def earlyReturn : IbcPacket where
  data := api.packetData.toBinary
    ⟨⟨"wasm.east/channel-7/contract0"⟩, none, none, [⟨"gem"⟩], none, none, "bob", "alice", none⟩
  src := ⟨"wasm.east", "channel-7"⟩
  dest := ⟨"wasm.bridge", "channel-0"⟩
  sequence := 0
  timeout := ⟨none, some 5⟩

/-- Alice has her NFT back and sends it over `channel-1`, with the first packet still
unsettled. -/
def resent : List Chain.Label :=
  sent ++ [.receive earlyReturn, sendGem "alice" "bob" "channel-1"]

end Sample

/-- The first packet times out on `channel-0` and takes the NFT that is in escrow for
`channel-1`. -/
theorem escrow_breached_of_sample :
    ¬Sample.chain.EscrowIsolated (Sample.run Sample.resent) := by
  have observed :
      (Sample.run Sample.resent).storage.classIdToNftContract ⟨"contract0"⟩ =
          some ⟨"contract0"⟩ ∧
        (Sample.run Sample.resent).contracts.nfts Sample.api (⟨"contract0"⟩, ⟨"gem"⟩) =
          some ⟨⟨"bridge"⟩, [], none⟩ ∧
        (Sample.run Sample.resent).storage.outgoingClassTokenToChannel
          (⟨"contract0"⟩, ⟨"gem"⟩) = some "channel-1" ∧
        (Sample.chain.happen (Sample.run Sample.resent)
          (.of _ (.timeout Sample.firstPacket))).storage.outgoingClassTokenToChannel
            (⟨"contract0"⟩, ⟨"gem"⟩) = none := by
    decide +kernel
  rcases observed with ⟨registered, present, outgoing, gone⟩
  intro isolated
  have kept := (isolated (.of _ (.timeout Sample.firstPacket)) "channel-0" rfl _ _ _ _ _
    ⟨registered, present, rfl, outgoing⟩ (by decide)).2.outgoing
  rw [gone] at kept
  cases kept

end Ics721
