import Ics721.Chain.Sample
import Ics721.Receive.Transaction

/-!
# What a failed packet leaves behind

The submessage of a packet is rolled back when it fails; what the fold over the tokens of
the packet wrote before is not.  A failed packet leaves the storage alone exactly if the
fold had nothing to write.
-/

namespace Ics721

open Library

variable {σ : Type}

/-! ## Packets for which the fold writes nothing -/

/-- A token for which the fold writes nothing: it is not redeemed, and the incoming entry
of its voucher is there already. -/
def AlreadyNoted (dest : IbcEndpoint) (classId : ClassId) (localClassId : Option String)
    (storage : Storage) (tokenId : TokenId) : Prop :=
  (∀ localClass : ClassId, localClassId = some localClass.id →
    storage.outgoingClassTokenToChannel (localClass, tokenId) ≠ some dest.channelId) ∧
  storage.incomingClassTokenToChannel (voucherClassId dest classId, tokenId) =
    some dest.channelId

theorem chooseAction_eq_self {dest : IbcEndpoint} {classId : ClassId}
    {localClassId : Option String} {storage : Storage} {item : Incoming}
    (noted : AlreadyNoted dest classId localClassId storage item.1.1) :
    (chooseAction dest classId localClassId storage item).1 = storage := by
  rcases chooseAction_cases dest classId localClassId storage item with
    ⟨localClass, popped, sent, -⟩ | ⟨-, chosen⟩
  · exact absurd sent (noted.1 localClass popped)
  · rw [chosen, StoreMap.save_eq_self noted.2]

theorem selectFrom_eq_self_iff {dest : IbcEndpoint} {classId : ClassId}
    {localClassId : Option String} {storage : Storage} {items : List Incoming} :
    (selectFrom dest classId localClassId storage items).1 = storage ↔
      ∀ item ∈ items, AlreadyNoted dest classId localClassId storage item.1.1 := by
  constructor
  · intro same item member
    have staying : ∀ localClass : ClassId, localClassId = some localClass.id →
        storage.outgoingClassTokenToChannel (localClass, item.1.1) ≠ some dest.channelId := by
      intro localClass popped sent
      have gone : (selectFrom dest classId localClassId storage
          items).1.outgoingClassTokenToChannel (localClass, item.1.1) = none :=
        outgoing_selectFrom_of_mem member popped sent
      rw [same, sent] at gone
      cases gone
    constructor
    · exact staying
    · have entered : (selectFrom dest classId localClassId storage
          items).1.incomingClassTokenToChannel (voucherClassId dest classId, item.1.1) =
            some dest.channelId :=
        incoming_selectFrom_of_mem member staying
      rwa [same] at entered
  · intro noted
    induction items with
    | nil => rfl
    | cons item items ih =>
        simp only [selectFrom]
        rw [chooseAction_eq_self (noted item List.mem_cons_self)]
        exact ih fun other member => noted other (List.mem_cons_of_mem _ member)

/-- The bridge is paused or rejects the contents of the packet, or the fold has nothing to
write for any of its tokens. -/
def WritesNothing (api : Api) (storage : Storage) (packet : IbcPacket) : Prop :=
  storage.paused = true ∨
    ∀ data, api.packetData.fromBinary packet.data = .ok data → data.validate = .ok () →
      api.addrValid data.receiver = true → ∀ tokenId ∈ data.tokenIds,
        AlreadyNoted packet.dest data.classId (tryPopSourcePrefix packet.src data.classId.id)
          storage tokenId

theorem writesNothing_iff {api : Api} {storage : Storage} {packet : IbcPacket} :
    WritesNothing api storage packet ↔
      ∀ data receiver, checkIbcPacket api storage packet = .ok (data, receiver) →
        (selectActions packet data storage).1 = storage := by
  have each : ∀ {data : NonFungibleTokenPacketData}, data.validate = .ok () →
      ((selectActions packet data storage).1 = storage ↔ ∀ tokenId ∈ data.tokenIds,
        AlreadyNoted packet.dest data.classId (tryPopSourcePrefix packet.src data.classId.id)
          storage tokenId) := by
    intro data valid
    rw [selectActions_eq, selectFrom_eq_self_iff, ← data.map_incoming valid]
    simp only [List.mem_map, forall_exists_index, and_imp, forall_apply_eq_imp_iff₂]
  constructor
  · intro nothing data receiver checked
    rcases checkIbcPacket_eq_ok.mp checked with ⟨running, decoded, valid, known, -⟩
    rcases nothing with paused | noted
    · rw [running] at paused
      cases paused
    · exact (each valid).mpr (noted data decoded valid known)
  · intro same
    cases paused : storage.paused with
    | true => exact .inl paused
    | false =>
        right
        intro data decoded valid known
        apply (each valid).mp
        exact same data ⟨data.receiver⟩
          (checkIbcPacket_eq_ok.mpr ⟨paused, decoded, valid, known, rfl⟩)

/-! ## Contracts of which every call fails -/

/-- Contracts of which every call fails. -/
def Contracts.failing : Contracts σ where
  execute _ _ _ _ _ := .error "failed"
  instantiate _ _ _ _ _ := .error "failed"
  reply _ _ _ _ _ := .error "failed"
  nftInfo _ _ _ := .error (.genericErr "failed")
  contractInfo _ _ := .error (.genericErr "failed")
  isContract _ _ := false

namespace Chain

variable {chain : Chain} {world : World σ} {depth : Nat} {data : Option ReplyData}
variable {result : World σ × Option ReplyData} {receiver : String}

theorem dispatch_failing {contract : Addr} {msg : Cw721ExecuteMsg}
    {rest : List (SubMsg CosmosMsg)} :
    (chain.machine .failing).dispatch depth world chain.bridge
      ((WasmMsg.execute contract (.cw721 msg)).sub :: rest) data ≠ .ok result := by
  intro ran
  cases depth with
  | zero =>
      rw [Machine.dispatch_zero_cons] at ran
      cases ran
  | succ depth =>
      rw [Machine.dispatch_succ_cons, bind_eq_ok] at ran
      rcases ran with ⟨middle, first, -⟩
      rw [Machine.runOne_never rfl] at first
      by_cases self : contract = chain.bridge
      · simp [machine, WasmMsg.sub, CosmosMsg.sub, executeMsg, self] at first
      · simp [machine, WasmMsg.sub, CosmosMsg.sub, executeMsg, self, Contracts.failing] at first

/-- A redemption of some tokens fails. -/
theorem runOne_redeem_failing {redeem : VoucherRedemption} (nonempty : redeem.tokenIds ≠ []) :
    (chain.machine .failing).runOne ((chain.machine .failing).dispatch depth) chain.bridge
      (world, data) (redeem.intoWasmMsg chain.bridge receiver).sub ≠ .ok result := by
  intro ran
  rw [VoucherRedemption.intoWasmMsg, runOne_callback] at ran
  simp only [executeCallback, ne_eq, not_true_eq_false, if_false, callbackRedeemVouchers,
    bind_eq_ok, mapError_eq_ok, pure_eq_ok, Prod.mk.injEq] at ran
  rcases ran with ⟨-, _, _, inner, ⟨contract, -, owner, -, rfl, rfl⟩, ran, -⟩
  cases tokens : redeem.tokenIds with
  | nil => exact nonempty tokens
  | cons tokenId tokenIds =>
      simp only [tokens, List.map_cons] at ran
      exact dispatch_failing ran

/-- So does a creation. -/
theorem runOne_create_failing {create : VoucherCreation} (nonempty : create.tokens ≠ []) :
    (chain.machine .failing).runOne ((chain.machine .failing).dispatch depth) chain.bridge
      (world, data) (create.intoWasmMsg chain.bridge receiver).sub ≠ .ok result := by
  have minting : ∀ {depth : Nat} {world : World σ} {data : Option ReplyData}
      {result : World σ × Option ReplyData},
      (chain.machine .failing).runOne ((chain.machine .failing).dispatch depth) chain.bridge
        (world, data) (WasmMsg.execute chain.bridge
          (.bridge (.callback (.mint create.cls.id receiver create.tokens)))).sub ≠
        .ok result := by
    intro depth world data result ran
    rw [runOne_callback] at ran
    simp only [executeCallback, ne_eq, not_true_eq_false, if_false, callbackMint, bind_eq_ok,
      mapError_eq_ok, pure_eq_ok, Prod.mk.injEq] at ran
    rcases ran with ⟨-, _, _, inner, ⟨owner, -, contract, -, rfl, rfl⟩, ran, -⟩
    cases tokens : create.tokens with
    | nil => exact nonempty tokens
    | cons token rest =>
        simp only [tokens, List.map_cons] at ran
        exact dispatch_failing ran
  intro ran
  rw [VoucherCreation.intoWasmMsg, runOne_callback] at ran
  simp only [executeCallback, ne_eq, not_true_eq_false, if_false, callbackCreateVouchers,
    Except.ok.injEq, Prod.mk.injEq] at ran
  rcases ran with ⟨-, _, _, inner, ⟨rfl, rfl⟩, ran, -⟩
  cases depth with
  | zero =>
      split at ran
      · cases ran
      · cases ran
  | succ depth =>
      split at ran
      · rw [List.nil_append, Machine.dispatch_succ_cons, bind_eq_ok] at ran
        rcases ran with ⟨middle, first, -⟩
        exact minting first
      · rw [List.singleton_append, Machine.dispatch_succ_cons, bind_eq_ok] at ran
        rcases ran with ⟨middle, first, -⟩
        simp [Machine.runOne, machine, executeMsg, Contracts.failing, ReplyOn.onError]
          at first

/-- The message of an aggregator that has collected tokens fails. -/
theorem runOne_message_failing {aggregator : ActionAggregator} {owner : Addr}
    (redeems : ∀ redeem, aggregator.redemption = some redeem → redeem.tokenIds ≠ [])
    (creates : ∀ create, aggregator.creation = some create → create.tokens ≠ [])
    (present : aggregator.redemption = none → aggregator.creation ≠ none) :
    (chain.machine .failing).runOne ((chain.machine .failing).dispatch depth) chain.bridge
      (world, data) (aggregator.message chain.bridge owner).sub ≠ .ok result := by
  intro ran
  cases redemption : aggregator.redemption with
  | none =>
      cases creation : aggregator.creation with
      | none => exact present redemption creation
      | some create =>
          simp only [ActionAggregator.message, ActionAggregator.operands, redemption, creation,
            Option.map_none, Option.map_some, Option.toList_none, Option.toList_some,
            List.nil_append] at ran
          exact runOne_create_failing (creates create creation) ran
  | some redeem =>
      have failing := redeems redeem redemption
      cases creation : aggregator.creation with
      | none =>
          simp only [ActionAggregator.message, ActionAggregator.operands, redemption, creation,
            Option.map_none, Option.map_some, Option.toList_none, Option.toList_some,
            List.append_nil] at ran
          exact runOne_redeem_failing failing ran
      | some create =>
          simp only [ActionAggregator.message, ActionAggregator.operands, redemption, creation,
            Option.map_some, Option.toList_some, List.singleton_append, runOne_callback,
            executeCallback, ne_eq, not_true_eq_false, if_false, Except.ok.injEq,
            Prod.mk.injEq] at ran
          rcases ran with ⟨-, _, _, inner, ⟨rfl, rfl⟩, ran, -⟩
          cases depth with
          | zero => cases ran
          | succ depth =>
              rw [List.map_cons, Machine.dispatch_succ_cons, bind_eq_ok] at ran
              rcases ran with ⟨middle, first, -⟩
              exact runOne_redeem_failing failing first

/-- A packet with tokens fails. -/
theorem deliver_failing (chain : Chain) (world : World σ) (storage : Storage)
    (packet : IbcPacket) {contents : NonFungibleTokenPacketData} (owner : Addr)
    (tokens : contents.incoming ≠ []) :
    ∃ err, chain.deliver .failing world
      (chain.packetMessage storage packet contents owner) = .error err := by
  cases delivered : chain.deliver .failing world
      (chain.packetMessage storage packet contents owner) with
  | error err => exact ⟨err, rfl⟩
  | ok outcome =>
      exfalso
      rcases outcome with ⟨after, reply⟩
      have ran := deliver_iff.mp ⟨reply, delivered⟩
      have uniform := uniform_selectActions packet contents storage
      have redemption := contents.aggregate_redemption uniform
      have creation := contents.aggregate_creation uniform
      apply runOne_message_failing _ _ _ ran
      · intro redeem held
        rw [redemption] at held
        split at held
        next => cases held
        next nonempty =>
          cases held
          exact nonempty
      · intro create held
        rw [creation] at held
        split at held
        next => cases held
        next nonempty =>
          cases held
          exact nonempty
      · intro noRedemption noCreation
        rw [redemption] at noRedemption
        rw [creation] at noCreation
        have none : (selectActions packet contents storage).2 = [] := by
          cases actions : (selectActions packet contents storage).2 with
          | nil => rfl
          | cons action rest =>
              cases action with
              | redemption classId tokenId =>
                  simp [actions, redeemedIds, Action.redeemed] at noRedemption
              | creation classId token =>
                  simp [actions, createdTokens, Action.created] at noCreation
        have matching := forall₂_selectFrom packet.dest contents.classId
          (tryPopSourcePrefix packet.src contents.classId.id) storage contents.incoming
        rw [← selectActions_eq, none] at matching
        cases same : contents.incoming with
        | nil => exact tokens same
        | cons item items =>
            rw [same] at matching
            cases matching

end Chain

/-! ## Failed packets -/

/-- Whatever the other contracts do: if the packet is answered with an error, the storage
of the bridge is what it was. -/
def FailureRestores (chain : Chain) (world : World σ) (packet : IbcPacket) : Prop :=
  ∀ (contracts : Contracts σ) (after : World σ) (ack : Binary),
    chain.receiveTx contracts world packet = .ok (after, ack) →
    tryGetAckError chain.api ack ≠ none → after.storage = world.storage

/-- A failed packet leaves the storage alone exactly if the fold over its tokens has nothing
to write. -/
theorem failure_restores_iff {chain : Chain} {world : World σ} {packet : IbcPacket} :
    FailureRestores chain world packet ↔ WritesNothing chain.api world.storage packet := by
  rw [writesNothing_iff]
  constructor
  · intro restores data receiver checked
    rcases checkIbcPacket_eq_ok.mp checked with ⟨-, -, valid, -, -⟩
    have tokens : data.incoming ≠ [] := by
      intro none
      have ids := data.map_incoming valid
      rw [none] at ids
      exact (NonFungibleTokenPacketData.validate_eq_ok.mp valid).2.2.2.1 ids.symm
    rcases chain.deliver_failing
      { world with storage := (selectActions packet data world.storage).1 } world.storage packet
      receiver tokens with ⟨err, failed⟩
    have received : chain.receiveTx .failing world packet = _ := Chain.receiveTx_eq world packet
    simp only [checked, failed] at received
    apply restores .failing _ _ received
    simp [tryGetAckError_ackFail]
  · intro same contracts after ack received failed
    rw [Chain.receiveTx_eq] at received
    cases checked : checkIbcPacket chain.api world.storage packet with
    | error error =>
        simp only [checked, Except.ok.injEq, Prod.mk.injEq] at received
        rw [← received.1]
    | ok outcome =>
        rcases outcome with ⟨data, receiver⟩
        simp only [checked] at received
        split at received
        next final reply delivered =>
          simp only [Except.ok.injEq, Prod.mk.injEq] at received
          rw [← received.2] at failed
          exact absurd (tryGetAckError_ackSuccess chain.api) failed
        next err undelivered =>
          simp only [Except.ok.injEq, Prod.mk.injEq] at received
          rw [← received.1]
          exact same data receiver checked

/-- The counterparty of `channel-0` returns Alice's NFT together with two new tokens of the
same ID. -/
def Sample.mixedPacket : IbcPacket where
  data := Sample.api.packetData.toBinary
    ⟨⟨"wasm.east/channel-7/contract0"⟩, none, none, [⟨"gem"⟩, ⟨"copy"⟩, ⟨"copy"⟩], none, none,
      "dora", "alice", none⟩
  src := ⟨"wasm.east", "channel-7"⟩
  dest := ⟨"wasm.bridge", "channel-0"⟩
  sequence := 0
  timeout := ⟨none, some 5⟩

/-- The second mint fails and the packet is answered with an error, but the outgoing entry
of Alice's NFT is gone. -/
theorem failure_forgets_of_sample :
    ¬FailureRestores Sample.chain.toChain (Sample.run Sample.sent) Sample.mixedPacket := by
  have before : (Sample.run Sample.sent).storage.outgoingClassTokenToChannel
      (⟨"contract0"⟩, ⟨"gem"⟩) = some "channel-0" := by
    decide +kernel
  have received : (Sample.chain.receiveTx Sample.chain.contracts (Sample.run Sample.sent)
      Sample.mixedPacket).map (fun outcome => (tryGetAckError Sample.api outcome.2,
        outcome.1.storage.outgoingClassTokenToChannel (⟨"contract0"⟩, ⟨"gem"⟩))) =
      .ok (some "token_id already claimed", none) := by
    decide +kernel
  intro restores
  rcases map_eq_ok.mp received with ⟨⟨after, ack⟩, outcome, observed⟩
  have failed : tryGetAckError Sample.api ack = some "token_id already claimed" :=
    congrArg Prod.fst observed
  have gone : after.storage.outgoingClassTokenToChannel (⟨"contract0"⟩, ⟨"gem"⟩) = none :=
    congrArg Prod.snd observed
  have same := restores _ after ack outcome (by
    change tryGetAckError Sample.api ack ≠ none
    simp [failed])
  rw [same, before] at gone
  cases gone

end Ics721
