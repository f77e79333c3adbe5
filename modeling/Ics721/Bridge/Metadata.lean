import Ics721.Bridge.Emission
import Ics721.Chain.Sample
import Ics721.Cw721.Conformance
import Ics721.Receive.Transaction

/-!
# The metadata of voucher classes

The record of a voucher class is written by the packets that create vouchers of it, and by
nothing else.  Each of them overwrites what is there, so that the record is that of the packet
that was delivered last.
-/

namespace Ics721

open Library

variable {σ : Type}

section Rules

variable {chain : Chain} {contracts : Contracts σ} {codeId : Nat} {voucher : ClassId}
variable {record : Option Class} {built : CallbackMsg → Prop}

/-- What the bridge creates has the given record, if it is of the class at all. -/
def Confirms (voucher : ClassId) (record : Option Class) (built : CallbackMsg → Prop) : Prop :=
  ∀ receiver create, built (.createVouchers receiver create) → create.cls.id = voucher →
    record = some create.cls

/-- NFTs that are sent belong to classes that have a record, or to new local ones. -/
theorem receiveNft_record (lawful : Lawful chain contracts codeId)
    (slash : '/' ∈ voucher.id.toList) {state : σ} {storage after : Storage} {sent : SendRecord}
    {response : Response}
    (received : receiveNft chain.api (contracts.querier state) storage sent.contract sent.tokenId
      sent.sender sent.msg = .ok (after, response)) :
    after.classIdToClass voucher = storage.classIdToClass voucher := by
  simp only [receiveNft, bind_eq_ok, mapError_eq_ok, pure_eq_ok, Prod.mk.injEq] at received
  rcases received with ⟨sender, -, outgoing, -, ⟨registered, cls⟩, selected, uri, queried, rfl, -⟩
  unfold classForContract at selected
  split at selected
  next =>
    simp only [bind_eq_ok, pure_eq_ok, Prod.mk.injEq] at selected
    rcases selected with ⟨_, -, rfl, -⟩
    rfl
  next =>
    simp only [Except.ok.injEq, Prod.mk.injEq] at selected
    rcases selected with ⟨rfl, -⟩
    apply StoreMap.save_of_ne
    intro same
    have valid := lawful.contract_valid (lawful.nftInfo_contract queried)
    subst same
    exact chain.api.valid_no_slash _ valid slash

theorem executeCallback_record (confirms : Confirms voucher record built) {storage after : Storage}
    {callback : CallbackMsg} {response : Response}
    (kept : storage.classIdToClass voucher = record) (permitted : built callback)
    (executed : executeCallback chain.api chain.bridge storage chain.bridge callback =
      .ok (after, response)) :
    after.classIdToClass voucher = record := by
  simp only [executeCallback, ne_eq, not_true_eq_false, if_false] at executed
  cases callback with
  | createVouchers receiver create =>
      simp only [callbackCreateVouchers, Except.ok.injEq, Prod.mk.injEq] at executed
      rcases executed with ⟨rfl, -⟩
      by_cases same : create.cls.id = voucher
      · rw [confirms receiver create permitted same, ← same]
        exact StoreMap.save_self _ _ _
      · rw [← kept]
        exact StoreMap.save_of_ne (Ne.symm same)
  | redeemVouchers receiver redeem =>
      simp only [callbackRedeemVouchers, bind_eq_ok, pure_eq_ok, Prod.mk.injEq] at executed
      rcases executed with ⟨_, -, _, -, rfl, -⟩
      exact kept
  | mint classId receiver tokens =>
      simp only [callbackMint, bind_eq_ok, pure_eq_ok, Prod.mk.injEq] at executed
      rcases executed with ⟨_, -, _, -, rfl, -⟩
      exact kept
  | conjunction operands =>
      simp only [Except.ok.injEq, Prod.mk.injEq] at executed
      rcases executed with ⟨rfl, -⟩
      exact kept

/-- The record of a voucher class stays what it is. -/
def recordRules (lawful : Lawful chain contracts codeId) (slash : '/' ∈ voucher.id.toList)
    (confirms : Confirms voucher record built) (closed : Closed chain.api chain.bridge built) :
    BridgeRules chain contracts where
  holds world := world.storage.classIdToClass voucher = record
  grows _ _ := True
  own _ sub := Own chain.bridge built sub ∨
    ∃ channelId data timeout, sub = (CosmosMsg.ibc (.sendPacket channelId data timeout)).sub
  refl _ := trivial
  trans _ _ := trivial
  own_kept own _ := own
  called holds _ _ _ _ := ⟨holds, trivial⟩
  instantiated holds _ _ _ := ⟨holds, trivial⟩
  answered holds _ _ := ⟨holds, trivial⟩
  sent holds _ _ _ received := by
    refine ⟨(receiveNft_record lawful slash received).trans holds, trivial, ?_⟩
    rcases receiveNft_messages received with ⟨channelId, data, timeout, messages⟩
    intro sub member
    rw [messages, List.mem_singleton] at member
    exact .inr ⟨channelId, data, timeout, member⟩
  packet holds _ _ accepted := by
    unfold Chain.sendPacket at accepted
    split at accepted
    next => cases accepted
    next =>
      cases accepted
      exact ⟨holds, trivial⟩
  paused holds _ paused := by
    simp only [Storage.pause, bind_eq_ok, ite_error_eq_ok, pure_eq_ok] at paused
    rcases paused with ⟨-, -, -, rfl⟩
    exact ⟨holds, trivial⟩
  callback holds _ own content executed := by
    rcases own with own | ⟨_, _, _, rfl⟩
    · have permitted := own.of_callback content
      refine ⟨executeCallback_record confirms holds permitted executed, trivial, ?_⟩
      intro sub member
      exact .inl (closed _ _ _ _ permitted executed sub member)
    · cases content
  replied _ _ holds _ _ _ replied := by
    refine ⟨?_, trivial, by simp [reply_messages replied]⟩
    simp only [reply_records replied]
    exact holds
  caught _ holds _ replied := by
    refine ⟨?_, trivial, by simp [reply_messages replied]⟩
    simp only [reply_records replied]
    exact holds

/-! ## Creation -/

variable {world : World σ} {aggregator : ActionAggregator} {create : VoucherCreation}
variable {receiver : Addr}

theorem confirms_built (bridge receiver : Addr)
    (present : aggregator.creation = some create) :
    Confirms create.cls.id (some create.cls) (Built bridge receiver aggregator) := by
  intro owner other permitted _
  cases permitted with
  | create found =>
      rw [present] at found
      cases found
      rfl

/-- Whatever contracts do meanwhile, vouchers that are created leave their record behind. -/
theorem runOne_create_record (lawful : Lawful chain contracts codeId)
    (present : aggregator.creation = some create) (slash : '/' ∈ create.cls.id.id.toList)
    {depth : Nat} {data : Option ReplyData} {result : World σ × Option ReplyData}
    (ran : (chain.machine contracts).runOne ((chain.machine contracts).dispatch depth)
      chain.bridge (world, data) (WasmMsg.execute chain.bridge
        (.bridge (.callback (.createVouchers receiver.addr create)))).sub = .ok result) :
    result.1.storage.classIdToClass create.cls.id = some create.cls := by
  rcases Chain.runOne_callback.mp ran with ⟨-, storage, response, inner, executed, below_, rfl⟩
  have permitted : Built chain.bridge receiver aggregator (.createVouchers receiver.addr create) :=
    .create present
  have saved : storage.classIdToClass create.cls.id = some create.cls := by
    simp only [executeCallback, ne_eq, not_true_eq_false, if_false, callbackCreateVouchers,
      Except.ok.injEq, Prod.mk.injEq] at executed
    rcases executed with ⟨rfl, -⟩
    exact StoreMap.save_self _ _ _
  have own := Own.closed_built _ _ _ _ permitted executed
  let rules := recordRules lawful slash (confirms_built chain.bridge receiver present)
    Own.closed_built
  have ready : rules.Ready chain.bridge { world with storage := storage } response.messages :=
    ⟨saved, fun _ sub member => .inl (own sub member)⟩
  exact ((rules.toRules lawful).dispatch ready below_).1

/-- The vouchers of a packet are created last. -/
theorem deliver_create (present : aggregator.creation = some create) {after : World σ}
    {data : Option ReplyData}
    (delivered : chain.deliver contracts world (aggregator.message chain.bridge receiver) =
      .ok (after, data)) :
    ∃ redeems depth inner before,
      (∀ sub ∈ redeems, ∃ callback, Built chain.bridge receiver aggregator callback ∧
        sub = (WasmMsg.execute chain.bridge (.bridge (.callback callback))).sub) ∧
      (chain.machine contracts).dispatch depth world chain.bridge redeems none = .ok before ∧
      (chain.machine contracts).runOne ((chain.machine contracts).dispatch inner) chain.bridge
        before (WasmMsg.execute chain.bridge
          (.bridge (.callback (.createVouchers receiver.addr create)))).sub =
            .ok (after, none) := by
  have ran := Chain.deliver_iff.mp ⟨data, delivered⟩
  cases redeeming : aggregator.redemption with
  | none =>
      simp only [ActionAggregator.message, ActionAggregator.operands, present, redeeming] at ran
      exact ⟨[], 0, chain.depth, (world, none), by simp, by simp, ran⟩
  | some redemption =>
      simp only [ActionAggregator.message, ActionAggregator.operands, present, redeeming,
        Option.map_some, Option.toList_some, List.cons_append, List.nil_append] at ran
      rcases Chain.runOne_callback.mp ran with ⟨-, storage, response, inner, executed, rest, same⟩
      simp only [executeCallback, ne_eq, not_true_eq_false, if_false, Except.ok.injEq,
        Prod.mk.injEq] at executed
      rcases executed with ⟨rfl, rfl⟩
      simp only [Prod.mk.injEq, and_true] at same
      subst same
      cases nesting : chain.depth with
      | zero =>
          rw [nesting] at rest
          cases rest
      | succ depth =>
          rw [nesting] at rest
          simp only [List.map_cons, List.map_nil, Machine.dispatch_succ_cons,
            Machine.dispatch_nil, bind_eq_ok, Except.ok.injEq] at rest
          rcases rest with ⟨first, redeemed, second, created, rfl⟩
          have kept : second.2 = none := by
            rcases Chain.runOne_callback.mp created with ⟨-, _, _, _, -, -, rfl⟩
            rcases Chain.runOne_callback.mp redeemed with ⟨-, _, _, _, -, -, rfl⟩
            rfl
          refine ⟨[(redemption.intoWasmMsg chain.bridge receiver.addr).sub], depth + 1, depth,
            first, ?_, ?_, ?_⟩
          · intro sub member
            exact ⟨_, .redeem redeeming, List.mem_singleton.mp member⟩
          · rw [Machine.dispatch_succ_cons, bind_eq_ok]
            exact ⟨first, redeemed, by simp⟩
          · rw [← kept]
            exact created

/-- The record after a packet that created vouchers. -/
theorem deliver_record (lawful : Lawful chain contracts codeId)
    (present : aggregator.creation = some create) (slash : '/' ∈ create.cls.id.id.toList)
    {after : World σ} {data : Option ReplyData}
    (delivered : chain.deliver contracts world (aggregator.message chain.bridge receiver) =
      .ok (after, data)) :
    after.storage.classIdToClass create.cls.id = some create.cls := by
  rcases deliver_create present delivered with ⟨redeems, depth, inner, before, -, -, created⟩
  exact runOne_create_record lawful present slash created

/-- A packet that was acknowledged with success passed the checks and was delivered. -/
theorem delivered_of_success {packet : IbcPacket} {after : World σ}
    (done : chain.receiveTx contracts world packet = .ok (after, ackSuccess chain.api)) :
    ∃ data receiver reply, checkIbcPacket chain.api world.storage packet = .ok (data, receiver) ∧
      chain.deliver contracts { world with storage := (selectActions packet data world.storage).1 }
        (chain.packetMessage world.storage packet data receiver) = .ok (after, reply) := by
  have success := tryGetAckError_ackSuccess chain.api
  rw [Chain.receiveTx_eq] at done
  cases checked : checkIbcPacket chain.api world.storage packet with
  | error error =>
      simp only [checked, Except.ok.injEq, Prod.mk.injEq] at done
      rw [← done.2, tryGetAckError_ackFail] at success
      cases success
  | ok outcome =>
      rcases outcome with ⟨data, receiver⟩
      simp only [checked] at done
      split at done
      next result reply delivered =>
        simp only [Except.ok.injEq, Prod.mk.injEq] at done
        rcases done with ⟨rfl, -⟩
        exact ⟨data, receiver, reply, rfl, delivered⟩
      next err failed =>
        simp only [Except.ok.injEq, Prod.mk.injEq] at done
        rw [← done.2, tryGetAckError_ackFail] at success
        cases success

/-! ## Steps -/

/-- The record that a packet brings along. -/
def NonFungibleTokenPacketData.carriedClass (data : NonFungibleTokenPacketData)
    (dest : IbcEndpoint) : Class :=
  ⟨voucherClassId dest data.classId, data.classUri, data.classData⟩

theorem creation_record {packet : IbcPacket} {data : NonFungibleTokenPacketData}
    {storage : Storage}
    (present : (data.aggregate (selectActions packet data storage).2).creation = some create) :
    create.cls = data.carriedClass packet.dest := by
  rw [data.aggregate_creation (uniform_selectActions packet data storage)] at present
  split at present
  next => cases present
  next =>
    cases present
    rfl

theorem confirms_never (voucher : ClassId) (record : Option Class) :
    Confirms voucher record Never :=
  fun _ _ never => False.elim never

theorem settleTx_record (lawful : Lawful chain contracts codeId)
    (slash : '/' ∈ voucher.id.toList) {after : World σ} {packet : IbcPacket}
    {handler : Storage → IbcPacket → Except ContractError (Storage × Response)}
    (handled : ∀ storage response, handler world.storage packet = .ok (storage, response) →
      storage.classIdToClass = world.storage.classIdToClass ∧
        ∀ sub ∈ response.messages, Own chain.bridge Never sub)
    (done : chain.settleTx contracts world packet handler = .ok after) :
    after.storage.classIdToClass voucher = world.storage.classIdToClass voucher := by
  apply (recordRules lawful slash (confirms_never _ _) closed_never).settleTx lawful _ done
  intro storage response _ settled
  rcases handled storage response settled with ⟨records, own⟩
  exact ⟨congrFun records voucher, fun sub member => .inl (own sub member)⟩

theorem fail_record {storage after : Storage} {packet : IbcPacket} {error : String}
    {response : Response}
    (handled : handlePacketFail chain.api storage packet error = .ok (after, response)) :
    after.classIdToClass = storage.classIdToClass ∧
      ∀ sub ∈ response.messages, Own chain.bridge Never sub := by
  have own := @Own.handlePacketFail _ chain.bridge Never _ _ _ _ _ handled
  simp only [handlePacketFail, bind_eq_ok, pure_eq_ok, Prod.mk.injEq] at handled
  rcases handled with ⟨message, -, contract, -, sender, -, rfl, -⟩
  exact ⟨rfl, own⟩

theorem success_record {storage after : Storage} {packet : IbcPacket} {response : Response}
    (handled : handlePacketSuccess chain.api storage packet = .ok (after, response)) :
    after.classIdToClass = storage.classIdToClass ∧
      ∀ sub ∈ response.messages, Own chain.bridge Never sub := by
  have own := @Own.handlePacketSuccess _ chain.bridge Never _ _ _ _ handled
  simp only [handlePacketSuccess, bind_eq_ok, pure_eq_ok, Prod.mk.injEq] at handled
  rcases handled with ⟨message, -, contract, -, rfl, -⟩
  rcases foldl_burnNotice message.classId packet.src.channelId contract message.tokenIds
    storage [] with ⟨burned, -, -, folded⟩
  rw [folded]
  exact ⟨rfl, own⟩

/-- The label delivers no packet of the class. -/
def Unrelated (api : Api) (voucher : ClassId) (label : Chain.Label) : Prop :=
  ∀ packet data, label = .receive packet → api.packetData.fromBinary packet.data = .ok data →
    voucherClassId packet.dest data.classId ≠ voucher

/-- Packets of other classes leave the record alone. -/
theorem receiveTx_record (lawful : Lawful chain contracts codeId)
    (slash : '/' ∈ voucher.id.toList) {after : World σ} {packet : IbcPacket} {ack : Binary}
    (unrelated : Unrelated chain.api voucher (.receive packet))
    (done : chain.receiveTx contracts world packet = .ok (after, ack)) :
    after.storage.classIdToClass voucher = world.storage.classIdToClass voucher := by
  cases checked : checkIbcPacket chain.api world.storage packet with
  | error error =>
      rw [Chain.receiveTx_eq, checked] at done
      cases done
      rfl
  | ok outcome =>
      rcases outcome with ⟨data, receiver⟩
      have different := unrelated packet data rfl (checkIbcPacket_eq_ok.mp checked).2.1
      have folded := sameButTransit_selectFrom packet.dest data.classId
        (tryPopSourcePrefix packet.src data.classId.id) world.storage data.incoming
      rw [← selectActions_eq] at folded
      have confirms : Confirms voucher (world.storage.classIdToClass voucher)
          (Built chain.bridge receiver
            (data.aggregate (selectActions packet data world.storage).2)) := by
        intro owner create permitted same
        cases permitted with
        | create present =>
            rw [creation_record present] at same
            exact absurd same different
      have start : world.storage.classIdToClass voucher = world.storage.classIdToClass voucher :=
        rfl
      apply (recordRules lawful slash confirms Own.closed_built).receiveTx lawful start _ done
      intro other owner accepted
      rw [checked] at accepted
      cases accepted
      exact ⟨congrFun folded.records voucher, .inl (Own.intoSubmessage _ _ _)⟩

/-- Only packets of the class write its record. -/
theorem step_record (lawful : Lawful chain contracts codeId) (slash : '/' ∈ voucher.id.toList)
    {label : Chain.Label} (unrelated : Unrelated chain.api voucher label) :
    (chain.step contracts world label).storage.classIdToClass voucher =
      world.storage.classIdToClass voucher := by
  have done := transacted chain contracts world label
  generalize chain.step contracts world label = after at done
  cases done with
  | stayed => rfl
  | executed account done =>
      have start : world.storage.classIdToClass voucher = world.storage.classIdToClass voucher :=
        rfl
      exact ((recordRules lawful slash (confirms_never _ _) closed_never).executeTx lawful account
        start done).1
  | received _ done => exact receiveTx_record lawful slash unrelated done
  | refused _ done => exact settleTx_record lawful slash (fun _ _ => fail_record) done
  | accepted _ done => exact settleTx_record lawful slash (fun _ _ => success_record) done
  | timedOut done => exact settleTx_record lawful slash (fun _ _ => fail_record) done
  | @migrated msg _ done =>
      cases msg with
      | withUpdate pauser proxy =>
          simp only [Chain.migrateTx, migrate, Storage.setPauser, bind_eq_ok, mapError_eq_ok,
            pure_eq_ok] at done
          rcases done with ⟨_, ⟨_, -, _, ⟨_, -, rfl⟩, rfl⟩, rfl⟩
          rfl

/-- The packet is of the class, creates vouchers and is acknowledged with success. -/
structure CreatesVouchers (chain : Chain) (contracts : Contracts σ) (endpoint : IbcEndpoint)
    (classId : ClassId) (world : World σ) (packet : IbcPacket)
    (data : NonFungibleTokenPacketData) : Prop where
  port : endpoint.portId = chain.portId
  dest : packet.dest = endpoint
  decoded : chain.api.packetData.fromBinary packet.data = .ok data
  class_ : data.classId = classId
  creates : createdTokens (selectActions packet data world.storage).2 ≠ []
  acked : ∃ after, chain.receiveTx contracts world packet = .ok (after, ackSuccess chain.api)

/-- Such a packet writes its record. -/
theorem CreatesVouchers.step {endpoint : IbcEndpoint} {classId : ClassId} {packet : IbcPacket}
    {data : NonFungibleTokenPacketData} (lawful : Lawful chain contracts codeId)
    (creates : CreatesVouchers chain contracts endpoint classId world packet data) :
    (chain.step contracts world (.receive packet)).storage.classIdToClass
      (voucherClassId endpoint classId) = some (data.carriedClass endpoint) := by
  rcases creates with ⟨port, rfl, decoded, rfl, nonempty, after, done⟩
  have stepped : chain.step contracts world (.receive packet) = after := by
    simp only [Chain.step, Chain.transaction, port, if_true, done, Except.map]
  rw [stepped]
  rcases delivered_of_success done with ⟨other, receiver, reply, checked, delivered⟩
  have same := (checkIbcPacket_eq_ok.mp checked).2.1
  rw [decoded] at same
  cases same
  have present := data.aggregate_creation (uniform_selectActions packet data world.storage)
  rw [if_neg nonempty] at present
  exact deliver_record lawful present (slash_mem_voucherClassId packet.dest data.classId) delivered

/-! ## Runs -/

/-- In the course of a run, the packets are delivered in this order; what else happens does not
concern the class. -/
inductive Delivers (chain : Chain) (contracts : Contracts σ) (endpoint : IbcEndpoint)
    (classId : ClassId) :
    World σ → List Chain.Label → List (IbcPacket × NonFungibleTokenPacketData) → Prop where
  | done (world : World σ) : Delivers chain contracts endpoint classId world [] []
  | delivered {world : World σ} {packet : IbcPacket} {data : NonFungibleTokenPacketData}
      {labels : List Chain.Label} {packets : List (IbcPacket × NonFungibleTokenPacketData)}
      (creates : CreatesVouchers chain contracts endpoint classId world packet data)
      (rest : Delivers chain contracts endpoint classId
        (chain.step contracts world (.receive packet)) labels packets) :
      Delivers chain contracts endpoint classId world (.receive packet :: labels)
        ((packet, data) :: packets)
  | other {world : World σ} {label : Chain.Label} {labels : List Chain.Label}
      {packets : List (IbcPacket × NonFungibleTokenPacketData)}
      (unrelated : Unrelated chain.api (voucherClassId endpoint classId) label)
      (rest : Delivers chain contracts endpoint classId (chain.step contracts world label) labels
        packets) :
      Delivers chain contracts endpoint classId world (label :: labels) packets

/-- The record at the end is that of the last packet, if there was one. -/
theorem Delivers.final {endpoint : IbcEndpoint} {classId : ClassId}
    (lawful : Lawful chain contracts codeId) {labels : List Chain.Label}
    {packets : List (IbcPacket × NonFungibleTokenPacketData)}
    (delivers : Delivers chain contracts endpoint classId world labels packets) :
    (labels.foldl (chain.step contracts) world).storage.classIdToClass
        (voucherClassId endpoint classId) =
      (packets.getLast?.map fun last => last.2.carriedClass endpoint).or
        (world.storage.classIdToClass (voucherClassId endpoint classId)) := by
  induction delivers with
  | done world => rfl
  | delivered creates rest ih =>
      rw [List.foldl_cons, ih, creates.step lawful, List.getLast?_cons]
      generalize List.getLast? _ = last
      cases last with
      | none => rfl
      | some last => rfl
  | other unrelated rest ih =>
      rw [List.foldl_cons, ih,
        step_record lawful (slash_mem_voucherClassId endpoint classId) unrelated]

theorem Delivers.classId_eq {endpoint : IbcEndpoint} {classId : ClassId}
    {labels : List Chain.Label} {packets : List (IbcPacket × NonFungibleTokenPacketData)}
    (delivers : Delivers chain contracts endpoint classId world labels packets) :
    ∀ packet ∈ packets, packet.2.classId = classId := by
  induction delivers with
  | done world => simp
  | delivered creates rest ih =>
      intro packet member
      rcases List.mem_cons.mp member with rfl | later
      · exact creates.class_
      · exact ih packet later
  | other unrelated rest ih => exact ih

end Rules

/-- In whatever order the packets of a class are delivered, among whatever else happens: when
all have been delivered, the record of the class is that of the packet that was delivered last.
It is that of the packet that was sent last if and only if these two packets carry the same
metadata. -/
theorem class_of_last_delivered {chain : Chain} {contracts : Contracts σ} {codeId : Nat}
    (lawful : Lawful chain contracts codeId) {world : World σ} {endpoint : IbcEndpoint}
    {classId : ClassId} {labels : List Chain.Label}
    {sent delivered : List (IbcPacket × NonFungibleTokenPacketData)}
    (delivers : Delivers chain contracts endpoint classId world labels delivered)
    (order : delivered.Perm sent) {newest : IbcPacket × NonFungibleTokenPacketData}
    (lastSent : sent.getLast? = some newest) :
    ∃ latest, delivered.getLast? = some latest ∧
      (labels.foldl (chain.step contracts) world).storage.classIdToClass
          (voucherClassId endpoint classId) =
        some ⟨voucherClassId endpoint classId, latest.2.classUri, latest.2.classData⟩ ∧
      ((labels.foldl (chain.step contracts) world).storage.classIdToClass
          (voucherClassId endpoint classId) =
            some ⟨voucherClassId endpoint classId, newest.2.classUri, newest.2.classData⟩ ↔
        latest.2.classUri = newest.2.classUri ∧ latest.2.classData = newest.2.classData) := by
  have nonempty : delivered ≠ [] := by
    rintro rfl
    rw [← order.nil_eq] at lastSent
    cases lastSent
  have last := List.getLast?_eq_some_getLast nonempty
  have final := delivers.final lawful
  rw [last, Option.map_some, Option.some_or, NonFungibleTokenPacketData.carriedClass,
    delivers.classId_eq _ (List.getLast_mem nonempty)] at final
  refine ⟨_, last, final, ?_⟩
  rw [final]
  simp

/-! ## Deliveries in a row -/

section Rows

variable (chain : Chain) (contracts : Contracts σ) (endpoint : IbcEndpoint) (classId : ClassId)

/-- Deliver packets one after the other, and read them, as long as each of them creates
vouchers of the class and is acknowledged with success. -/
def Chain.deliverAll : World σ → List IbcPacket → Option (List NonFungibleTokenPacketData)
  | _, [] => some []
  | world, packet :: packets =>
      match chain.api.packetData.fromBinary packet.data,
          chain.receiveTx contracts world packet with
      | .ok data, .ok (after, ack) =>
          if endpoint.portId = chain.portId ∧ packet.dest = endpoint ∧ data.classId = classId ∧
              createdTokens (selectActions packet data world.storage).2 ≠ [] ∧
              ack = ackSuccess chain.api then
            (deliverAll after packets).map (data :: ·)
          else none
      | _, _ => none

variable {chain contracts endpoint classId}

theorem Delivers.of_deliverAll {world : World σ} {packets : List IbcPacket}
    {datas : List NonFungibleTokenPacketData}
    (read : chain.deliverAll contracts endpoint classId world packets = some datas) :
    Delivers chain contracts endpoint classId world (packets.map .receive)
      (packets.zip datas) := by
  induction packets generalizing world datas with
  | nil => exact .done world
  | cons packet packets ih =>
      simp only [Chain.deliverAll] at read
      split at read
      next data after ack decoded done =>
        simp only [Option.ite_none_right_eq_some, Option.map_eq_some_iff] at read
        rcases read with ⟨⟨port, dest, same, creates, rfl⟩, rest, remaining, rfl⟩
        have stepped : chain.step contracts world (.receive packet) = after := by
          simp only [Chain.step, Chain.transaction, dest, port, if_true, done, Except.map]
        refine .delivered ⟨port, dest, decoded, same, creates, after, done⟩ ?_
        rw [stepped]
        exact ih remaining
      next => cases read

end Rows

namespace Sample

/-- A packet from elsewhere with an NFT for Bob. -/
def artPacket (uri tokenId : String) (sequence : Nat) : IbcPacket where
  data := api.packetData.toBinary
    ⟨⟨"art"⟩, some uri, none, [⟨tokenId⟩], none, none, "mallory", "bob", none⟩
  src := ⟨"wasm.east", "channel-7"⟩
  dest := ⟨"wasm.bridge", "channel-0"⟩
  sequence := sequence
  timeout := ⟨none, some 5⟩

/-- Bob sends a voucher to Carol, over `channel-1`. -/
def sendArt (tokenId : String) : Chain.Label :=
  .execute ⟨"bob"⟩ (.execute ⟨"contract0"⟩
    (.cw721 (.sendNft "bridge" ⟨tokenId⟩ (request "carol" "channel-1"))))

/-- Bob sends on two vouchers of a class.  Its metadata changes in between. -/
def forwarded : List Chain.Label :=
  [.receive (artPacket "first" "one" 0), sendArt "one",
    .receive (artPacket "second" "two" 1), sendArt "two"]

/-- The other end of `channel-1`. -/
def westEnd : IbcEndpoint := ⟨"wasm.west", "channel-9"⟩

/-- The bridge at the other end of `channel-1`. -/
def west : Deployment :=
  { deployment (fun channelId =>
      if channelId = "channel-9" then some ⟨"wasm.bridge", "channel-1"⟩ else none) rfl with
    portId := "wasm.west" }

/-- The class of the vouchers that Bob sends. -/
def artClass : ClassId := ⟨"wasm.bridge/channel-0/art"⟩

/-- What the bridge in the west reads when the packets arrive in the opposite order. -/
def overtaken : Option (List NonFungibleTokenPacketData) :=
  west.deliverAll west.contracts westEnd artClass genesis (run forwarded).commitments.reverse

theorem overtaken_uris : (run forwarded).commitments.map (·.sequence) = [0, 1] ∧
    overtaken.map (·.map (·.classUri)) = some [some "second", some "first"] := by
  decide +kernel

/-- The second packet arrives first. -/
theorem overtaken_eq : ∃ first second older newer,
    (run forwarded).commitments = [first, second] ∧ first.sequence < second.sequence ∧
      Delivers west.toChain west.contracts westEnd artClass genesis
        [.receive second, .receive first] [(second, newer), (first, older)] ∧
      older.classUri = some "first" ∧ newer.classUri = some "second" := by
  have evaluated := overtaken_uris
  generalize sent : (run forwarded).commitments = packets at evaluated
  generalize read : overtaken = datas at evaluated
  rcases List.map_eq_cons_iff.mp evaluated.1 with ⟨first, rest, rfl, zero, others⟩
  rcases List.map_eq_singleton_iff.mp others with ⟨second, rfl, one⟩
  rcases Option.map_eq_some_iff.mp evaluated.2 with ⟨datas, rfl, two⟩
  rcases List.map_eq_cons_iff.mp two with ⟨newer, rest, rfl, newerUri, others⟩
  rcases List.map_eq_singleton_iff.mp others with ⟨older, rfl, olderUri⟩
  have ordered : first.sequence < second.sequence := by
    rw [zero, one]
    decide
  unfold overtaken at read
  rw [sent] at read
  have reversed : [first, second].reverse = [second, first] := rfl
  rw [reversed] at read
  have delivers : Delivers west.toChain west.contracts westEnd artClass genesis
      ([second, first].map .receive) ([second, first].zip [newer, older]) :=
    Delivers.of_deliverAll read
  exact ⟨first, second, older, newer, rfl, ordered, delivers, olderUri, newerUri⟩

end Sample

/-- The packet that was sent first arrives last, and its metadata is what remains. -/
theorem class_stale_of_sample : ∃ first second older newer,
    (Sample.run Sample.forwarded).commitments = [first, second] ∧
      first.sequence < second.sequence ∧
      Delivers Sample.west.toChain Sample.west.contracts Sample.westEnd Sample.artClass
        Sample.genesis [.receive second, .receive first] [(second, newer), (first, older)] ∧
      ([Chain.Label.receive second, .receive first].foldl
          (Sample.west.step Sample.west.contracts) Sample.genesis).storage.classIdToClass
          (voucherClassId Sample.westEnd Sample.artClass) ≠
        some ⟨voucherClassId Sample.westEnd Sample.artClass, newer.classUri, newer.classData⟩ := by
  rcases Sample.overtaken_eq with
    ⟨first, second, older, newer, sent, before, delivers, olderUri, newerUri⟩
  refine ⟨first, second, older, newer, sent, before, delivers, ?_⟩
  rw [delivers.final (Deployment.lawful (.refl _) 1)]
  simp [NonFungibleTokenPacketData.carriedClass, olderUri, newerUri]

theorem class_of_last_delivered_sample :
    ∃ (first second : IbcPacket) (older newer : NonFungibleTokenPacketData),
    (Sample.run Sample.forwarded).commitments = [first, second] ∧
      ([Chain.Label.receive second, .receive first].foldl
          (Sample.west.step Sample.west.contracts) Sample.genesis).storage.classIdToClass
          (voucherClassId Sample.westEnd Sample.artClass) =
        some ⟨voucherClassId Sample.westEnd Sample.artClass, older.classUri, older.classData⟩ ∧
      newer.classUri ≠ older.classUri := by
  rcases Sample.overtaken_eq with
    ⟨first, second, older, newer, sent, before, delivers, olderUri, newerUri⟩
  have swapped : [(second, newer), (first, older)].Perm [(first, older), (second, newer)] :=
    .swap _ _ _
  rcases class_of_last_delivered (Deployment.lawful (.refl Sample.west.contracts) 1) delivers
    swapped rfl with ⟨latest, last, record, -⟩
  cases last
  exact ⟨first, second, older, newer, sent, record, by simp [olderUri, newerUri]⟩

end Ics721
