import Ics721.Chain.Sample
import Ics721.Cw721.Conformance
import Ics721.Registry.Runs

/-!
# Settling what the bridge sent

A packet that the bridge sent names a registered class, a valid sender and one token, and
it keeps doing so: the registry only grows.  So its settlement never fails in the bridge,
and a refund goes to where the token came from.  The attributes of the response are
another matter: two of them are copied from texts that nobody checks.
-/

namespace Ics721

open Library

/-- A packet of the bridge as a later state of the run sees it: the token of `record` in a
class that is registered for the contract of `record`. -/
structure Emitted (chain : Chain) (storage : Storage) (packet : IbcPacket)
    (record : SendRecord) (data : NonFungibleTokenPacketData) : Prop where
  decoded : chain.api.packetData.fromBinary packet.data = .ok data
  tokens : data.tokenIds = [record.tokenId]
  sender : data.sender = record.sender
  valid : chain.api.addrValid record.sender = true
  registered : storage.classIdToNftContract data.classId = some record.contract
  opened : chain.counterparty packet.src.channelId ≠ none

section Runs

variable {σ : Type} {chain : Chain} {contracts : Contracts σ} {codeId : Nat}
variable {world : World σ} {packet : IbcPacket}

/-- What was sent at one stage of a run is still known at every later one. -/
theorem Sound.emitted (lawful : Lawful chain contracts codeId)
    (sound : Sound chain contracts codeId world) (sent : packet ∈ world.commitments)
    (labels : List Chain.Label) :
    ∃ record data, world.sends[packet.sequence]? = some record ∧
      Emitted chain (labels.foldl (chain.step contracts) world).storage packet record data := by
  rcases sound.origin packet sent with
    ⟨record, recorded, ⟨data, encoded, tokens, sender, valid, registered⟩, opened⟩
  have extended := (sound.run lawful labels).2
  have decoded : chain.api.packetData.fromBinary packet.data = .ok data := by
    rw [encoded, chain.api.packetData.from_to]
  exact ⟨record, data, recorded, decoded, tokens, sender, valid,
    extended.contract_kept registered, opened⟩

end Runs

namespace Emitted

variable {chain : Chain} {storage : Storage} {packet : IbcPacket} {record : SendRecord}
variable {data : NonFungibleTokenPacketData}

/-- The transfer that gives the token back to whoever sent it. -/
def refund (record : SendRecord) : SubMsg CosmosMsg :=
  (WasmMsg.execute record.contract (.cw721 (.transferNft record.sender record.tokenId))).sub

/-- The response to a failure. -/
theorem handlePacketFail (emitted : Emitted chain storage packet record data)
    (error : String) :
    ∃ after, Ics721.handlePacketFail chain.api storage packet error =
      .ok (after,
        { messages := [refund record]
          attributes := [⟨"method", "handle_packet_fail"⟩,
            ⟨"token_ids", debugTokenIds chain.api data.tokenIds⟩,
            ⟨"class_id", data.classId.id⟩, ⟨"channel_id", packet.src.channelId⟩,
            ⟨"address_refunded", data.sender⟩, ⟨"error", error⟩] }) := by
  have loaded := Storage.loadNftContract_eq_ok.mpr emitted.registered
  have validated : chain.api.addrValidate record.sender = .ok ⟨record.sender⟩ := by
    rw [Api.addrValidate_eq_ok]
    exact ⟨emitted.valid, rfl⟩
  simp only [Ics721.handlePacketFail, emitted.decoded, loaded, validated, mapError_ok, ok_bind,
    pure, Except.pure, emitted.tokens, List.map_cons, List.map_nil, refund, emitted.sender]
  exact ⟨_, rfl⟩

/-- The response to a success. -/
theorem handlePacketSuccess (emitted : Emitted chain storage packet record data) :
    ∃ after messages, Ics721.handlePacketSuccess chain.api storage packet =
      .ok (after,
        { messages := messages
          attributes := [⟨"method", "acknowledge"⟩, ⟨"sender", data.sender⟩,
            ⟨"receiver", data.receiver⟩, ⟨"classId", data.classId.id⟩,
            ⟨"token_ids", debugTokenIds chain.api data.tokenIds⟩] }) := by
  have loaded := Storage.loadNftContract_eq_ok.mpr emitted.registered
  simp only [Ics721.handlePacketSuccess, emitted.decoded, loaded, mapError_ok, ok_bind,
    pure, Except.pure, Except.ok.injEq, Prod.mk.injEq]
  exact ⟨_, _, rfl, rfl⟩

end Emitted

/-- A packet can be settled: the bridge accepts its timeout and every acknowledgement of
it, and a failure returns the token to the contract and the sender of `record`. -/
structure Settleable (api : Api) (storage : Storage) (packet : IbcPacket)
    (record : SendRecord) : Prop where
  timeout : ∃ after response, ibcPacketTimeout api storage packet = .ok (after, response) ∧
    response.messages = [Emitted.refund record]
  ack : ∀ acknowledgement, ∃ after response,
    ibcPacketAck api storage packet acknowledgement = .ok (after, response) ∧
      (tryGetAckError api acknowledgement ≠ none → response.messages = [Emitted.refund record])

theorem Emitted.settleable {chain : Chain} {storage : Storage} {packet : IbcPacket}
    {record : SendRecord} {data : NonFungibleTokenPacketData}
    (emitted : Emitted chain storage packet record data) :
    Settleable chain.api storage packet record where
  timeout := by
    rcases emitted.handlePacketFail "timeout" with ⟨after, handled⟩
    exact ⟨after, _, handled, rfl⟩
  ack := by
    intro acknowledgement
    rcases ibcPacketAck_cases chain.api storage packet acknowledgement with
      ⟨error, -, same⟩ | ⟨read, same⟩
    · rcases emitted.handlePacketFail error with ⟨after, handled⟩
      exact ⟨after, _, same.trans handled, fun _ => rfl⟩
    · rcases emitted.handlePacketSuccess with ⟨after, messages, handled⟩
      exact ⟨after, _, same.trans handled, fun failed => absurd read failed⟩

/-- Every packet that the bridge sent in a run can be settled in every later state of it,
whoever sent it and whatever happened in between. -/
theorem settleable_of_run {σ : Type} {chain : Chain} {contracts : Contracts σ}
    {msg : InstantiateMsg} (lawful : Lawful chain contracts msg.cw721BaseCodeId) {state : σ}
    {genesis : World σ} (instantiated : chain.instantiateTx contracts msg state = .ok genesis)
    (earlier later : List Chain.Label) {packet : IbcPacket}
    (sent : packet ∈ (earlier.foldl (chain.step contracts) genesis).commitments) :
    ∃ record,
      (earlier.foldl (chain.step contracts) genesis).sends[packet.sequence]? = some record ∧
      Settleable chain.api ((earlier ++ later).foldl (chain.step contracts) genesis).storage
        packet record := by
  have start := Sound.instantiateTx lawful rfl instantiated
  have middle := (start.run lawful earlier).1
  rcases middle.emitted lawful sent later with ⟨record, data, recorded, emitted⟩
  rw [List.foldl_append]
  exact ⟨record, recorded, emitted.settleable⟩

theorem settleable_of_sample :
    ∃ packet ∈ (Sample.run Sample.sent).commitments, ∃ record,
      (Sample.run Sample.sent).sends[packet.sequence]? = some record ∧
      Settleable Sample.api (Sample.run (Sample.sent ++ [.migrate (.withUpdate none none)])).storage
        packet record := by
  have sent : (Sample.run Sample.sent).commitments ≠ [] := by decide +kernel
  rcases List.exists_mem_of_ne_nil _ sent with ⟨packet, member⟩
  exact ⟨packet, member, settleable_of_run (Deployment.lawful (.refl _) 1)
    Sample.instantiateTx_genesis Sample.sent [.migrate (.withUpdate none none)] member⟩

/-! ## Attributes -/

/-- The host rejects a response with an empty attribute. -/
def Response.accepted (response : Response) : Prop :=
  ∀ entry ∈ response.attributes, entry.value ≠ ""

theorem debugTokenIds_ne_empty (api : Api) (tokenIds : List TokenId) :
    debugTokenIds api tokenIds ≠ "" := by
  intro empty
  have lists := congrArg String.toList empty
  simp [debugTokenIds] at lists

theorem toBase64_ne_empty {data : Binary} (present : data ≠ []) : toBase64 data ≠ "" := by
  intro empty
  have lists := congrArg String.toList empty
  simp only [toBase64, String.toList_ofList] at lists
  cases data using base64Chars.fun_cases_unfolding with
  | case1 => exact present rfl
  | case2 a => cases lists
  | case3 a b => cases lists
  | case4 a b c rest => cases lists

theorem Sound.class_ne_empty {σ : Type} {chain : Chain} {contracts : Contracts σ}
    {codeId : Nat} {world : World σ} (lawful : Lawful chain contracts codeId)
    (sound : Sound chain contracts codeId world) {classId : ClassId} {contract : Addr}
    (registered : world.storage.classIdToNftContract classId = some contract) :
    classId.id ≠ "" := by
  intro empty
  rcases sound.registry.shape registered with same | slash
  · have valid := lawful.contract_valid (sound.registry.contract_known registered)
    exact chain.api.valid_ne_empty _ valid (same.symm.trans empty)
  · rw [empty] at slash
    cases slash

namespace Emitted

variable {chain : Chain} {storage : Storage} {packet : IbcPacket} {record : SendRecord}
variable {data : NonFungibleTokenPacketData}

theorem sender_ne_empty (emitted : Emitted chain storage packet record data) :
    data.sender ≠ "" := by
  rw [emitted.sender]
  exact chain.api.valid_ne_empty _ emitted.valid

theorem channel_ne_empty (emitted : Emitted chain storage packet record data) :
    packet.src.channelId ≠ "" := by
  intro empty
  apply emitted.opened
  rw [empty]
  exact chain.counterparty_empty

/-- A failure is accepted unless its text is empty. -/
theorem accepted_fail (emitted : Emitted chain storage packet record data)
    (named : data.classId.id ≠ "") (error : String) :
    (∃ after response, Ics721.handlePacketFail chain.api storage packet error =
      .ok (after, response) ∧ response.accepted) ↔ error ≠ "" := by
  rcases emitted.handlePacketFail error with ⟨after, handled⟩
  simp only [handled, Except.ok.injEq, Prod.mk.injEq]
  constructor
  · rintro ⟨_, _, ⟨rfl, rfl⟩, accepted⟩
    exact accepted ⟨"error", error⟩ (by simp)
  · intro present
    refine ⟨_, _, ⟨rfl, rfl⟩, ?_⟩
    simp [Response.accepted, named, present, emitted.sender_ne_empty, emitted.channel_ne_empty,
      debugTokenIds_ne_empty]

/-- A success is accepted unless the receiver of the packet is empty. -/
theorem accepted_success (emitted : Emitted chain storage packet record data)
    (named : data.classId.id ≠ "") :
    (∃ after response, Ics721.handlePacketSuccess chain.api storage packet =
      .ok (after, response) ∧ response.accepted) ↔ data.receiver ≠ "" := by
  rcases emitted.handlePacketSuccess with ⟨after, messages, handled⟩
  simp only [handled, Except.ok.injEq, Prod.mk.injEq]
  constructor
  · rintro ⟨_, _, ⟨rfl, rfl⟩, accepted⟩
    exact accepted ⟨"receiver", data.receiver⟩ (by simp)
  · intro present
    refine ⟨_, _, ⟨rfl, rfl⟩, ?_⟩
    simp [Response.accepted, named, present, emitted.sender_ne_empty, debugTokenIds_ne_empty]

end Emitted

/-- The bridge settles the packet with responses that the host accepts, both for this
acknowledgement and for a timeout. -/
def SettlementAccepted (api : Api) (storage : Storage) (packet : IbcPacket)
    (acknowledgement : Binary) : Prop :=
  (∃ after response, ibcPacketAck api storage packet acknowledgement = .ok (after, response) ∧
    response.accepted) ∧
  ∃ after response, ibcPacketTimeout api storage packet = .ok (after, response) ∧
    response.accepted

/-- Every settlement of a packet that the bridge sent is accepted, except for two kinds of
acknowledgements: an error without text, and a success for a packet without receiver. -/
theorem settlement_accepted_iff {σ : Type} {chain : Chain} {contracts : Contracts σ}
    {msg : InstantiateMsg} (lawful : Lawful chain contracts msg.cw721BaseCodeId) {state : σ}
    {genesis : World σ} (instantiated : chain.instantiateTx contracts msg state = .ok genesis)
    (earlier later : List Chain.Label) {packet : IbcPacket}
    (sent : packet ∈ (earlier.foldl (chain.step contracts) genesis).commitments)
    {data : NonFungibleTokenPacketData}
    (decoded : chain.api.packetData.fromBinary packet.data = .ok data)
    {acknowledgement : Binary} (present : acknowledgement ≠ []) :
    SettlementAccepted chain.api
        ((earlier ++ later).foldl (chain.step contracts) genesis).storage packet
        acknowledgement ↔
      chain.api.ack.fromBinary acknowledgement ≠ .ok (.error "") ∧
        ((∃ result, chain.api.ack.fromBinary acknowledgement = .ok (.result result)) →
          data.receiver ≠ "") := by
  have start := Sound.instantiateTx lawful rfl instantiated
  have middle := (start.run lawful earlier).1
  have final := (middle.run lawful later).1
  rcases middle.emitted lawful sent later with ⟨record, found, -, emitted⟩
  cases Except.ok.inj (emitted.decoded.symm.trans decoded)
  rw [List.foldl_append]
  have named := final.class_ne_empty lawful emitted.registered
  have timeout := (emitted.accepted_fail named "timeout").mpr (by decide)
  unfold SettlementAccepted ibcPacketAck tryGetAckError
  cases read : chain.api.ack.fromBinary acknowledgement with
  | error failure =>
      have text := toBase64_ne_empty present
      have accepted := (emitted.accepted_fail named _).mpr text
      simp [accepted, ibcPacketTimeout, timeout]
  | ok ack =>
      cases ack with
      | error message =>
          simp [emitted.accepted_fail named message, ibcPacketTimeout, timeout]
      | result result =>
          simp [emitted.accepted_success named, ibcPacketTimeout, timeout]

theorem settlement_accepted_of_sample :
    ∃ packet ∈ (Sample.run Sample.sent).commitments,
      SettlementAccepted Sample.api (Sample.run (Sample.sent ++ [])).storage packet
        (ackSuccess Sample.api) := by
  have sent : ∃ packet ∈ (Sample.run Sample.sent).commitments,
      Sample.api.packetData.fromBinary packet.data =
        .ok ⟨⟨"contract0"⟩, none, none, [⟨"gem"⟩], none, none, "alice", "bob", none⟩ := by
    decide +kernel
  rcases sent with ⟨packet, member, decoded⟩
  refine ⟨packet, member, (settlement_accepted_iff (Deployment.lawful (.refl _) 1)
    Sample.instantiateTx_genesis Sample.sent [] member decoded
    (Sample.api.ack.toBinary_ne_nil _)).mpr ⟨?_, fun _ => by decide⟩⟩
  change Sample.api.ack.fromBinary (Sample.api.ack.toBinary _) ≠ _
  rw [Sample.api.ack.from_to]
  simp [ackResult]

/-- Alice sends her NFT to nobody and the packet arrives; or she sends it to Bob and it
fails without a reason.  Either way an attribute of the response is empty. -/
theorem settlement_rejected_of_sample :
    (∃ packet ∈ (Sample.run Sample.sentToNobody).commitments,
      (ibcPacketAck Sample.api (Sample.run Sample.sentToNobody).storage packet
          (ackSuccess Sample.api)).map (fun outcome => outcome.2.attributes) =
        .ok [⟨"method", "acknowledge"⟩, ⟨"sender", "alice"⟩, ⟨"receiver", ""⟩,
          ⟨"classId", "contract0"⟩, ⟨"token_ids", "[TokenId(\"gem\")]"⟩]) ∧
    ∃ packet ∈ (Sample.run Sample.sent).commitments,
      (ibcPacketAck Sample.api (Sample.run Sample.sent).storage packet
          (ackFail Sample.api "")).map (fun outcome => outcome.2.attributes) =
        .ok [⟨"method", "handle_packet_fail"⟩, ⟨"token_ids", "[TokenId(\"gem\")]"⟩,
          ⟨"class_id", "contract0"⟩, ⟨"channel_id", "channel-0"⟩,
          ⟨"address_refunded", "alice"⟩, ⟨"error", ""⟩] := by
  decide +kernel

end Ics721
