import Ics721.Bridge.Forwarding

/-!
# Journeys

A voucher travels from bridge to bridge.  Each of them is at an arbitrary point of a run of
its own, among contracts of its own, when the packet arrives, and does whatever else it does
until the voucher is sent on.
-/

namespace Ics721

open Library

/-- A bridge receives `incoming`, whose payload is `data`, and acknowledges it with success.
Later the voucher for `tokenId` is sent on, over another channel, as `outgoing`.  No packet of
the same class arrives in between, and what happens otherwise is in `later`. -/
inductive Hop (codec : Codec StdError NonFungibleTokenPacketData) (tokenId : TokenId)
    (creates : Storage → Prop) (incoming : IbcPacket) (data : NonFungibleTokenPacketData)
    (outgoing : IbcPacket) : Prop where
  | intro {σ : Type} {chain : Chain} {contracts : Contracts σ} {msg : InstantiateMsg} {state : σ}
      {genesis world after final : World σ} {earlier later : List Chain.Label}
      {record : SendRecord}
      (lawful : Lawful chain contracts msg.cw721BaseCodeId)
      (uris : VoucherUris chain contracts msg.cw721BaseCodeId)
      (identifiers : ∀ channelId, chain.counterparty channelId ≠ none → '/' ∉ channelId.toList)
      (sameCodec : chain.api.packetData = codec)
      (instantiated : chain.instantiateTx contracts msg state = .ok genesis)
      (proper : ∀ label ∈ earlier, ProperLabel label)
      (reached : earlier.foldl (chain.step contracts) genesis = world)
      (port : incoming.dest.portId = chain.portId)
      (channel : '/' ∉ incoming.dest.channelId.toList)
      (decoded : codec.fromBinary incoming.data = .ok data)
      (accepted : chain.receiveTx contracts world incoming = .ok (after, ackSuccess chain.api))
      (created : creates world.storage)
      (undisturbed : ∀ label ∈ later,
        Unrelated chain.api (voucherClassId incoming.dest data.classId) label)
      (left_ : later.foldl (chain.step contracts) after = final)
      (pending : outgoing ∈ final.commitments) (recent : outgoing ∉ after.commitments)
      (sent : final.sends[outgoing.sequence]? = some record)
      (contract : final.storage.classIdToNftContract (voucherClassId incoming.dest data.classId) =
        some record.contract)
      (token : record.tokenId = tokenId)
      (onward : outgoing.src.channelId ≠ incoming.dest.channelId) :
      Hop codec tokenId creates incoming data outgoing

/-- The voucher that `packet` creates travels on as `packets`, one after the other. -/
inductive Journey (codec : Codec StdError NonFungibleTokenPacketData) (tokenId : TokenId) :
    IbcPacket → List IbcPacket → Prop where
  | stays (packet : IbcPacket) : Journey codec tokenId packet []
  | hop {incoming outgoing : IbcPacket} {data : NonFungibleTokenPacketData}
      {packets : List IbcPacket}
      (first : Hop codec tokenId (fun _ => True) incoming data outgoing)
      (rest : Journey codec tokenId outgoing packets) :
      Journey codec tokenId incoming (outgoing :: packets)

/-- The packet remembers the token at a place of the original packet, with the metadata that it
had there, in a class that has been to `hops`. -/
structure Relayed (codec : Codec StdError NonFungibleTokenPacketData)
    (original : NonFungibleTokenPacketData) (tokenId : TokenId) (index : Nat)
    (hops : List IbcEndpoint) (packet : IbcPacket) (data : NonFungibleTokenPacketData) :
    Prop where
  decoded : codec.fromBinary packet.data = .ok data
  class_ : data.classId = addPrefixes hops original.classId
  classUri : data.classUri = original.classUri
  classData : data.classData = original.classData
  tokenIds : data.tokenIds = [tokenId]
  tokenUris : data.tokenUris = (original.tokenUris.bind (·[index]?)).map fun uri => [uri]
  tokenData : data.tokenData =
    (original.tokenData.bind (·[index]?)).map fun tokenData => [tokenData]

section Hops

variable {codec : Codec StdError NonFungibleTokenPacketData} {tokenId : TokenId}
variable {original data : NonFungibleTokenPacketData} {incoming outgoing : IbcPacket}
variable {index : Nat}

/-- The prefix that a class got last is not that of another channel of the same port. -/
theorem tryPopSourcePrefix_of_channel_ne {endpoint other : IbcEndpoint} {classId : ClassId}
    (port : other.portId = endpoint.portId) (channel : '/' ∉ endpoint.channelId.toList)
    (otherChannel : '/' ∉ other.channelId.toList)
    (different : other.channelId ≠ endpoint.channelId) :
    tryPopSourcePrefix other (voucherClassId endpoint classId).id = none := by
  rw [Option.eq_none_iff_forall_ne_some]
  intro rest popped
  apply different
  have lists := congrArg String.toList (tryPopSourcePrefix_eq_append.mp popped)
  simp only [voucherClassId, toList_getEndpointPrefix_append, port] at lists
  have tails := List.append_cancel_left lists
  simp only [List.cons.injEq, true_and] at tails
  exact (String.toList_inj.mp (append_cons_inj channel otherChannel tails).1).symm

theorem Hop.decoded {creates : Storage → Prop}
    (hop : Hop codec tokenId creates incoming data outgoing) :
    codec.fromBinary incoming.data = .ok data := by
  cases hop with
  | intro _ _ _ _ _ _ _ _ _ decoded => exact decoded

/-- What is sent on after a hop describes what came in, and does not return to where it came
from. -/
theorem Hop.relayed {creates : Storage → Prop}
    (hop : Hop codec tokenId creates incoming data outgoing)
    (place : data.tokenIds[index]? = some tokenId)
    (once : ∀ other, data.tokenIds[other]? = some tokenId → other = index)
    (created : ∀ storage, creates storage → data.redeems incoming storage index = false) :
    ∃ next, Relayed codec data tokenId index [incoming.dest] outgoing next ∧
      tryPopSourcePrefix outgoing.src next.classId.id = none := by
  rcases hop with ⟨lawful, uris, identifiers, rfl, instantiated, proper, rfl, port, channel,
    decoded, accepted, fresh, undisturbed, rfl, pending, recent, sent, contract, token, onward⟩
  rename_i chain contracts msg state genesis after earlier later record
  have books : Booked uris.toVoucherContracts (earlier.foldl (chain.step contracts) genesis) ∧
      Sound chain contracts msg.cw721BaseCodeId
        (earlier.foldl (chain.step contracts) genesis) := by
    have kept : ∀ (world : World _) label,
        (Booked uris.toVoucherContracts world ∧
          Sound chain contracts msg.cw721BaseCodeId world) → ProperLabel label →
        Booked uris.toVoucherContracts (chain.step contracts world label) ∧
          Sound chain contracts msg.cw721BaseCodeId (chain.step contracts world label) :=
      fun world label both proper =>
        ⟨both.1.step lawful both.2 proper, (both.2.step lawful label).1⟩
    exact Follows.invariant kept (follows_of_mem proper)
      ⟨Booked.instantiateTx lawful rfl instantiated, Sound.instantiateTx lawful rfl instantiated⟩
  rcases remembers_of_receiveTx lawful books.1 books.2 port channel decoded accepted place once
    (created _ fresh) with ⟨collection, remembers⟩
  let voucher : CarriedVoucher :=
    ⟨data.carriedClass incoming.dest, collection, data.tokenAt tokenId index⟩
  have slash : '/' ∈ voucher.cls.id.id.toList :=
    slash_mem_voucherClassId incoming.dest data.classId
  rcases remembers.run lawful slash (books.2.receiveTx lawful accepted).1 undisturbed with
    ⟨final, sound⟩
  rcases sound.emitted lawful pending [] with ⟨other, next, known, emitted⟩
  rw [sent] at known
  cases known
  have class_ := sound.registry.contract_inj emitted.registered contract
  have tokens : next.tokenIds = [tokenId] := token ▸ emitted.tokens
  rcases final.packets outgoing pending recent with ⟨source, faithful⟩
  have described := faithful next emitted.decoded class_ tokens
  refine ⟨next, ⟨emitted.decoded, class_, described.classUri, described.classData, tokens,
    described.tokenUris, described.tokenData⟩, ?_⟩
  rw [class_]
  exact tryPopSourcePrefix_of_channel_ne (source.trans port.symm) channel
    (identifiers _ emitted.opened) onward

/-- What arrives without a prefix to remove becomes a voucher. -/
theorem NonFungibleTokenPacketData.redeems_of_no_prefix
    (outward : tryPopSourcePrefix incoming.src data.classId.id = none) (storage : Storage) :
    data.redeems incoming storage index = false := by
  rw [redeems, outward]
  rfl

/-- A hop adds its prefix and leaves the metadata alone. -/
theorem Relayed.hop {hops : List IbcEndpoint} {read : NonFungibleTokenPacketData}
    (relayed : Relayed codec original tokenId index hops incoming data)
    (outward : tryPopSourcePrefix incoming.src data.classId.id = none)
    (hop : Hop codec tokenId (fun _ => True) incoming read outgoing) :
    ∃ next, Relayed codec original tokenId index (hops ++ [incoming.dest]) outgoing next ∧
      tryPopSourcePrefix outgoing.src next.classId.id = none := by
  have same : data = read := Except.ok.inj (relayed.decoded.symm.trans hop.decoded)
  subst same
  have place : data.tokenIds[0]? = some tokenId := by rw [relayed.tokenIds]; rfl
  have once : ∀ other, data.tokenIds[other]? = some tokenId → other = 0 := by
    intro other there
    rw [relayed.tokenIds] at there
    have inside := (List.getElem?_eq_some_iff.mp there).1
    simpa using inside
  rcases hop.relayed place once
    (fun storage _ => NonFungibleTokenPacketData.redeems_of_no_prefix outward storage) with
    ⟨next, sent, onward⟩
  refine ⟨next, ?_, onward⟩
  constructor
  · exact sent.decoded
  · rw [sent.class_, relayed.class_, addPrefixes_concat]
    rfl
  · exact sent.classUri.trans relayed.classUri
  · exact sent.classData.trans relayed.classData
  · exact sent.tokenIds
  · rw [sent.tokenUris, relayed.tokenUris]
    cases original.tokenUris.bind (·[index]?) with
    | none => rfl
    | some uri => rfl
  · rw [sent.tokenData, relayed.tokenData]
    cases original.tokenData.bind (·[index]?) with
    | none => rfl
    | some tokenData => rfl

/-- All packets of a journey carry the same metadata. -/
theorem Journey.relayed {hops : List IbcEndpoint} {packets : List IbcPacket}
    (journey : Journey codec tokenId incoming packets)
    (relayed : Relayed codec original tokenId index hops incoming data)
    (outward : tryPopSourcePrefix incoming.src data.classId.id = none) :
    ∀ (position : Nat) packet, packets[position]? = some packet → ∃ sent,
      Relayed codec original tokenId index
        (hops ++ ((incoming :: packets).take (position + 1)).map (·.dest)) packet sent := by
  induction journey generalizing hops data with
  | stays packet => simp
  | @hop incoming outgoing read packets first rest ih =>
      rcases relayed.hop outward first with ⟨next, sent, onward⟩
      intro position packet there
      cases position with
      | zero =>
          cases there
          exact ⟨next, sent⟩
      | succ position =>
          rcases ih sent onward position packet there with ⟨data, found⟩
          refine ⟨data, ?_⟩
          simpa [List.append_assoc] using found

end Hops

/-- Metadata is forwarded unchanged.  A bridge accepts a packet, and the token that is at one
place of it only becomes a voucher, which is sent on from bridge to bridge.  Every packet on
the way has the class ID of the first one, with the prefix of each bridge it has been to, and
otherwise the metadata of the token and of its class in the first packet. -/
theorem metadata_forwarded {codec : Codec StdError NonFungibleTokenPacketData} {tokenId : TokenId}
    {index : Nat} {first second : IbcPacket} {packets : List IbcPacket}
    {data : NonFungibleTokenPacketData} (place : data.tokenIds[index]? = some tokenId)
    (once : ∀ other, data.tokenIds[other]? = some tokenId → other = index)
    (entrance : Hop codec tokenId (fun storage => data.redeems first storage index = false) first
      data second)
    (journey : Journey codec tokenId second packets) :
    ∀ position packet, (second :: packets)[position]? = some packet → ∃ sent,
      Relayed codec data tokenId index
        (((first :: second :: packets).take (position + 1)).map (·.dest)) packet sent := by
  rcases entrance.relayed place once (fun _ => id) with ⟨next, sent, outward⟩
  intro position packet there
  cases position with
  | zero =>
      cases there
      exact ⟨next, sent⟩
  | succ position =>
      rcases journey.relayed sent outward position packet there with ⟨found, relayed⟩
      exact ⟨found, relayed⟩

/-! ## A journey over two bridges -/

section Execution

variable (deployment : Deployment) (genesis : World Ledger) (tokenId : TokenId)

/-- A bridge that has done nothing yet receives a packet; then accounts execute messages, one
of which sends the voucher on. -/
def Deployment.sendOn (incoming : IbcPacket) (later : List (Addr × WasmMsg)) :
    Option (NonFungibleTokenPacketData × IbcPacket) :=
  match deployment.api.packetData.fromBinary incoming.data,
      deployment.receiveTx deployment.contracts genesis incoming with
  | .ok data, .ok (after, ack) =>
      let final := (later.map fun call => Chain.Label.execute call.1 call.2).foldl
        (deployment.step deployment.contracts) after
      match final.commitments with
      | [outgoing] =>
          if incoming.dest.portId = deployment.portId ∧ '/' ∉ incoming.dest.channelId.toList ∧
              ack = ackSuccess deployment.api ∧ after.commitments = [] ∧
              outgoing.src.channelId ≠ incoming.dest.channelId ∧
              ∃ record ∈ final.sends[outgoing.sequence]?, record.tokenId = tokenId ∧
                final.storage.classIdToNftContract (voucherClassId incoming.dest data.classId) =
                  some record.contract then
            some (data, outgoing)
          else none
      | _ => none
  | _, _ => none

variable {deployment genesis tokenId}

theorem Hop.of_sendOn {msg : InstantiateMsg} {state : Ledger} {creates : Storage → Prop}
    {incoming outgoing : IbcPacket} {data : NonFungibleTokenPacketData}
    {later : List (Addr × WasmMsg)}
    (identifiers : ∀ channelId, deployment.counterparty channelId ≠ none →
      '/' ∉ channelId.toList)
    (instantiated : deployment.instantiateTx deployment.contracts msg state = .ok genesis)
    (created : creates genesis.storage)
    (sent : deployment.sendOn genesis tokenId incoming later = some (data, outgoing)) :
    Hop deployment.api.packetData tokenId creates incoming data outgoing := by
  have conforms : Conforms deployment.contracts deployment.contracts := .refl _
  unfold Deployment.sendOn at sent
  split at sent
  next read after ack decoded accepted =>
    simp only at sent
    split at sent
    next last final =>
      simp only [Option.ite_none_right_eq_some, Option.some.injEq, Prod.mk.injEq] at sent
      rcases sent with ⟨⟨port, channel, rfl, nothing, onward, record, known, token, contract⟩,
        rfl, rfl⟩
      have reached : ([] : List Chain.Label).foldl (deployment.step deployment.contracts) genesis =
          genesis := rfl
      refine .intro (Deployment.lawful conforms _) (Deployment.voucherUris conforms _) identifiers
        rfl instantiated (by simp) reached port channel decoded accepted created ?_ rfl
        (by simp [final]) (by simp [nothing]) known contract token onward
      intro label member packet data same
      rcases List.mem_map.mp member with ⟨call, -, rfl⟩
      cases same
    next => cases sent
  next => cases sent

end Execution

namespace Sample

/-- What a packet with two NFTs for Bob remembers. -/
def pairData : NonFungibleTokenPacketData :=
  ⟨⟨"art"⟩, some "class", none, [⟨"one"⟩, ⟨"two"⟩], some ["first", "second"], none, "mallory",
    "bob", none⟩

def pairPacket : IbcPacket where
  data := api.packetData.toBinary pairData
  src := ⟨"wasm.east", "channel-7"⟩
  dest := ⟨"wasm.bridge", "channel-0"⟩
  sequence := 0
  timeout := ⟨none, some 5⟩

theorem pairPacket_decodes : api.packetData.fromBinary pairPacket.data = .ok pairData := by
  simp only [pairPacket, Codec.from_to]

/-- The bridge in the west has two channels. -/
def crossing (channelId : String) : Option IbcEndpoint :=
  if channelId = "channel-9" then some ⟨"wasm.bridge", "channel-1"⟩
  else if channelId = "channel-4" then some ⟨"wasm.north", "channel-2"⟩
  else none

def crossroads : Deployment := { deployment crossing rfl with portId := "wasm.west" }

theorem crossing_slashless (channelId : String)
    (opened : crossroads.counterparty channelId ≠ none) : '/' ∉ channelId.toList := by
  simp only [crossroads, deployment, crossing] at opened
  split at opened
  next same =>
    subst same
    decide
  next =>
    split at opened
    next same =>
      subst same
      decide
    next => exact absurd rfl opened

/-- The owner of a voucher sends it on over a channel. -/
def onward (owner receiver channelId : String) : Addr × WasmMsg :=
  (⟨owner⟩, .execute ⟨"contract0"⟩
    (.cw721 (.sendNft "bridge" ⟨"two"⟩ (request receiver channelId))))

/-- Bob sends the second NFT to Carol in the west, who sends it to Dave in the north. -/
def journey : Option (NonFungibleTokenPacketData × IbcPacket ×
    NonFungibleTokenPacketData × IbcPacket) := do
  let (data, second) ← chain.sendOn genesis ⟨"two"⟩ pairPacket [onward "bob" "carol" "channel-1"]
  let (next, third) ← crossroads.sendOn genesis ⟨"two"⟩ second [onward "carol" "dave" "channel-4"]
  return (data, second, next, third)

theorem journey_destinations :
    journey.map (fun (_, second, _, third) => (second.dest, third.dest)) =
      some (⟨"wasm.west", "channel-9"⟩, ⟨"wasm.north", "channel-2"⟩) := by
  decide +kernel

end Sample

/-- The second NFT arrives in the north with what it had in the east. -/
theorem metadata_forwarded_sample : ∃ second third data,
    Sample.journey.map (fun (_, second, _, third) => (second, third)) = some (second, third) ∧
      Relayed Sample.api.packetData Sample.pairData ⟨"two"⟩ 1
        [⟨"wasm.bridge", "channel-0"⟩, ⟨"wasm.west", "channel-9"⟩] third data := by
  have evaluated := Sample.journey_destinations
  generalize travelled : Sample.journey = outcome at evaluated
  rcases Option.map_eq_some_iff.mp evaluated with ⟨⟨_, _, _, _⟩, rfl, dests⟩
  simp only [Prod.mk.injEq] at dests
  simp only [Sample.journey, Option.bind_eq_bind, Option.bind_eq_some_iff, Option.pure_def,
    Option.some.injEq, Prod.exists, Prod.mk.injEq] at travelled
  rcases travelled with ⟨data, second, first, next, third, later, rfl, rfl, rfl, rfl⟩
  have start : Sample.crossroads.instantiateTx Sample.crossroads.contracts Sample.instantiateMsg
      ⟨.empty, 0⟩ = .ok Sample.genesis := rfl
  have arrives := @Hop.of_sendOn Sample.chain _ _ _ _ (fun _ => True) _ _ _ _
    Sample.counterparty_slashless Sample.instantiateTx_genesis trivial first
  have arrival : Hop Sample.api.packetData ⟨"two"⟩ (fun _ => True) Sample.pairPacket data second :=
    arrives
  have same : .ok Sample.pairData = Except.ok data :=
    Sample.pairPacket_decodes.symm.trans arrival.decoded
  cases same
  have enters := @Hop.of_sendOn Sample.chain _ _ _ _ (fun storage =>
      Sample.pairData.redeems Sample.pairPacket storage 1 = false) _ _ _ _
    Sample.counterparty_slashless Sample.instantiateTx_genesis
    (NonFungibleTokenPacketData.redeems_of_no_prefix (by decide) _) first
  have leaves := @Hop.of_sendOn Sample.crossroads _ _ _ _ (fun _ => True) _ _ _ _
    Sample.crossing_slashless start trivial later
  have entrance : Hop Sample.api.packetData ⟨"two"⟩
      (fun storage => Sample.pairData.redeems Sample.pairPacket storage 1 = false)
      Sample.pairPacket Sample.pairData second := enters
  have onward : Hop Sample.api.packetData ⟨"two"⟩ (fun _ => True) second next third := leaves
  have once : ∀ other : Nat, Sample.pairData.tokenIds[other]? = some ⟨"two"⟩ → other = 1 := by
    intro other there
    rcases other with _ | _ | other
    · simp [Sample.pairData] at there
    · rfl
    · simp [Sample.pairData] at there
  rcases metadata_forwarded rfl once entrance (.hop onward (.stays third)) 1 third rfl with
    ⟨sent, relayed⟩
  have hops : (([Sample.pairPacket, second, third].take (1 + 1)).map (·.dest)) =
      [⟨"wasm.bridge", "channel-0"⟩, ⟨"wasm.west", "channel-9"⟩] := by
    simp [dests.1, Sample.pairPacket]
  rw [hops] at relayed
  exact ⟨second, third, sent, by simp, relayed⟩

end Ics721
