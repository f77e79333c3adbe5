import Ics721.Escrow.Steps
import Ics721.Library.Format
import Ics721.Library.Runs
import Ics721.Library.Vouchers

/-!
# Networks of bridges

Several chains run the bridge and are joined by channels.  IBC core delivers a packet at
most once, to the other end of the channel it was sent on, and settles it with the
acknowledgement that was committed there, or by a timeout if it was not delivered.
Everything else is left to chance: which packet is delivered or settled next, and what
accounts and governance do in between.

`view` forgets everything about a network but where its NFTs are and what is under way.
-/

namespace Ics721

open Library

/-- Bridges on several chains.  All chains read the same JSON, channels join distinct
chains, and calls may nest deep enough for what a packet makes the bridge do. -/
structure Network (ι : Type) where
  deployment : ι → Deployment
  json : Json
  speaks : ∀ chain, (deployment chain).api.toJson = json
  /-- The other end of a channel. -/
  peer : ι → String → Option (ι × String)
  peer_symm : ∀ {here channelId there far}, peer here channelId = some (there, far) →
    peer there far = some (here, channelId)
  peer_ne : ∀ {here channelId there far}, peer here channelId = some (there, far) →
    there ≠ here
  counterparty : ∀ here channelId, (deployment here).counterparty channelId =
    (peer here channelId).map fun other => ⟨(deployment other.1).portId, other.2⟩
  channel_no_slash : ∀ {here channelId ends}, peer here channelId = some ends →
    '/' ∉ channelId.toList
  deep : ∀ chain, 3 ≤ (deployment chain).depth

namespace Network

/-- The chains, and for each chain the acknowledgements of the packets it sent, as far as
they were delivered. -/
structure State (ι : Type) where
  worlds : ι → World Ledger
  acks : ι → IbcPacket → Option Binary

/-- What can happen in a network.  Packets are named with the chain that sent them. -/
inductive Label (ι : Type) where
  | execute (chain : ι) (sender : Addr) (msg : WasmMsg)
  | migrate (chain : ι) (pauser : Option String)
  | deliver (chain : ι) (packet : IbcPacket)
  | acknowledge (chain : ι) (packet : IbcPacket)
  | timeout (chain : ι) (packet : IbcPacket)

variable {ι : Type} [DecidableEq ι] (network : Network ι)

/-- Something happens on one chain. -/
def act (state : State ι) (chain : ι) (label : Chain.Label) : State ι :=
  { state with
    worlds := Function.update state.worlds chain
      ((network.deployment chain).step (network.deployment chain).contracts
        (state.worlds chain) label) }

/-- A packet of `here` is delivered to the other end of its channel. -/
def deliver (state : State ι) (here : ι) (packet : IbcPacket) : State ι :=
  if packet ∈ (state.worlds here).commitments ∧ state.acks here packet = none then
    match network.peer here packet.src.channelId with
    | none => state
    | some (there, _) =>
        match (network.deployment there).receiveTx (network.deployment there).contracts
          (state.worlds there) packet with
        | .ok (world, ack) =>
            { worlds := Function.update state.worlds there world
              acks := Function.update state.acks here
                (Function.update (state.acks here) packet (some ack)) }
        | .error _ => state
  else
    state

/-- One step of the network.  What IBC core does not permit changes nothing. -/
def step (state : State ι) : Label ι → State ι
  | .execute chain sender msg => network.act state chain (.execute sender msg)
  | .migrate chain pauser => network.act state chain (.migrate (.withUpdate pauser none))
  | .deliver chain packet => network.deliver state chain packet
  | .acknowledge chain packet =>
      match state.acks chain packet with
      | some ack => network.act state chain (.ack packet ack)
      | none => state
  | .timeout chain packet =>
      match state.acks chain packet with
      | some _ => state
      | none => network.act state chain (.timeout packet)

/-- Every bridge was just instantiated, without proxy, on a chain that it has not acted on
and that has free addresses for new contracts. -/
structure Genesis (state : State ι) : Prop where
  instantiated : ∀ chain, ∃ msg ledger,
    (network.deployment chain).Unused ledger ∧
    (∀ index, ledger.instances ≤ index → ledger.infoAt (network.deployment chain).api
      ((network.deployment chain).newAddress index) = none) ∧
    (network.deployment chain).instantiateTx (network.deployment chain).contracts msg ledger =
      .ok (state.worlds chain)
  undelivered : ∀ chain packet, state.acks chain packet = none

end Network

/-! ## Vouchers -/

/-- The channel and the class can be read off the class ID of a voucher. -/
theorem voucherClassId_inj {portId channelId other : String} {classId otherClass : ClassId}
    (free : '/' ∉ channelId.toList) (otherFree : '/' ∉ other.toList)
    (same : voucherClassId ⟨portId, channelId⟩ classId =
      voucherClassId ⟨portId, other⟩ otherClass) :
    channelId = other ∧ classId = otherClass := by
  have lists := congrArg (fun cls => cls.id.toList) same
  have slash : "/".toList = ['/'] := by decide
  simp only [voucherClassId, getEndpointPrefix, String.toList_append, List.append_assoc,
    List.append_cancel_left_eq, slash, List.cons_append, List.nil_append, List.cons.injEq,
    true_and] at lists
  rcases append_cons_inj free otherFree lists with ⟨channels, classes⟩
  constructor
  · exact String.toList_inj.mp channels
  · exact congrArg ClassId.mk (String.toList_inj.mp classes)

/-- Who holds an NFT of a registered class. -/
def Deployment.holder (deployment : Deployment) (world : World Ledger) (classId : ClassId)
    (tokenId : TokenId) : Option Holder :=
  (world.storage.classIdToNftContract classId).bind fun contract =>
    (world.contracts.nfts deployment.api (contract, tokenId)).map fun token =>
      if token.owner = deployment.bridge then .escrow else .user

namespace Network

variable {ι : Type} (network : Network ι)

/-- The contents of a packet. -/
def payload (packet : IbcPacket) : Option NonFungibleTokenPacketData :=
  (network.json.packetData.fromBinary packet.data).toOption

/-- The channels of the network and the vouchers of its bridges. -/
def vouchers : VoucherNet ι String ClassId TokenId IbcPacket where
  peer := network.peer
  peer_symm := network.peer_symm
  peer_ne := network.peer_ne
  voucher chain channelId classId :=
    voucherClassId ⟨(network.deployment chain).portId, channelId⟩ classId
  voucher_inj := by
    intro here channelId other ends otherEnds classId otherClass opened otherOpened same
    exact voucherClassId_inj (network.channel_no_slash opened)
      (network.channel_no_slash otherOpened) same
  channel packet := packet.src.channelId
  cls packet := ((network.payload packet).map (·.classId)).getD ⟨""⟩
  token packet := ((network.payload packet).bind (·.tokenIds.head?)).getD ⟨""⟩

/-- Where the NFTs are, and what is under way. -/
def view (state : State ι) : VoucherState ι String ClassId TokenId IbcPacket where
  holder chain := (network.deployment chain).holder (state.worlds chain)
  outgoing chain classId tokenId :=
    (state.worlds chain).storage.outgoingClassTokenToChannel (classId, tokenId)
  incoming chain classId tokenId :=
    (state.worlds chain).storage.incomingClassTokenToChannel (classId, tokenId)
  pending chain packet := packet ∈ (state.worlds chain).commitments
  receipt chain packet := (state.acks chain packet).map fun ack =>
    (tryGetAckError (network.deployment chain).api ack).isNone

end Network

end Ics721
