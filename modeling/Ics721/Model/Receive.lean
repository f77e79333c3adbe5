import Ics721.Model.Helpers

/-!
# Receiving a packet

`receive_ibc_packet` and its action aggregator, with the iterator of the
`zip-optional` package.  Every incoming token is either redeemed for the NFT the
bridge holds or becomes a new debt-voucher.  The fold that decides this writes the
outgoing and incoming maps itself; everything else is left to the callbacks that
the resulting submessage executes.
-/

namespace Ics721

open Library

/-- Submessage reply ID used for instantiating cw721 contracts. -/
def instantiateCw721ReplyId : Nat := 0

/-- Submessage reply ID used for instantiating the proxy contract. -/
def instantiateProxyReplyId : Nat := 1

/-- Submessages dispatched with this reply ID set the acknowledgement depending on
whether their execution succeeded. -/
def ackAndDoNothing : Nat := 2

/-- Pair every element with the one at the same place of an optional list.  The
iteration ends with the shorter of the two. -/
def zipOptional {α β : Type} (a : List α) : Option (List β) → List (α × Option β)
  | some b => (a.zip b).map fun item => (item.1, some item.2)
  | none => a.map fun item => (item, none)

/-- Every incoming token has some associated action. -/
inductive Action where
  | redemption (classId : ClassId) (tokenId : TokenId)
  | creation (classId : ClassId) (token : Token)
  deriving DecidableEq, Repr

/-- An incoming token as the two chained zips present it. -/
abbrev Incoming := (TokenId × Option String) × Option Binary

/-- The class ID of vouchers that are created for tokens of `classId`. -/
def voucherClassId (dest : IbcEndpoint) (classId : ClassId) : ClassId :=
  ⟨getEndpointPrefix dest ++ classId.id⟩

/-- The local class that an incoming token is redeemed from, if we previously sent
this NFT out on the channel it arrives on. -/
def returningToSource (dest : IbcEndpoint) (localClassId : Option String)
    (storage : Storage) (tokenId : TokenId) : Option ClassId :=
  match localClassId with
  | some localClassId =>
      let outgoingChannel :=
        storage.outgoingClassTokenToChannel (ClassId.mk localClassId, tokenId)
      if outgoingChannel = some dest.channelId then some ⟨localClassId⟩ else none
  | none => none

/-- Decide what to do with one incoming token and note it in the outgoing or the
incoming map. -/
def chooseAction (dest : IbcEndpoint) (classId : ClassId) (localClassId : Option String)
    (storage : Storage) (incoming : Incoming) : Storage × Action :=
  let ((tokenId, tokenUri), tokenData) := incoming
  match returningToSource dest localClassId storage tokenId with
  | some localClassId =>
      -- Unlock the local version for the receiver.
      ({ storage with
          outgoingClassTokenToChannel :=
            storage.outgoingClassTokenToChannel.remove (localClassId, tokenId) },
        .redemption localClassId tokenId)
  | none =>
      -- It's not something we've sent out before: make a new NFT.
      let voucherClass := voucherClassId dest classId
      ({ storage with
          incomingClassTokenToChannel :=
            storage.incomingClassTokenToChannel.save (voucherClass, tokenId) dest.channelId },
        .creation voucherClass ⟨tokenId, tokenUri, tokenData⟩)

/-- One step of the fold over the incoming tokens. -/
def selectAction (dest : IbcEndpoint) (classId : ClassId) (localClassId : Option String)
    (state : Storage × List Action) (incoming : Incoming) : Storage × List Action :=
  let (storage, messages) := state
  let (storage, action) := chooseAction dest classId localClassId storage incoming
  (storage, messages ++ [action])

/-- All actions of a packet have the same class metadata, redemptions share one
class ID and so do creations, so one copy of each is kept. -/
structure ActionAggregator where
  classUri : Option String
  classData : Option Binary
  redemption : Option VoucherRedemption
  creation : Option VoucherCreation
  deriving DecidableEq, Repr

namespace ActionAggregator

def new (classUri : Option String) (classData : Option Binary) : ActionAggregator :=
  ⟨classUri, classData, none, none⟩

def addAction (self : ActionAggregator) : Action → ActionAggregator
  | .redemption classId tokenId =>
      { self with
        redemption := match self.redemption with
          | some r => some { r with tokenIds := r.tokenIds ++ [tokenId] }
          | none => some ⟨⟨classId, self.classUri, self.classData⟩, [tokenId]⟩ }
  | .creation classId token =>
      { self with
        creation := match self.creation with
          | some c => some { c with tokens := c.tokens ++ [token] }
          | none => some ⟨⟨classId, self.classUri, self.classData⟩, [token]⟩ }

end ActionAggregator

/-- The message that redeems vouchers, addressed to the bridge itself. -/
def VoucherRedemption.intoWasmMsg (self : VoucherRedemption) (contract : Addr)
    (receiver : String) : WasmMsg :=
  .execute contract (.bridge (.callback (.redeemVouchers receiver self)))

/-- The message that creates vouchers, addressed to the bridge itself. -/
def VoucherCreation.intoWasmMsg (self : VoucherCreation) (contract : Addr)
    (receiver : String) : WasmMsg :=
  .execute contract (.bridge (.callback (.createVouchers receiver self)))

namespace ActionAggregator

/-- The messages of the aggregated actions, redemptions first. -/
def operands (self : ActionAggregator) (contract receiver : Addr) : List WasmMsg :=
  (self.redemption.map (·.intoWasmMsg contract receiver.addr)).toList ++
    (self.creation.map (·.intoWasmMsg contract receiver.addr)).toList

/-- One message is executed directly, several as a conjunction. -/
def message (self : ActionAggregator) (contract receiver : Addr) : WasmMsg :=
  match self.operands contract receiver with
  | [message] => message
  | operands => .execute contract (.bridge (.callback (.conjunction operands)))

def intoSubmessage (self : ActionAggregator) (contract receiver : Addr) : SubMsg CosmosMsg :=
  ⟨.wasm (self.message contract receiver), .always, ackAndDoNothing⟩

end ActionAggregator

/-- The tokens of a packet with their URIs and data. -/
def NonFungibleTokenPacketData.incoming (data : NonFungibleTokenPacketData) :
    List Incoming :=
  zipOptional (zipOptional data.tokenIds data.tokenUris) data.tokenData

/-- The fold over the tokens of a packet: the storage it leaves and the actions it
selects. -/
def selectActions (packet : IbcPacket) (data : NonFungibleTokenPacketData)
    (storage : Storage) : Storage × List Action :=
  data.incoming.foldl
    (selectAction packet.dest data.classId (tryPopSourcePrefix packet.src data.classId.id))
    (storage, [])

/-- Aggregate the actions selected for a packet. -/
def NonFungibleTokenPacketData.aggregate (data : NonFungibleTokenPacketData)
    (actions : List Action) : ActionAggregator :=
  actions.foldl ActionAggregator.addAction (.new data.classUri data.classData)

/-- Everything `receive_ibc_packet` checks before it looks at the tokens. -/
def checkIbcPacket (api : Api) (storage : Storage) (packet : IbcPacket) :
    Except ContractError (NonFungibleTokenPacketData × Addr) := do
  (storage.errorIfPaused).mapError .pause
  let data ← (api.packetData.fromBinary packet.data).mapError .std
  data.validate
  let receiver ← (api.addrValidate data.receiver).mapError .std
  return (data, receiver)

def receiveIbcPacket (api : Api) (contract : Addr) (storage : Storage)
    (packet : IbcPacket) : Except ContractError (Storage × IbcReceiveResponse) := do
  let (data, receiver) ← checkIbcPacket api storage packet
  let (storage, actions) := selectActions packet data storage
  let submessage := (data.aggregate actions).intoSubmessage contract receiver
  return (storage,
    { messages := [submessage]
      attributes := (data.memo.map fun memo => ⟨"ics721_memo", memo⟩).toList ++
        [⟨"method", "receive_ibc_packet"⟩, ⟨"class_id", data.classId.id⟩,
          ⟨"local_channel", packet.dest.channelId⟩,
          ⟨"counterparty_channel", packet.src.channelId⟩] })

end Ics721
