import Ics721.Model.Contract

/-!
# IBC entry points and replies

The entry points of `ibc.rs`: the channel handshake, receiving, acknowledging and
timing out packets, and the reply handler.
-/

namespace Ics721

open Library

/-! ## Channels -/

def ibcChannelOpen (channel : IbcChannel) (counterpartyVersion : Option String) :
    Except ContractError Unit :=
  validateOrderAndVersion channel counterpartyVersion

def ibcChannelConnect (channel : IbcChannel) (counterpartyVersion : Option String) :
    Except ContractError Response := do
  validateOrderAndVersion channel counterpartyVersion
  return { attributes := [⟨"method", "ibc_channel_connect"⟩,
    ⟨"channel", channel.endpoint.channelId⟩, ⟨"port", channel.endpoint.portId⟩] }

inductive IbcChannelCloseMsg where
  | closeInit (channel : IbcChannel)
  | closeConfirm (channel : IbcChannel)

/-- The bridge never closes a channel, but can not keep a counterparty from it. -/
def ibcChannelClose : IbcChannelCloseMsg → Except ContractError Response
  | .closeInit _ => .error .cantCloseChannel
  | .closeConfirm _ => .ok {}

/-! ## Packets -/

/-- Regardless of whether the packet can be processed an acknowledgement has to be
committed, so an error becomes a failed one. -/
def ibcPacketReceive (api : Api) (contract : Addr) (storage : Storage)
    (packet : IbcPacket) : Storage × IbcReceiveResponse :=
  match receiveIbcPacket api contract storage packet with
  | .ok result => result
  | .error error =>
      (storage,
        { attributes := [⟨"method", "ibc_packet_receive"⟩, ⟨"error", error.toString⟩]
          acknowledgement := ackFail api error.toString })

/-- Return the NFT locked in the bridge to the sender. -/
def handlePacketFail (api : Api) (storage : Storage) (packet : IbcPacket)
    (error : String) : Except ContractError (Storage × Response) := do
  let message ← (api.packetData.fromBinary packet.data).mapError .std
  let nftAddress ← (storage.loadNftContract message.classId).mapError .std
  let sender ← (api.addrValidate message.sender).mapError .std
  let outgoing := message.tokenIds.foldl
    (fun outgoing tokenId => outgoing.remove (message.classId, tokenId))
    storage.outgoingClassTokenToChannel
  let messages := message.tokenIds.map fun tokenId =>
    WasmMsg.execute nftAddress (.cw721 (.transferNft sender.addr tokenId))
  return ({ storage with outgoingClassTokenToChannel := outgoing },
    { messages := messages.map (·.sub)
      attributes := [⟨"method", "handle_packet_fail"⟩,
        ⟨"token_ids", debugTokenIds api message.tokenIds⟩,
        ⟨"class_id", message.classId.id⟩, ⟨"channel_id", packet.src.channelId⟩,
        ⟨"address_refunded", message.sender⟩, ⟨"error", error⟩] })

/-- One step of the fold over the tokens of a packet that arrived: a voucher that
came in on this channel is back at its source, so it is burned here. -/
def burnNotice (classId : ClassId) (channelId : String) (nftContract : Addr)
    (state : Storage × List WasmMsg) (token : TokenId) : Storage × List WasmMsg :=
  let (storage, messages) := state
  let key := (classId, token)
  if storage.incomingClassTokenToChannel key = some channelId then
    -- This token's journey is complete, for now.
    ({ storage with
        incomingClassTokenToChannel := storage.incomingClassTokenToChannel.remove key
        tokenMetadata := storage.tokenMetadata.remove key },
      messages ++ [.execute nftContract (.cw721 (.burn token))])
  else
    (storage, messages)

theorem burnNotice_returning {classId : ClassId} {channelId : String} {nftContract : Addr}
    {storage : Storage} {messages : List WasmMsg} {token : TokenId}
    (returning : storage.incomingClassTokenToChannel (classId, token) = some channelId) :
    burnNotice classId channelId nftContract (storage, messages) token =
      ({ storage with
          incomingClassTokenToChannel :=
            storage.incomingClassTokenToChannel.remove (classId, token)
          tokenMetadata := storage.tokenMetadata.remove (classId, token) },
        messages ++ [.execute nftContract (.cw721 (.burn token))]) := by
  simp [burnNotice, returning]

theorem burnNotice_staying {classId : ClassId} {channelId : String} {nftContract : Addr}
    {storage : Storage} {messages : List WasmMsg} {token : TokenId}
    (staying : storage.incomingClassTokenToChannel (classId, token) ≠ some channelId) :
    burnNotice classId channelId nftContract (storage, messages) token =
      (storage, messages) := by
  simp [burnNotice, staying]

/-- The packet arrived: burn what has returned to its source. -/
def handlePacketSuccess (api : Api) (storage : Storage) (packet : IbcPacket) :
    Except ContractError (Storage × Response) := do
  let msg ← (api.packetData.fromBinary packet.data).mapError .std
  let nftContract ← (storage.loadNftContract msg.classId).mapError .std
  let (storage, burnNotices) := msg.tokenIds.foldl
    (burnNotice msg.classId packet.src.channelId nftContract) (storage, [])
  return (storage,
    { messages := burnNotices.map (·.sub)
      attributes := [⟨"method", "acknowledge"⟩, ⟨"sender", msg.sender⟩,
        ⟨"receiver", msg.receiver⟩, ⟨"classId", msg.classId.id⟩,
        ⟨"token_ids", debugTokenIds api msg.tokenIds⟩] })

def ibcPacketAck (api : Api) (storage : Storage) (originalPacket : IbcPacket)
    (acknowledgement : Binary) : Except ContractError (Storage × Response) :=
  match tryGetAckError api acknowledgement with
  | some error => handlePacketFail api storage originalPacket error
  | none => handlePacketSuccess api storage originalPacket

def ibcPacketTimeout (api : Api) (storage : Storage) (packet : IbcPacket) :
    Except ContractError (Storage × Response) :=
  handlePacketFail api storage packet "timeout"

/-! ## Replies -/

/-- The address in the reply to an instantiation. -/
def parseReplyInstantiateData (reply : Reply) : Except ParseReplyError String :=
  match reply.result with
  | .error error => .error (.subMsgFailure error)
  | .ok (some (.instantiated contractAddress)) => .ok contractAddress
  | .ok _ => .error (.parseFailure "Missing reply data")

/-- A voucher collection has been instantiated: enter it into the registry.  Its
name is the class ID. -/
def replyInstantiateCw721 (api : Api) (querier : Querier) (storage : Storage)
    (reply : Reply) : Except ContractError (Storage × Response) := do
  let contractAddress ← (parseReplyInstantiateData reply).mapError .parseReplyError
  let cw721Addr ← (api.addrValidate contractAddress).mapError .std
  let name ← (querier.contractInfo cw721Addr).mapError .std
  let classId : ClassId := ⟨name⟩
  return ({ storage with
      classIdToNftContract := storage.classIdToNftContract.save classId cw721Addr
      nftContractToClassId := storage.nftContractToClassId.save cw721Addr classId },
    { attributes := [⟨"method", "instantiate_cw721_reply"⟩, ⟨"class_id", classId.id⟩,
        ⟨"cw721_addr", cw721Addr.addr⟩] })

def replyInstantiateProxy (api : Api) (storage : Storage) (reply : Reply) :
    Except ContractError (Storage × Response) := do
  let contractAddress ← (parseReplyInstantiateData reply).mapError .parseReplyError
  let proxyAddr ← (api.addrValidate contractAddress).mapError .std
  return ({ storage with proxy := some proxyAddr },
    { attributes := [⟨"method", "instantiate_proxy_reply_id"⟩, ⟨"proxy", contractAddress⟩] })

def reply (api : Api) (querier : Querier) (storage : Storage) (reply : Reply) :
    Except ContractError (Storage × Response) :=
  if reply.id = instantiateCw721ReplyId then
    replyInstantiateCw721 api querier storage reply
  else if reply.id = instantiateProxyReplyId then
    replyInstantiateProxy api storage reply
  else if reply.id = ackAndDoNothing then
    -- No state changes: the data of this response becomes the acknowledgement.
    match reply.result with
    | .ok _ => .ok (storage, { data := some (ackSuccess api) })
    | .error err => .ok (storage, { data := some (ackFail api err) })
  else
    .error .unrecognisedReplyId

section Replies

variable (api : Api) (querier : Querier) (storage : Storage)

theorem reply_instantiateCw721 (result : Except String (Option ReplyData)) :
    reply api querier storage ⟨instantiateCw721ReplyId, result⟩ =
      replyInstantiateCw721 api querier storage ⟨instantiateCw721ReplyId, result⟩ :=
  rfl

theorem reply_instantiateProxy (result : Except String (Option ReplyData)) :
    reply api querier storage ⟨instantiateProxyReplyId, result⟩ =
      replyInstantiateProxy api storage ⟨instantiateProxyReplyId, result⟩ :=
  rfl

theorem reply_ackSuccess (data : Option ReplyData) :
    reply api querier storage ⟨ackAndDoNothing, .ok data⟩ =
      .ok (storage, { data := some (ackSuccess api) }) :=
  rfl

theorem reply_ackFail (err : String) :
    reply api querier storage ⟨ackAndDoNothing, .error err⟩ =
      .ok (storage, { data := some (ackFail api err) }) :=
  rfl

end Replies

end Ics721
