import Ics721.Library.Codec
import Ics721.Library.Dispatch

/-!
# Tokens, messages and errors of the bridge

The wrapper types of `token_types.rs`, the messages of `msg.rs` and `ibc.rs`, and
the errors of `error.rs`.  A `WasmMsg` carries the message it executes as a typed
value in place of its JSON text: the only messages the bridge serializes for other
contracts are the ones listed in `ExecMsg`, and the text is read back by the
contract that executes it.  Packet data, acknowledgements and the `msg` of a
`ReceiveNft` do cross a trust boundary and stay byte strings.
-/

namespace Ics721

open Library

/-- A validated address. -/
structure Addr where
  addr : String
  deriving DecidableEq, Repr

/-- A token ID according to the ICS-721 spec. -/
structure TokenId where
  id : String
  deriving DecidableEq, Repr

/-- A class ID according to the ICS-721 spec. -/
structure ClassId where
  id : String
  deriving DecidableEq, Repr

/-- A token according to the ICS-721 spec. -/
structure Token where
  id : TokenId
  uri : Option String
  data : Option Binary
  deriving DecidableEq, Repr

/-- A class with its collection-level metadata. -/
structure Class where
  id : ClassId
  uri : Option String
  data : Option Binary
  deriving DecidableEq, Repr

structure VoucherRedemption where
  cls : Class
  tokenIds : List TokenId
  deriving DecidableEq, Repr

structure VoucherCreation where
  cls : Class
  tokens : List Token
  deriving DecidableEq, Repr

/-! ## IBC -/

structure IbcEndpoint where
  portId : String
  channelId : String
  deriving DecidableEq, Repr

structure IbcTimeoutBlock where
  revision : Nat
  height : Nat
  deriving DecidableEq, Repr

structure IbcTimeout where
  block : Option IbcTimeoutBlock
  timestamp : Option Nat
  deriving DecidableEq, Repr

/-- A packet as IBC core hands it to the bridge. -/
structure IbcPacket where
  data : Binary
  src : IbcEndpoint
  dest : IbcEndpoint
  sequence : Nat
  timeout : IbcTimeout
  deriving DecidableEq, Repr

/-- The payload of an ICS-721 packet. -/
structure NonFungibleTokenPacketData where
  classId : ClassId
  classUri : Option String
  classData : Option Binary
  tokenIds : List TokenId
  tokenUris : Option (List String)
  tokenData : Option (List Binary)
  sender : String
  receiver : String
  memo : Option String
  deriving DecidableEq, Repr

/-- The acknowledgement format shared with ICS-20. -/
inductive Ics721Ack where
  | result (data : Binary)
  | error (message : String)
  deriving DecidableEq, Repr

inductive IbcOrder where
  | unordered
  | ordered
  deriving DecidableEq, Repr

structure IbcChannel where
  endpoint : IbcEndpoint
  counterpartyEndpoint : IbcEndpoint
  order : IbcOrder
  version : String
  deriving DecidableEq, Repr

/-! ## Messages -/

/-- The `msg` field of a `ReceiveNft`: where to send the NFT. -/
structure IbcOutgoingMsg where
  receiver : String
  channelId : String
  timeout : IbcTimeout
  memo : Option String
  deriving DecidableEq, Repr

structure Cw721ReceiveMsg where
  sender : String
  tokenId : String
  msg : Binary
  deriving DecidableEq, Repr

/-- Messages of the cw721-base interface. -/
inductive Cw721ExecuteMsg where
  | transferNft (recipient : String) (tokenId : TokenId)
  | sendNft (contract : String) (tokenId : TokenId) (msg : Binary)
  | burn (tokenId : TokenId)
  | mint (tokenId : TokenId) (owner : String) (tokenUri : Option String)
  | approve (spender : String) (tokenId : TokenId)
  | revoke (spender : String) (tokenId : TokenId)
  | approveAll (operator : String)
  | revokeAll (operator : String)
  deriving DecidableEq, Repr

structure Cw721InstantiateMsg where
  name : String
  symbol : String
  minter : String
  deriving DecidableEq, Repr

/-- The instantiation messages the bridge sends: for a debt-voucher collection, or
for a proxy whose message is chosen by whoever instantiates the bridge. -/
inductive InitMsg where
  | cw721 (msg : Cw721InstantiateMsg)
  | other (msg : Binary)
  deriving DecidableEq, Repr

mutual

inductive WasmMsg where
  | execute (contractAddr : Addr) (msg : ExecMsg)
  | instantiate (admin : Option String) (codeId : Nat) (msg : InitMsg) (label : String)

/-- The message texts that contracts of the chain understand. -/
inductive ExecMsg where
  | bridge (msg : ExecuteMsg)
  | cw721 (msg : Cw721ExecuteMsg)
  | other (msg : Binary)

inductive ExecuteMsg where
  | receiveNft (msg : Cw721ReceiveMsg)
  | receiveProxyNft (eyeball : String) (msg : Cw721ReceiveMsg)
  | pause
  | callback (msg : CallbackMsg)

inductive CallbackMsg where
  | createVouchers (receiver : String) (create : VoucherCreation)
  | redeemVouchers (receiver : String) (redeem : VoucherRedemption)
  | mint (classId : ClassId) (receiver : String) (tokens : List Token)
  | conjunction (operands : List WasmMsg)

end

inductive IbcMsg where
  | sendPacket (channelId : String) (data : Binary) (timeout : IbcTimeout)

inductive CosmosMsg where
  | wasm (msg : WasmMsg)
  | ibc (msg : IbcMsg)

inductive Admin where
  | address (addr : String)
  | instantiator
  deriving DecidableEq, Repr

structure ContractInstantiateInfo where
  codeId : Nat
  msg : Binary
  admin : Option Admin
  label : String
  deriving DecidableEq, Repr

structure InstantiateMsg where
  cw721BaseCodeId : Nat
  proxy : Option ContractInstantiateInfo
  pauser : Option String
  deriving DecidableEq, Repr

inductive MigrateMsg where
  | withUpdate (pauser proxy : Option String)
  deriving DecidableEq, Repr

/-! ## Responses -/

structure Attribute where
  key : String
  value : String
  deriving DecidableEq, Repr

/-- What a submessage hands to the reply handler: the data a contract set, or the
address of a contract that was instantiated. -/
inductive ReplyData where
  | binary (data : Binary)
  | instantiated (contractAddress : String)
  deriving DecidableEq, Repr

structure Reply where
  id : Nat
  result : Except String (Option ReplyData)

/-- `Response` and `IbcBasicResponse`; the latter never sets data. -/
structure Response where
  messages : List (SubMsg CosmosMsg) := []
  attributes : List Attribute := []
  data : Option Binary := none

structure IbcReceiveResponse where
  messages : List (SubMsg CosmosMsg) := []
  attributes : List Attribute := []
  acknowledgement : Binary := []

/-- `SubMsg::new`: a message whose failure aborts the caller. -/
def CosmosMsg.sub (msg : CosmosMsg) : SubMsg CosmosMsg := ⟨msg, .never, 0⟩

/-- A wasm message added with `add_message`. -/
def WasmMsg.sub (msg : WasmMsg) : SubMsg CosmosMsg := (CosmosMsg.wasm msg).sub

/-! ## Errors -/

inductive StdError where
  | genericErr (msg : String)
  | parseErr (targetType msg : String)
  | notFound (kind : String)
  deriving DecidableEq, Repr

inductive PauseError where
  | std (error : StdError)
  | paused
  | unauthorized (sender : Addr)
  deriving DecidableEq, Repr

inductive ParseReplyError where
  | subMsgFailure (message : String)
  | parseFailure (message : String)
  deriving DecidableEq, Repr

inductive ContractError where
  | std (error : StdError)
  | pause (error : PauseError)
  | unauthorized
  | orderedChannel
  | invalidVersion (actual expected : String)
  | cantCloseChannel
  | emptyClassId
  | noTokens
  | emptyOptional
  | unrecognisedReplyId
  | parseReplyError (error : ParseReplyError)
  | tokenInfoLenMissmatch
  deriving DecidableEq, Repr

namespace StdError

protected def toString : StdError → String
  | .genericErr msg => "Generic error: " ++ msg
  | .parseErr targetType msg => "Error parsing into type " ++ targetType ++ ": " ++ msg
  | .notFound kind => kind ++ " not found"

end StdError

namespace PauseError

protected def toString : PauseError → String
  | .std error => error.toString
  | .paused => "contract is paused pending governance intervention"
  | .unauthorized sender => "unauthorized pauser (" ++ sender.addr ++ ")"

end PauseError

namespace ParseReplyError

protected def toString : ParseReplyError → String
  | .subMsgFailure message => "Failure response from sub-message: " ++ message
  | .parseFailure message => "Invalid reply from sub-message: " ++ message

end ParseReplyError

namespace ContractError

protected def toString : ContractError → String
  | .std error => error.toString
  | .pause error => error.toString
  | .unauthorized => "unauthorized"
  | .orderedChannel => "only unordered channels are supported"
  | .invalidVersion actual expected =>
      "invalid IBC channel version - got (" ++ actual ++ "), expected (" ++ expected ++ ")"
  | .cantCloseChannel => "ICS 721 channels may not be closed"
  | .emptyClassId => "empty class ID"
  | .noTokens => "must transfer at least one token"
  | .emptyOptional => "optional fields may not be empty if provided"
  | .unrecognisedReplyId => "unrecognised reply ID"
  | .parseReplyError error => error.toString
  | .tokenInfoLenMissmatch => "tokenIds, tokenUris, and tokenData must have the same length"

end ContractError

end Ics721
