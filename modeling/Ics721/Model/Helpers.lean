import Ics721.Library.Outcome
import Ics721.Model.Storage

/-!
# Helpers of the IBC entry points

The functions of `ibc_helpers.rs`: class-ID prefixes, acknowledgements, the channel
handshake check and the validation of packet data.
-/

namespace Ics721

open Library

/-- The IBC version the bridge expects to communicate with. -/
def ibcVersion : String := "ics721-1"

/-- The class-ID prefix for a given IBC endpoint. -/
def getEndpointPrefix (source : IbcEndpoint) : String :=
  source.portId ++ "/" ++ source.channelId ++ "/"

/-- `str::strip_prefix`: the rest of `text` after `start`, if it starts so. -/
def stripPrefix (text start : String) : Option String :=
  if start.toList.isPrefixOf text.toList then
    some (String.ofList (text.toList.drop start.toList.length))
  else
    none

theorem stripPrefix_eq_some {text start rest : String} :
    stripPrefix text start = some rest ↔ text = start ++ rest := by
  unfold stripPrefix
  split
  next starts =>
    rcases List.isPrefixOf_iff_prefix.mp starts with ⟨tail, same⟩
    rw [← same, List.drop_left]
    simp only [Option.some.injEq, ← String.toList_inj, String.toList_append,
      String.toList_ofList, ← same, List.append_cancel_left_eq]
  next differs =>
    simp only [reduceCtorEq, false_iff]
    intro same
    apply differs
    rw [same, String.toList_append]
    exact List.isPrefixOf_iff_prefix.mpr (List.prefix_append _ _)

/-- Remove the source prefix from a class ID, if it begins with that prefix. -/
def tryPopSourcePrefix (source : IbcEndpoint) (classId : String) : Option String :=
  stripPrefix classId (getEndpointPrefix source)

/-! ## Acknowledgements -/

/-- `b"1"`, the result of a successful acknowledgement. -/
def ackResult : Binary := [49]

def ackSuccess (api : Api) : Binary := api.ack.toBinary (.result ackResult)

def ackFail (api : Api) (err : String) : Binary := api.ack.toBinary (.error err)

/-- The base64 alphabet. -/
def base64Char (digit : Nat) : Char :=
  "ABCDEFGHIJKLMNOPQRSTUVWXYZabcdefghijklmnopqrstuvwxyz0123456789+/".toList.getD digit '='

/-- Padded base64 text of a byte string, three bytes at a time. -/
def base64Chars : Binary → List Char
  | [] => []
  | [a] =>
      let bits := a.toNat * 65536
      [base64Char (bits / 262144), base64Char (bits / 4096 % 64), '=', '=']
  | [a, b] =>
      let bits := a.toNat * 65536 + b.toNat * 256
      [base64Char (bits / 262144), base64Char (bits / 4096 % 64),
        base64Char (bits / 64 % 64), '=']
  | a :: b :: c :: rest =>
      let bits := a.toNat * 65536 + b.toNat * 256 + c.toNat
      base64Char (bits / 262144) :: base64Char (bits / 4096 % 64) ::
        base64Char (bits / 64 % 64) :: base64Char (bits % 64) :: base64Chars rest

/-- `Binary::to_base64`. -/
def toBase64 (data : Binary) : String := String.ofList (base64Chars data)

/-- The error carried by an acknowledgement.  What can not be parsed is a failure
whose text is the acknowledgement itself. -/
def tryGetAckError (api : Api) (acknowledgement : Binary) : Option String :=
  let ack := match api.ack.fromBinary acknowledgement with
    | .ok ack => ack
    | .error _ => .error (toBase64 acknowledgement)
  match ack with
  | .error message => some message
  | .result _ => none

theorem tryGetAckError_ackSuccess (api : Api) : tryGetAckError api (ackSuccess api) = none := by
  simp [tryGetAckError, ackSuccess]

theorem tryGetAckError_ackFail (api : Api) (error : String) :
    tryGetAckError api (ackFail api error) = some error := by
  simp [tryGetAckError, ackFail]

theorem ackSuccess_ne_ackFail (api : Api) (error : String) :
    ackSuccess api ≠ ackFail api error := by
  intro same
  have read := congrArg (tryGetAckError api) same
  rw [tryGetAckError_ackSuccess, tryGetAckError_ackFail] at read
  cases read

/-! ## Channels -/

/-- The bridge speaks `ics721-1` over unordered channels.  The counterparty's
version is checked whenever the handshake knows it. -/
def validateOrderAndVersion (channel : IbcChannel) (counterpartyVersion : Option String) :
    Except ContractError Unit :=
  if channel.order ≠ .unordered then
    .error .orderedChannel
  else if channel.version ≠ ibcVersion then
    .error (.invalidVersion channel.version ibcVersion)
  else
    match counterpartyVersion with
    | some version =>
        if version ≠ ibcVersion then .error (.invalidVersion version ibcVersion) else .ok ()
    | none => .ok ()

/-! ## Packet data -/

namespace NonFungibleTokenPacketData

/-- Check a packet that arrives from a counterparty.  Token IDs are not checked for
duplicates: the cw721 prevents minting of duplicates. -/
def validate (packet : NonFungibleTokenPacketData) : Except ContractError Unit :=
  let tokenCount := packet.tokenIds.length
  if packet.classId.id = "" then
    .error .emptyClassId
  else if packet.classUri.any (· = "") then
    .error .emptyOptional
  else if packet.classData.any (· = []) then
    .error .emptyOptional
  else if tokenCount = 0 then
    .error .noTokens
  else if packet.tokenData.any (·.length ≠ tokenCount) ||
      packet.tokenUris.any (·.length ≠ tokenCount) then
    .error .tokenInfoLenMissmatch
  else
    .ok ()

theorem validate_eq_ok {packet : NonFungibleTokenPacketData} :
    packet.validate = .ok () ↔
      packet.classId.id ≠ "" ∧ packet.classUri ≠ some "" ∧ packet.classData ≠ some [] ∧
        packet.tokenIds ≠ [] ∧
        (∀ list ∈ packet.tokenData, list.length = packet.tokenIds.length) ∧
        ∀ list ∈ packet.tokenUris, list.length = packet.tokenIds.length := by
  have held : ∀ {α : Type} [DecidableEq α] (option : Option α) (value : α),
      option.any (· = value) = true ↔ option = some value := by
    intro α _ option value
    cases option with
    | none => simp
    | some other => simp
  simp only [validate, ite_error_eq_ok, held, List.length_eq_zero_iff, Bool.or_eq_true, not_or,
    Bool.not_eq_true, Option.any_eq_false, ne_eq, and_true, decide_not, Bool.not_eq_eq_eq_not,
    Bool.not_false, decide_eq_true_eq, Option.mem_def]

end NonFungibleTokenPacketData

/-- `{:?}` of a string: quoted, with control and non-printable characters escaped. -/
def debugString (api : Api) (text : String) : String :=
  let escape (char : Char) : String :=
    if char = '"' then "\\\""
    else if char = '\\' then "\\\\"
    else if char = '\n' then "\\n"
    else if char = '\r' then "\\r"
    else if char = '\t' then "\\t"
    else if char = '\x00' then "\\0"
    else (api.debugEscape char).getD (String.ofList [char])
  "\"" ++ String.join (text.toList.map escape) ++ "\""

/-- `{:?}` of a list of token IDs. -/
def debugTokenIds (api : Api) (tokenIds : List TokenId) : String :=
  "[" ++ ", ".intercalate (tokenIds.map fun tokenId =>
    "TokenId(" ++ debugString api tokenId.id ++ ")") ++ "]"

end Ics721
