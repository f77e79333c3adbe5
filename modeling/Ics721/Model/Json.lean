import Ics721.Library.Format
import Ics721.Model.Helpers

/-!
# The JSON texts of the bridge

The texts that `serde` writes for packet data, acknowledgements and the `msg` of a
`ReceiveNft`: fields in the order of their declarations, absent options as `null`, byte
strings as base64 and timestamps as strings.  Reading accepts exactly these texts.  The
rest of the development only relies on the round trip.
-/

namespace Ics721

open Library

/-! ## Base64 -/

/-- The value of a base64 character. -/
def base64Digit (char : Char) : Option Nat :=
  "ABCDEFGHIJKLMNOPQRSTUVWXYZabcdefghijklmnopqrstuvwxyz0123456789+/".toList.findIdx? (· = char)

/-- Read padded base64 text, four characters at a time. -/
def fromBase64Chars : List Char → Option Binary
  | [] => some []
  | a :: b :: c :: d :: rest => do
      let a ← base64Digit a
      let b ← base64Digit b
      if d = '=' then
        if rest ≠ [] then
          none
        else if c = '=' then
          return [UInt8.ofNat (a * 4 + b / 16)]
        else do
          let c ← base64Digit c
          return [UInt8.ofNat (a * 4 + b / 16), UInt8.ofNat (b % 16 * 16 + c / 4)]
      else do
        let c ← base64Digit c
        let d ← base64Digit d
        let more ← fromBase64Chars rest
        return UInt8.ofNat (a * 4 + b / 16) :: UInt8.ofNat (b % 16 * 16 + c / 4) ::
          UInt8.ofNat (c % 4 * 64 + d) :: more
  | _ => none

theorem base64Digit_base64Char : ∀ digit < 64,
    base64Digit (base64Char digit) = some digit ∧ base64Char digit ≠ '=' := by
  decide +kernel

theorem fromBase64Chars_base64Chars (data : Binary) :
    fromBase64Chars (base64Chars data) = some data := by
  have digit : ∀ value, base64Digit (base64Char (value % 64)) = some (value % 64) :=
    fun value => (base64Digit_base64Char _ (Nat.mod_lt _ (by decide))).1
  have notPad : ∀ value, base64Char (value % 64) ≠ '=' :=
    fun value => (base64Digit_base64Char _ (Nat.mod_lt _ (by decide))).2
  induction data using base64Chars.induct with
  | case1 => rfl
  | case2 a =>
      have bound := a.toNat_lt
      have high : base64Digit (base64Char (a.toNat * 65536 / 262144)) =
          some (a.toNat * 65536 / 262144) := (base64Digit_base64Char _ (by omega)).1
      have byte : a.toNat * 65536 / 262144 * 4 + a.toNat * 65536 / 4096 % 64 / 16 = a.toNat := by
        omega
      simp only [base64Chars, fromBase64Chars, high, digit, byte, UInt8.ofNat_toNat,
        Option.bind_eq_bind, Option.bind_some, ne_eq, not_true_eq_false, if_false, if_true]
      rfl
  | case3 a b =>
      have boundA := a.toNat_lt
      have boundB := b.toNat_lt
      simp only [base64Chars, fromBase64Chars]
      generalize combined : a.toNat * 65536 + b.toNat * 256 = bits
      have high : base64Digit (base64Char (bits / 262144)) = some (bits / 262144) :=
        (base64Digit_base64Char _ (by omega)).1
      have first : bits / 262144 * 4 + bits / 4096 % 64 / 16 = a.toNat := by omega
      have second : bits / 4096 % 64 % 16 * 16 + bits / 64 % 64 / 4 = b.toNat := by omega
      simp only [high, digit, notPad, first, second, UInt8.ofNat_toNat, Option.bind_eq_bind,
        Option.bind_some, ne_eq, not_true_eq_false, if_false, if_true]
      rfl
  | case4 a b c rest ih =>
      have boundA := a.toNat_lt
      have boundB := b.toNat_lt
      have boundC := c.toNat_lt
      simp only [base64Chars, fromBase64Chars]
      generalize combined : a.toNat * 65536 + b.toNat * 256 + c.toNat = bits
      have high : base64Digit (base64Char (bits / 262144)) = some (bits / 262144) :=
        (base64Digit_base64Char _ (by omega)).1
      have first : bits / 262144 * 4 + bits / 4096 % 64 / 16 = a.toNat := by omega
      have second : bits / 4096 % 64 % 16 * 16 + bits / 64 % 64 / 4 = b.toNat := by omega
      have third : bits / 64 % 64 % 4 * 64 + bits % 64 = c.toNat := by omega
      simp only [high, digit, notPad, first, second, third, ih, UInt8.ofNat_toNat,
        Option.bind_eq_bind, Option.bind_some, if_false]
      rfl

namespace Json

open Format

/-- A byte string. -/
def bytes : Format Binary :=
  refine str toBase64 (fun text => fromBase64Chars text.toList) (by
    intro data
    simp [toBase64, fromBase64Chars_base64Chars])

theorem startsWith_bytes : bytes.StartsWith '"' :=
  fun data => ⟨escape (toBase64 data).toList, rfl⟩

def nullableStr : Format (Option String) := nullable str startsWith_str (by decide)

def nullableBytes : Format (Option Binary) := nullable bytes startsWith_bytes (by decide)

def strings : Format (List String) := list str startsWith_str (by decide)

def byteStrings : Format (List Binary) := list bytes startsWith_bytes (by decide)

def tokenIds : Format (List TokenId) :=
  refine strings (List.map TokenId.id) (fun ids => some (ids.map TokenId.mk)) (by
    intro ids
    rw [List.map_map]
    exact congrArg some (List.map_id ids))

/-- `NonFungibleTokenPacketData`. -/
def packetDataFormat : Format NonFungibleTokenPacketData :=
  refine
    (seq (after "\x7b\"classId\":".toList str) <|
      seq (after ",\"classUri\":".toList nullableStr) <|
      seq (after ",\"classData\":".toList nullableBytes) <|
      seq (after ",\"tokenIds\":".toList tokenIds) <|
      seq (after ",\"tokenUris\":".toList
        (nullable strings (startsWith_list _ _ _) (by decide))) <|
      seq (after ",\"tokenData\":".toList
        (nullable byteStrings (startsWith_list _ _ _) (by decide))) <|
      seq (after ",\"sender\":".toList str) <|
      seq (after ",\"receiver\":".toList str) <|
      before (after ",\"memo\":".toList nullableStr) ['\x7d'])
    (fun data => (data.classId.id, data.classUri, data.classData, data.tokenIds, data.tokenUris,
      data.tokenData, data.sender, data.receiver, data.memo))
    (fun (classId, classUri, classData, tokenIds, tokenUris, tokenData, sender, receiver, memo) =>
      some ⟨⟨classId⟩, classUri, classData, tokenIds, tokenUris, tokenData, sender, receiver,
        memo⟩)
    (fun _ => rfl)

/-- `Ics721Ack`. -/
def ackFormat : Format Ics721Ack :=
  refine
    (either
      (after "\x7b\"result\":".toList (before bytes ['\x7d']))
      (after "\x7b\"error\":".toList (before str ['\x7d']))
      (fun _ _ => rfl))
    (fun
      | .result data => .inl data
      | .error message => .inr message)
    (fun
      | .inl data => some (.result data)
      | .inr message => some (.error message))
    (by
      intro ack
      cases ack with
      | result data => rfl
      | error message => rfl)

def timeoutBlockFormat : Format IbcTimeoutBlock :=
  refine
    (seq (after "\x7b\"revision\":".toList (natUntil ',' rfl))
      (after "\"height\":".toList (natUntil '\x7d' rfl)))
    (fun block => (block.revision, block.height))
    (fun (revision, height) => some ⟨revision, height⟩)
    (fun _ => rfl)

def timeoutFormat : Format IbcTimeout :=
  refine
    (seq
      (after "\x7b\"block\":".toList (nullable timeoutBlockFormat
        (fun _ => ⟨_, rfl⟩) (by decide : '\x7b' ≠ 'n')))
      (before
        (after ",\"timestamp\":".toList (nullable (after ['"'] (natUntil '"' rfl))
          startsWith_after (by decide)))
        ['\x7d']))
    (fun timeout => (timeout.block, timeout.timestamp))
    (fun (block, timestamp) => some ⟨block, timestamp⟩)
    (fun _ => rfl)

/-- `IbcOutgoingMsg`. -/
def ibcOutgoingFormat : Format IbcOutgoingMsg :=
  refine
    (seq (after "\x7b\"receiver\":".toList str) <|
      seq (after ",\"channel_id\":".toList str) <|
      seq (after ",\"timeout\":".toList timeoutFormat) <|
      before (after ",\"memo\":".toList nullableStr) ['\x7d'])
    (fun msg => (msg.receiver, msg.channelId, msg.timeout, msg.memo))
    (fun (receiver, channelId, timeout, memo) => some ⟨receiver, channelId, timeout, memo⟩)
    (fun _ => rfl)

/-- The codecs of the bridge. -/
def serde : Json where
  packetData := packetDataFormat.codec
    (.parseErr "cw_ics721_bridge::ibc::NonFungibleTokenPacketData" "Invalid JSON") rfl
  ack := ackFormat.codec (.parseErr "cw_ics721_bridge::ibc_helpers::Ics721Ack" "Invalid JSON") rfl
  ibcOutgoing := ibcOutgoingFormat.codec
    (.parseErr "cw_ics721_bridge::msg::IbcOutgoingMsg" "Invalid JSON") rfl

end Json

example : String.ofList (Json.packetDataFormat.print
    ⟨⟨"stars1zedx"⟩, some "https://metadata-url.com/my-metadata", none, [⟨"1"⟩, ⟨"2"⟩],
      some ["https://metadata-url.com/1", "https://metadata-url.com/2"], none, "stars1zedx",
      "wasm1fucy", none⟩) =
    "\x7b\"classId\":\"stars1zedx\"," ++
      "\"classUri\":\"https://metadata-url.com/my-metadata\",\"classData\":null," ++
      "\"tokenIds\":[\"1\",\"2\"]," ++
      "\"tokenUris\":[\"https://metadata-url.com/1\",\"https://metadata-url.com/2\"]," ++
      "\"tokenData\":null,\"sender\":\"stars1zedx\",\"receiver\":\"wasm1fucy\"," ++
      "\"memo\":null\x7d" := by
  decide +kernel

end Ics721
