import Ics721.Receive.Transaction

/-!
# Attributes of responses

The host trims the attributes of a response and rejects the response if nothing is left of one.
What the bridge answers to a packet repeats the memo and the class ID of the packet and the names
of its channels, or the text of an error.
-/

namespace Ics721

open Library

/-- The characters that the host trims off the value of an attribute. -/
def isSpace (char : Char) : Bool :=
  [0x9, 0xA, 0xB, 0xC, 0xD, 0x20, 0x85, 0xA0, 0x1680, 0x2028, 0x2029, 0x202F, 0x205F,
      0x3000].contains char.val ||
    (0x2000 ≤ char.val && char.val ≤ 0x200A)

/-- Nothing is left of the text when it is trimmed. -/
def Blank (text : String) : Prop := ∀ char ∈ text.toList, isSpace char = true

instance (text : String) : Decidable (Blank text) :=
  List.decidableBAll (fun char => isSpace char = true) text.toList

/-- The host rejects a response if an attribute of it is blank. -/
def Admitted (attributes : List Attribute) : Prop :=
  ∀ entry ∈ attributes, ¬Blank entry.value

/-- The host accepts the memo of a packet as an attribute. -/
def MemoAdmitted (memo : Option String) : Prop := ∀ text, memo = some text → ¬Blank text

theorem memoAdmitted_none : MemoAdmitted none := by
  intro text attached
  cases attached

/-- What the host gives names to has no blank name. -/
structure Chain.Legible (chain : Chain) : Prop where
  address : ∀ {text}, chain.api.addrValid text = true → ¬Blank text
  channel : ∀ {channelId}, chain.counterparty channelId ≠ none → ¬Blank channelId

theorem isSpace_of_lower_or_digit {char : Char} (named : (char.isLower || char.isDigit) = true) :
    isSpace char = false := by
  delta Char.isLower Char.isDigit at named
  simp only [Bool.or_eq_true, Bool.and_eq_true, decide_eq_true_eq, UInt32.le_iff_toNat_le,
    ge_iff_le] at named
  simp only [isSpace, List.contains_cons, List.contains_nil, Bool.or_eq_false_iff,
    Bool.and_eq_false_iff, beq_eq_false_iff_ne, ne_eq, ← UInt32.toNat_inj,
    decide_eq_false_iff_not, UInt32.le_iff_toNat_le, Char.reduceVal, UInt32.reduceToNat,
    and_true] at named ⊢
  omega

theorem blank_append {left right : String} :
    Blank (left ++ right) ↔ Blank left ∧ Blank right := by
  simp only [Blank, String.toList_append, List.forall_mem_append]

theorem not_blank_append_left {left : String} (right : String) (shown : ¬Blank left) :
    ¬Blank (left ++ right) := by
  intro blank
  exact shown (blank_append.mp blank).1

theorem not_blank_append_right (left : String) {right : String} (shown : ¬Blank right) :
    ¬Blank (left ++ right) := by
  intro blank
  exact shown (blank_append.mp blank).2

/-- The text of an error is not blank. -/
theorem not_blank_stdError (error : StdError) : ¬Blank error.toString := by
  cases error with
  | genericErr msg =>
      have text : ¬Blank "Generic error: " := by decide +kernel
      exact not_blank_append_left msg text
  | parseErr targetType msg =>
      have text : ¬Blank ": " := by decide +kernel
      exact not_blank_append_left msg (not_blank_append_right _ text)
  | notFound kind =>
      have text : ¬Blank " not found" := by decide +kernel
      exact not_blank_append_right kind text

theorem not_blank_pauseError (error : PauseError) : ¬Blank error.toString := by
  cases error with
  | std error => exact not_blank_stdError error
  | paused => decide +kernel
  | unauthorized sender =>
      have text : ¬Blank ")" := by decide +kernel
      exact not_blank_append_right _ text

theorem not_blank_parseReplyError (error : ParseReplyError) : ¬Blank error.toString := by
  cases error with
  | subMsgFailure message =>
      have text : ¬Blank "Failure response from sub-message: " := by decide +kernel
      exact not_blank_append_left message text
  | parseFailure message =>
      have text : ¬Blank "Invalid reply from sub-message: " := by decide +kernel
      exact not_blank_append_left message text

theorem not_blank_contractError (error : ContractError) : ¬Blank error.toString := by
  cases error with
  | std error => exact not_blank_stdError error
  | pause error => exact not_blank_pauseError error
  | parseReplyError error => exact not_blank_parseReplyError error
  | invalidVersion actual expected =>
      have text : ¬Blank ")" := by decide +kernel
      exact not_blank_append_right _ text
  | _ => decide +kernel

/-! ## Receiving a packet -/

/-- The attributes of a packet that passed the checks. -/
theorem receiveIbcPacket_of_checked (bridge : Addr) {api : Api} {storage after : Storage}
    {packet : IbcPacket} {data : NonFungibleTokenPacketData} {receiver : Addr}
    {actions : List Action}
    (checked : checkIbcPacket api storage packet = .ok (data, receiver))
    (selected : selectActions packet data storage = (after, actions)) :
    receiveIbcPacket api bridge storage packet =
      .ok (after,
        { messages := [(data.aggregate actions).intoSubmessage bridge receiver]
          attributes := (data.memo.map fun memo => ⟨"ics721_memo", memo⟩).toList ++
            [⟨"method", "receive_ibc_packet"⟩, ⟨"class_id", data.classId.id⟩,
              ⟨"local_channel", packet.dest.channelId⟩,
              ⟨"counterparty_channel", packet.src.channelId⟩] }) := by
  simp only [receiveIbcPacket, checked, ok_bind, selected]
  rfl

/-- The attributes of the response are admitted unless the memo is blank. -/
theorem admitted_iff {data : NonFungibleTokenPacketData} {here there : String}
    (named : ¬Blank data.classId.id) (near : ¬Blank here) (far : ¬Blank there) :
    Admitted ((data.memo.map fun memo => ⟨"ics721_memo", memo⟩).toList ++
        [⟨"method", "receive_ibc_packet"⟩, ⟨"class_id", data.classId.id⟩,
          ⟨"local_channel", here⟩, ⟨"counterparty_channel", there⟩]) ↔
      MemoAdmitted data.memo := by
  have method : ¬Blank "receive_ibc_packet" := by decide
  cases data.memo with
  | none => simp [Admitted, MemoAdmitted, named, near, far, method]
  | some memo => simp [Admitted, MemoAdmitted, named, near, far, method]

/-- Nothing that the answer to a packet repeats is blank. -/
structure Readable (packet : IbcPacket) (data : NonFungibleTokenPacketData) : Prop where
  near : ¬Blank packet.dest.channelId
  far : ¬Blank packet.src.channelId
  classId : ¬Blank data.classId.id
  memo : MemoAdmitted data.memo

/-- The host accepts what the bridge answers to a readable packet, or to no packet at all. -/
theorem admitted_ibcPacketReceive {api : Api} (bridge : Addr) (storage : Storage)
    {packet : IbcPacket}
    (readable : ∀ data, api.packetData.fromBinary packet.data = .ok data →
      Readable packet data) :
    Admitted (ibcPacketReceive api bridge storage packet).2.attributes := by
  cases checked : checkIbcPacket api storage packet with
  | error error =>
      have method : ¬Blank "ibc_packet_receive" := by decide
      simp [ibcPacketReceive, receiveIbcPacket, checked, Admitted, method,
        not_blank_contractError]
  | ok outcome =>
      rcases outcome with ⟨data, receiver⟩
      rcases readable data (checkIbcPacket_eq_ok.mp checked).2.1 with ⟨near, far, named, memo⟩
      simp only [ibcPacketReceive, receiveIbcPacket_of_checked bridge checked rfl]
      exact (admitted_iff named near far).mpr memo

end Ics721
