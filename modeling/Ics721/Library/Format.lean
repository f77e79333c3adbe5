import Mathlib.Data.Nat.Digits.Defs
import Ics721.Library.Codec

/-!
# Textual formats

A format prints values and reads them back off the front of a text.  Formats are
self-delimiting: what follows a printed value does not change how it is read.  Larger
formats are put together from smaller ones, and each combinator keeps the round trip.
-/

namespace Ics721.Library

/-- How values of `α` are printed and read back. -/
structure Format (α : Type) where
  print : α → List Char
  parse : List Char → Option (α × List Char)
  parse_print : ∀ value rest, parse (print value ++ rest) = some (value, rest)

namespace Format

variable {α β : Type}

/-- All values are printed with the same first character. -/
def StartsWith (format : Format α) (first : Char) : Prop :=
  ∀ value, ∃ rest, format.print value = first :: rest

/-! ## Fixed texts and sequences -/

/-- Drop a text from the front of another one. -/
def skip : List Char → List Char → Option (List Char)
  | [], text => some text
  | _ :: _, [] => none
  | expected :: more, char :: text => if char = expected then skip more text else none

theorem skip_append (text rest : List Char) : skip text (text ++ rest) = some rest := by
  induction text with
  | nil => rfl
  | cons char text ih => simpa [skip] using ih

/-- A fixed text. -/
def lit (text : List Char) : Format Unit where
  print _ := text
  parse input := (skip text input).map fun rest => ((), rest)
  parse_print value rest := by simp [skip_append]

/-- One format after another. -/
def seq (first : Format α) (second : Format β) : Format (α × β) where
  print value := first.print value.1 ++ second.print value.2
  parse input := do
    let (left, rest) ← first.parse input
    let (right, rest) ← second.parse rest
    return ((left, right), rest)
  parse_print value rest := by
    rw [List.append_assoc, first.parse_print]
    simp [second.parse_print]

/-- A fixed text before a value. -/
def after (text : List Char) (format : Format α) : Format α where
  print value := text ++ format.print value
  parse input := (skip text input).bind format.parse
  parse_print value rest := by
    rw [List.append_assoc, skip_append]
    exact format.parse_print value rest

/-- A value followed by a fixed text. -/
def before (format : Format α) (text : List Char) : Format α where
  print value := format.print value ++ text
  parse input := do
    let (value, rest) ← format.parse input
    let rest ← skip text rest
    return (value, rest)
  parse_print value rest := by
    rw [List.append_assoc, format.parse_print]
    simp [skip_append]

/-- Values that are represented by values of another format. -/
def refine (format : Format β) (encode : α → β) (decode : β → Option α)
    (decode_encode : ∀ value, decode (encode value) = some value) : Format α where
  print value := format.print (encode value)
  parse input := do
    let (found, rest) ← format.parse input
    let value ← decode found
    return (value, rest)
  parse_print value rest := by
    rw [format.parse_print]
    simp [decode_encode]

theorem startsWith_after {format : Format α} {first : Char} {text : List Char} :
    (after (first :: text) format).StartsWith first :=
  fun value => ⟨text ++ format.print value, rfl⟩

/-! ## Alternatives -/

/-- Read with the first format, or with the second one if that fails. -/
def either (first : Format α) (second : Format β)
    (disjoint : ∀ value rest, first.parse (second.print value ++ rest) = none) :
    Format (α ⊕ β) where
  print
    | .inl value => first.print value
    | .inr value => second.print value
  parse input :=
    match first.parse input with
    | some (value, rest) => some (.inl value, rest)
    | none => (second.parse input).map fun found => (.inr found.1, found.2)
  parse_print value rest := by
    cases value with
    | inl value => simp [first.parse_print]
    | inr value => simp [disjoint, second.parse_print]

/-- An optional value; `null` stands for its absence. -/
def nullable (format : Format α) {first : Char} (starts : format.StartsWith first)
    (notNull : first ≠ 'n') : Format (Option α) :=
  refine
    (either (lit ['n', 'u', 'l', 'l']) format (by
      intro value rest
      rcases starts value with ⟨tail, same⟩
      simp [lit, same, skip, notNull]))
    (fun
      | none => .inl ()
      | some value => .inr value)
    (fun
      | .inl () => some none
      | .inr value => some (some value))
    (by
      intro value
      cases value with
      | none => rfl
      | some value => rfl)

/-! ## Strings -/

/-- The characters of a string up to its closing quote. -/
def escape : List Char → List Char
  | [] => ['"']
  | char :: text =>
      if char = '"' ∨ char = '\\' then '\\' :: char :: escape text else char :: escape text

def unescape : List Char → Option (List Char × List Char)
  | [] => none
  | '"' :: rest => some ([], rest)
  | '\\' :: char :: rest => (unescape rest).map fun found => (char :: found.1, found.2)
  | char :: rest => (unescape rest).map fun found => (char :: found.1, found.2)

theorem unescape_escape (text rest : List Char) :
    unescape (escape text ++ rest) = some (text, rest) := by
  induction text with
  | nil => rfl
  | cons char text ih =>
      unfold escape
      split
      next special => simp [unescape, ih]
      next plain =>
        simp only [not_or] at plain
        rw [List.cons_append, unescape, ih]
        · rfl
        · exact plain.1
        · intro other rest' isEscape
          exact absurd isEscape plain.2

/-- A quoted string. -/
def str : Format String :=
  refine
    (after ['"'] { print := escape, parse := unescape, parse_print := unescape_escape })
    String.toList (fun text => some (String.ofList text))
    (fun value => by simp)

theorem startsWith_str : str.StartsWith '"' := fun value => ⟨escape value.toList, rfl⟩

/-! ## Lists -/

section Lists

variable (format : Format α)

/-- The items of a list after the first one, each behind a comma. -/
def printTail : List α → List Char
  | [] => [']']
  | item :: items => ',' :: (format.print item ++ printTail items)

/-- `fuel` bounds the number of items. -/
def parseTail : Nat → List Char → Option (List α × List Char)
  | _, ']' :: rest => some ([], rest)
  | fuel + 1, ',' :: rest => do
      let (item, rest) ← format.parse rest
      let (items, rest) ← parseTail fuel rest
      return (item :: items, rest)
  | _, _ => none

theorem parseTail_printTail (items : List α) (rest : List Char) {fuel : Nat}
    (enough : items.length ≤ fuel) :
    parseTail format fuel (printTail format items ++ rest) = some (items, rest) := by
  induction items generalizing fuel with
  | nil => cases fuel <;> rfl
  | cons item items ih =>
      cases fuel with
      | zero => simp at enough
      | succ fuel =>
          simp only [List.length_cons, Nat.add_le_add_iff_right] at enough
          simp [printTail, parseTail, format.parse_print, ih enough]

theorem length_printTail (items : List α) : items.length < (printTail format items).length := by
  induction items with
  | nil => simp [printTail]
  | cons item items ih =>
      simp only [printTail, List.length_cons, List.length_append]
      omega

/-- The items of a list and its closing bracket. -/
def printItems : List α → List Char
  | [] => [']']
  | item :: items => format.print item ++ printTail format items

def parseItems (input : List Char) : Option (List α × List Char) :=
  match input with
  | ']' :: rest => some ([], rest)
  | _ => do
      let (item, rest) ← format.parse input
      let (items, rest) ← parseTail format rest.length rest
      return (item :: items, rest)

/-- A list in square brackets. -/
def list {first : Char} (starts : format.StartsWith first) (notEnd : first ≠ ']') :
    Format (List α) :=
  after ['[']
    { print := printItems format
      parse := parseItems format
      parse_print := by
        intro items rest
        cases items with
        | nil => rfl
        | cons item items =>
            rcases starts item with ⟨tail, same⟩
            have read := format.parse_print item (printTail format items ++ rest)
            have enough : items.length ≤ (printTail format items ++ rest).length := by
              have shorter := length_printTail format items
              simp only [List.length_append]
              omega
            rw [printItems, List.append_assoc]
            rw [same, List.cons_append] at read ⊢
            rw [parseItems]
            · rw [read]
              have tailRead := parseTail_printTail format items rest enough
              simp only [Option.pure_def, Option.bind_eq_bind, Option.bind_some, tailRead]
            · intro other closing
              exact absurd (List.cons.inj closing).1 notEnd }

theorem startsWith_list {first : Char} (starts : format.StartsWith first)
    (notEnd : first ≠ ']') : (list format starts notEnd).StartsWith '[' :=
  fun items => ⟨printItems format items, rfl⟩

end Lists

/-! ## Numbers -/

section Numbers

variable {digits : List Char} (all : ∀ digit ∈ digits, digit.isDigit = true) {stop : Char}
variable (ends : stop.isDigit = false) (rest : List Char)

include all ends

theorem takeWhile_digits : (digits ++ stop :: rest).takeWhile Char.isDigit = digits := by
  rw [List.takeWhile_append_of_pos all]
  simp [ends]

theorem dropWhile_digits :
    (digits ++ stop :: rest).dropWhile Char.isDigit = stop :: rest := by
  rw [List.dropWhile_append_of_pos all]
  simp [ends]

end Numbers

/-- A decimal number and the character after it. -/
def natUntil (stop : Char) (ends : stop.isDigit = false) : Format Nat where
  print value := Nat.toDigits 10 value ++ [stop]
  parse input :=
    match input.dropWhile Char.isDigit with
    | char :: rest =>
        if char = stop then
          some (Nat.ofDigitChars 10 (input.takeWhile Char.isDigit) 0, rest)
        else
          none
    | [] => none
  parse_print value rest := by
    have all : ∀ digit ∈ Nat.toDigits 10 value, digit.isDigit = true :=
      fun digit member => Nat.isDigit_of_mem_toDigits (by decide) (by decide) member
    rw [List.append_assoc, List.singleton_append, dropWhile_digits all ends,
      takeWhile_digits all ends]
    simp [Nat.ofDigitChars_toDigits]

/-! ## Bytes -/

/-- The UTF-8 bytes of a printed value. -/
def codec {ε : Type} (format : Format α) (malformed : ε) (parse_nil : format.parse [] = none) :
    Codec ε α where
  toBinary value := (String.ofList (format.print value)).toByteArray.data.toList
  fromBinary bytes :=
    match (ByteArray.mk bytes.toArray).utf8Decode? with
    | none => .error malformed
    | some chars =>
        match format.parse chars.toList with
        | some (value, []) => .ok value
        | _ => .error malformed
  from_to value := by
    have read := format.parse_print value []
    have decoded := @List.utf8Decode?_utf8Encode (format.print value)
    rw [List.append_nil] at read
    rw [← String.toByteArray_ofList] at decoded
    simp only [Array.toArray_toList]
    rw [decoded]
    simp [read]
  from_nil value := by
    have decoded := @List.utf8Decode?_utf8Encode []
    rw [List.utf8Encode_nil] at decoded
    change (match ByteArray.empty.utf8Decode? with
      | none => Except.error malformed
      | some chars => _) ≠ _
    rw [decoded]
    simp [parse_nil]

end Format

/-- Texts in front of the first separator are the same, and so is what follows it. -/
theorem append_cons_inj {α : Type} {separator : α} {left right rest others : List α}
    (leftFree : separator ∉ left) (rightFree : separator ∉ right)
    (same : left ++ separator :: rest = right ++ separator :: others) :
    left = right ∧ rest = others := by
  induction left generalizing right with
  | nil =>
      cases right with
      | nil => simpa using same
      | cons head tail =>
          simp only [List.nil_append, List.cons_append, List.cons.injEq] at same
          exact absurd (by simp [same.1]) rightFree
  | cons head tail ih =>
      cases right with
      | nil =>
          simp only [List.nil_append, List.cons_append, List.cons.injEq] at same
          exact absurd (by simp [same.1]) leftFree
      | cons other others =>
          simp only [List.cons_append, List.cons.injEq] at same
          rcases ih (fun member => leftFree (List.mem_cons_of_mem _ member))
            (fun member => rightFree (List.mem_cons_of_mem _ member)) same.2 with
            ⟨tails, remaining⟩
          rw [same.1, tails]
          exact ⟨rfl, remaining⟩

end Ics721.Library
