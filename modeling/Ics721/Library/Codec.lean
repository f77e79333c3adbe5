import Mathlib.Init

/-!
# Serialization of typed values

A codec is what a (de)serialization library provides for one type: a total
encoder, a partial decoder that undoes it, and the fact that no value is read
from the empty byte string.
-/

namespace Ics721.Library

/-- Byte strings as contracts exchange them. -/
abbrev Binary := List UInt8

/-- A serialization format for `α` with decoding errors in `ε`. -/
structure Codec (ε α : Type) where
  toBinary : α → Binary
  fromBinary : Binary → Except ε α
  from_to : ∀ value, fromBinary (toBinary value) = .ok value
  from_nil : ∀ value, fromBinary [] ≠ .ok value

namespace Codec

variable {ε α : Type} (codec : Codec ε α)

attribute [simp] from_to

theorem toBinary_ne_nil (value : α) : codec.toBinary value ≠ [] := by
  intro empty
  have read := codec.from_to value
  rw [empty] at read
  exact codec.from_nil value read

end Codec

end Ics721.Library
