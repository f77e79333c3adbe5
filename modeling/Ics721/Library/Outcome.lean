import Mathlib.Init

/-!
# Computations that may fail

How `Except` computations come apart: a sequence succeeds exactly if all its parts
do.  Folds that may fail are taken apart one element at a time.
-/

namespace Ics721.Library

variable {ε ε' α β : Type}

@[simp] theorem bind_eq_ok {first : Except ε α} {next : α → Except ε β} {result : β} :
    (first >>= next) = .ok result ↔ ∃ value, first = .ok value ∧ next value = .ok result := by
  cases first with
  | error err => simp [bind, Except.bind]
  | ok value => simp [bind, Except.bind]

@[simp] theorem ok_bind {value : α} {next : α → Except ε β} :
    (Except.ok value >>= next) = next value :=
  rfl

@[simp] theorem error_bind {err : ε} {next : α → Except ε β} :
    (Except.error err >>= next) = .error err :=
  rfl

@[simp] theorem pure_eq_ok {value result : α} :
    (pure value : Except ε α) = .ok result ↔ value = result := by
  simp [pure, Except.pure]

@[simp] theorem mapError_ok {change : ε → ε'} {value : α} :
    (Except.ok value).mapError change = .ok value :=
  rfl

@[simp] theorem mapError_error {change : ε → ε'} {err : ε} :
    (Except.error err : Except ε α).mapError change = .error (change err) :=
  rfl

@[simp] theorem mapError_eq_ok {change : ε → ε'} {computation : Except ε α} {result : α} :
    computation.mapError change = .ok result ↔ computation = .ok result := by
  cases computation with
  | error err => simp
  | ok value => simp

@[simp] theorem map_eq_ok {change : α → β} {computation : Except ε α} {result : β} :
    computation.map change = .ok result ↔
      ∃ value, computation = .ok value ∧ change value = result := by
  cases computation with
  | error err => simp [Except.map]
  | ok value => simp [Except.map]

@[simp] theorem fmap_eq_ok {change : α → β} {computation : Except ε α} {result : β} :
    change <$> computation = .ok result ↔
      ∃ value, computation = .ok value ∧ change value = result :=
  map_eq_ok

/-- A check that rejects. -/
theorem ite_error_eq_ok {rejected : Prop} [Decidable rejected] {err : ε}
    {next : Except ε α} {result : α} :
    (if rejected then .error err else next) = .ok result ↔ ¬rejected ∧ next = .ok result := by
  split
  next holds => simp [holds]
  next fails => simp [fails]

theorem isOk_eq_true {computation : Except ε α} :
    computation.isOk = true ↔ ∃ value, computation = .ok value := by
  cases computation with
  | error err => simp [Except.isOk, Except.toBool]
  | ok value => simp [Except.isOk, Except.toBool]

end Ics721.Library
