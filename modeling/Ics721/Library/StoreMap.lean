import Mathlib.Logic.Function.Basic

/-!
# Persistent maps

A persistent map of a contract is a partial function on its keys.  Saving and
removing replace one entry and leave every other entry alone; the simp set below
is the only thing later proofs use about them.
-/

namespace Ics721.Library

/-- A persistent map from keys to values. -/
abbrev StoreMap (κ β : Type) := κ → Option β

namespace StoreMap

variable {κ β : Type}

/-- The map without entries. -/
def empty : StoreMap κ β := fun _ => none

/-- Whether `key` is bound. -/
def has (store : StoreMap κ β) (key : κ) : Bool := (store key).isSome

/-- Read an entry that has to be there. -/
def load {ε : Type} (store : StoreMap κ β) (notFound : ε) (key : κ) : Except ε β :=
  match store key with
  | some value => .ok value
  | none => .error notFound

@[simp] theorem empty_apply (key : κ) : (empty : StoreMap κ β) key = none := rfl

@[simp] theorem load_eq_ok {ε : Type} {store : StoreMap κ β} {notFound : ε}
    {key : κ} {value : β} :
    store.load notFound key = .ok value ↔ store key = some value := by
  unfold load
  split
  next found lookup => simp [lookup]
  next lookup => simp [lookup]

variable [DecidableEq κ]

/-- Bind `key` to `value`, overwriting an earlier binding. -/
def save (store : StoreMap κ β) (key : κ) (value : β) : StoreMap κ β :=
  Function.update store key (some value)

/-- Drop the binding of `key`, if there is one. -/
def remove (store : StoreMap κ β) (key : κ) : StoreMap κ β :=
  Function.update store key none

theorem save_apply (store : StoreMap κ β) (key query : κ) (value : β) :
    store.save key value query = if query = key then some value else store query :=
  Function.update_apply store key (some value) query

theorem remove_apply (store : StoreMap κ β) (key query : κ) :
    store.remove key query = if query = key then none else store query :=
  Function.update_apply store key none query

@[simp] theorem save_self (store : StoreMap κ β) (key : κ) (value : β) :
    store.save key value key = some value := by
  simp [save]

@[simp] theorem remove_self (store : StoreMap κ β) (key : κ) :
    store.remove key key = none := by
  simp [remove]

theorem save_of_ne {store : StoreMap κ β} {key query : κ} {value : β}
    (different : query ≠ key) : store.save key value query = store query := by
  simp [save_apply, different]

theorem remove_of_ne {store : StoreMap κ β} {key query : κ}
    (different : query ≠ key) : store.remove key query = store query := by
  simp [remove_apply, different]

theorem remove_eq_none {store : StoreMap κ β} {key query : κ} (absent : store query = none) :
    store.remove key query = none := by
  rw [remove_apply]
  split
  next => rfl
  next => exact absent

theorem save_comm {store : StoreMap κ β} {first second : κ} {value other : β}
    (different : first ≠ second) :
    (store.save first value).save second other = (store.save second other).save first value :=
  Function.update_comm different _ _ _

/-- Saving a value that is already there changes nothing. -/
theorem save_eq_self {store : StoreMap κ β} {key : κ} {value : β}
    (present : store key = some value) : store.save key value = store := by
  funext query
  rw [save_apply]
  split
  next equal => rw [equal, present]
  next => rfl

/-- Removing only ever forgets entries. -/
theorem of_remove {store : StoreMap κ β} {key query : κ} {value : β}
    (present : store.remove key query = some value) : store query = some value := by
  rw [remove_apply] at present
  split at present
  next => cases present
  next => exact present

/-! ## Edits -/

/-- Replace one entry, or none. -/
def edit (store : StoreMap κ β) : Option (κ × Option β) → StoreMap κ β
  | none => store
  | some (key, entry) => Function.update store key entry

theorem edit_of_ne {store : StoreMap κ β} {change : Option (κ × Option β)} {query : κ}
    (different : ∀ key entry, change = some (key, entry) → query ≠ key) :
    store.edit change query = store query := by
  cases change with
  | none => rfl
  | some change => exact Function.update_of_ne (different _ _ rfl) _ _

theorem edit_comm {store : StoreMap κ β} {first second : Option (κ × Option β)}
    (different : ∀ key entry other otherEntry, first = some (key, entry) →
      second = some (other, otherEntry) → key ≠ other) :
    (store.edit first).edit second = (store.edit second).edit first := by
  cases first with
  | none => rfl
  | some first =>
      cases second with
      | none => rfl
      | some second => exact Function.update_comm (different _ _ _ _ rfl rfl) _ _ _

/-- Make sure that there is an entry. -/
def fill (store : StoreMap κ β) (fresh : κ → β) : Option κ → StoreMap κ β
  | none => store
  | some key => store.save key ((store key).getD (fresh key))

theorem fill_comm {store : StoreMap κ β} {fresh : κ → β} (first second : Option κ) :
    (store.fill fresh first).fill fresh second = (store.fill fresh second).fill fresh first := by
  cases first with
  | none => rfl
  | some first =>
      cases second with
      | none => rfl
      | some second =>
          by_cases same : first = second
          · rw [same]
          · simp only [fill, save_of_ne same, save_of_ne (Ne.symm same)]
            exact save_comm same

/-! ## Folds -/

section Folds

variable {α : Type} {key : α → κ} {value : α → β}

/-- Entries that no item of the fold writes stay as they are. -/
theorem foldl_save_of_not_mem {items : List α} {store : StoreMap κ β} {query : κ}
    (untouched : ∀ item ∈ items, key item ≠ query) :
    items.foldl (fun store item => store.save (key item) (value item)) store query =
      store query := by
  induction items generalizing store with
  | nil => rfl
  | cons item items ih =>
      rw [List.foldl_cons, ih fun other member => untouched other (List.mem_cons_of_mem _ member)]
      exact save_of_ne (Ne.symm (untouched item List.mem_cons_self))

/-- An entry after the fold was there before or was written by an item. -/
theorem of_foldl_save {items : List α} {store : StoreMap κ β} {query : κ} {found : β}
    (present : items.foldl (fun store item => store.save (key item) (value item)) store query =
      some found) :
    store query = some found ∨ ∃ item ∈ items, key item = query := by
  by_cases written : ∃ item ∈ items, key item = query
  · exact .inr written
  · have untouched : ∀ item ∈ items, key item ≠ query := by
      intro item member same
      exact written ⟨item, member, same⟩
    rw [foldl_save_of_not_mem untouched] at present
    exact .inl present

theorem foldl_remove_of_not_mem {items : List α} {store : StoreMap κ β} {query : κ}
    (untouched : ∀ item ∈ items, key item ≠ query) :
    items.foldl (fun store item => store.remove (key item)) store query = store query := by
  induction items generalizing store with
  | nil => rfl
  | cons item items ih =>
      rw [List.foldl_cons, ih fun other member => untouched other (List.mem_cons_of_mem _ member)]
      exact remove_of_ne (Ne.symm (untouched item List.mem_cons_self))

/-- A key that some item of the fold drops is unbound afterwards. -/
theorem foldl_remove_of_mem {items : List α} {store : StoreMap κ β} {query : κ}
    (dropped : ∃ item ∈ items, key item = query) :
    items.foldl (fun store item => store.remove (key item)) store query = none := by
  induction items generalizing store with
  | nil => simp at dropped
  | cons item items ih =>
      rw [List.foldl_cons]
      by_cases later : ∃ other ∈ items, key other = query
      · exact ih later
      · have untouched : ∀ other ∈ items, key other ≠ query := by
          intro other member same
          exact later ⟨other, member, same⟩
        rw [foldl_remove_of_not_mem untouched]
        rcases dropped with ⟨dropper, member, same⟩
        rcases List.mem_cons.mp member with first | rest
        · rw [← same, first, remove_self]
        · exact absurd same (untouched dropper rest)

theorem of_foldl_remove {items : List α} {store : StoreMap κ β} {query : κ} {found : β}
    (present : items.foldl (fun store item => store.remove (key item)) store query =
      some found) :
    store query = some found := by
  induction items generalizing store with
  | nil => exact present
  | cons item items ih => exact of_remove (ih present)

end Folds

end StoreMap

end Ics721.Library
