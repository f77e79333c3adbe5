import Mathlib.Init

/-!
# Runs of a deterministic step function

A system is a total step function on states; everything that is not determined by
the state is in the label of a step.  A run is the list of its labels.
-/

namespace Ics721.Library

variable {σ ℓ : Type} {step : σ → ℓ → σ}

/-- Every step of the run from `state` is allowed in the state it starts from. -/
def Follows (step : σ → ℓ → σ) (allowed : σ → ℓ → Prop) : σ → List ℓ → Prop
  | _, [] => True
  | state, label :: labels =>
      allowed state label ∧ Follows step allowed (step state label) labels

/-- Every state of the run from `state` has the property, the first one included. -/
def Along (step : σ → ℓ → σ) (property : σ → Prop) : σ → List ℓ → Prop
  | state, [] => property state
  | state, label :: labels => property state ∧ Along step property (step state label) labels

@[simp] theorem follows_nil {allowed : σ → ℓ → Prop} {state : σ} :
    Follows step allowed state [] :=
  True.intro

@[simp] theorem follows_cons {allowed : σ → ℓ → Prop} {state : σ} {label : ℓ}
    {labels : List ℓ} :
    Follows step allowed state (label :: labels) ↔
      allowed state label ∧ Follows step allowed (step state label) labels :=
  Iff.rfl

theorem follows_of_mem {allowed : ℓ → Prop} {state : σ} {labels : List ℓ}
    (each : ∀ label ∈ labels, allowed label) :
    Follows step (fun _ => allowed) state labels := by
  induction labels generalizing state with
  | nil => exact follows_nil
  | cons label labels ih =>
      rw [follows_cons]
      exact ⟨each label List.mem_cons_self,
        ih fun later member => each later (List.mem_cons_of_mem _ member)⟩

/-- What every allowed step preserves holds at the end of an allowed run. -/
theorem Follows.invariant {allowed : σ → ℓ → Prop} {property : σ → Prop}
    (preserved : ∀ state label, property state → allowed state label →
      property (step state label))
    {state : σ} {labels : List ℓ} (follows : Follows step allowed state labels)
    (start : property state) : property (labels.foldl step state) := by
  induction labels generalizing state with
  | nil => exact start
  | cons label labels ih =>
      exact ih follows.2 (preserved state label start follows.1)

/-- What every allowed step preserves holds along an allowed run. -/
theorem Follows.along {allowed : σ → ℓ → Prop} {property : σ → Prop}
    (preserved : ∀ state label, property state → allowed state label →
      property (step state label))
    {state : σ} {labels : List ℓ} (follows : Follows step allowed state labels)
    (start : property state) : Along step property state labels := by
  induction labels generalizing state with
  | nil => exact start
  | cons label labels ih =>
      exact ⟨start, ih follows.2 (preserved state label start follows.1)⟩

/-- A property that every step preserves is an invariant of all runs. -/
theorem run_invariant {property : σ → Prop}
    (preserved : ∀ state label, property state → property (step state label))
    {state : σ} (labels : List ℓ) (start : property state) :
    property (labels.foldl step state) := by
  induction labels generalizing state with
  | nil => exact start
  | cons label labels ih => exact ih (preserved state label start)

theorem Along.mono {property weaker : σ → Prop}
    (implies : ∀ state, property state → weaker state) {state : σ} {labels : List ℓ}
    (along : Along step property state labels) : Along step weaker state labels := by
  induction labels generalizing state with
  | nil => exact implies state along
  | cons label labels ih => exact ⟨implies state along.1, ih along.2⟩

/-- What holds of every label may be added to what is allowed. -/
theorem Follows.and {permitted : ℓ → Prop} {allowed : σ → ℓ → Prop} {state : σ}
    {labels : List ℓ} (follows : Follows step allowed state labels)
    (each : ∀ label ∈ labels, permitted label) :
    Follows step (fun state label => permitted label ∧ allowed state label) state labels := by
  induction labels generalizing state with
  | nil => exact follows_nil
  | cons label labels ih =>
      refine ⟨⟨each label List.mem_cons_self, follows.1⟩, ih follows.2 ?_⟩
      exact fun later member => each later (List.mem_cons_of_mem _ member)

theorem Along.head {property : σ → Prop} {state : σ} {labels : List ℓ}
    (along : Along step property state labels) : property state := by
  cases labels with
  | nil => exact along
  | cons label labels => exact along.1

/-- If a property can hold only after allowed steps, a run along which it holds is allowed. -/
theorem Along.follows {allowed : σ → ℓ → Prop} {property invariant : σ → Prop}
    (preserved : ∀ state label, invariant state → invariant (step state label))
    (forced : ∀ state label, invariant state → property (step state label) →
      allowed state label)
    {state : σ} {labels : List ℓ} (along : Along step property state labels)
    (start : invariant state) : Follows step allowed state labels := by
  induction labels generalizing state with
  | nil => exact follows_nil
  | cons label labels ih =>
      exact ⟨forced state label start along.2.head, ih along.2 (preserved state label start)⟩

/-- A property of every state of a run holds after each of its prefixes. -/
theorem Along.of_prefix {property : σ → Prop} {state : σ} {before after : List ℓ}
    (along : Along step property state (before ++ after)) :
    property (before.foldl step state) := by
  induction before generalizing state with
  | nil =>
      cases after with
      | nil => exact along
      | cons label labels => exact along.1
  | cons label labels ih => exact ih along.2

/-! ## Counting along a run -/

/-- What the steps of a run come to, each counted in the state it starts from. -/
def tally (step : σ → ℓ → σ) (count : σ → ℓ → Nat) : σ → List ℓ → Nat
  | _, [] => 0
  | state, label :: labels => count state label + tally step count (step state label) labels

/-- If every step makes up for its loss by its gain, so does a run. -/
theorem Follows.tally_le {allowed : σ → ℓ → Prop} {property : σ → Prop} {measure : σ → Nat}
    {gain loss : σ → ℓ → Nat}
    (preserved : ∀ state label, property state → allowed state label →
      property (step state label))
    (each : ∀ state label, property state → allowed state label →
      measure state + gain state label ≤ measure (step state label) + loss state label)
    {state : σ} {labels : List ℓ} (follows : Follows step allowed state labels)
    (start : property state) :
    measure state + tally step gain state labels ≤
      measure (labels.foldl step state) + tally step loss state labels := by
  induction labels generalizing state with
  | nil => exact Nat.le_refl _
  | cons label labels ih =>
      have first := each state label start follows.1
      have rest := ih follows.2 (preserved state label start follows.1)
      simp only [tally, List.foldl_cons]
      omega

/-! ## The order of the labels -/

section Order

variable {ω : Type} {good : σ → Prop} {see : σ → ω}

/-- Runs of the same labels from states that look alike. -/
theorem foldl_congr_of_sees (kept : ∀ state label, good state → good (step state label))
    (sees : ∀ state other label, good state → good other → see state = see other →
      see (step state label) = see (step other label))
    {state other : σ} (start : good state) (otherStart : good other)
    (alike : see state = see other) (labels : List ℓ) :
    see (labels.foldl step state) = see (labels.foldl step other) := by
  induction labels generalizing state other with
  | nil => exact alike
  | cons label labels ih =>
      exact ih (kept state label start) (kept other label otherStart)
        (sees state other label start otherStart alike)

/-- If any two steps may change places as far as can be seen, so may all steps of a run. -/
theorem foldl_perm_of_diamond (kept : ∀ state label, good state → good (step state label))
    (sees : ∀ state other label, good state → good other → see state = see other →
      see (step state label) = see (step other label))
    (diamond : ∀ state label other, good state →
      see (step (step state label) other) = see (step (step state other) label))
    {labels others : List ℓ} (perm : labels.Perm others) {state : σ} (start : good state) :
    see (labels.foldl step state) = see (others.foldl step state) := by
  induction perm generalizing state with
  | nil => rfl
  | cons label _ ih => exact ih (kept state label start)
  | swap label other rest =>
      have first := kept _ label (kept state other start)
      have second := kept _ other (kept state label start)
      exact foldl_congr_of_sees kept sees first second (diamond state other label start) rest
  | trans _ _ first second => exact (first start).trans (second start)

end Order

end Ics721.Library
