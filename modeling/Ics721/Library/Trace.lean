import Ics721.Library.Dispatch

/-!
# The calls that a dispatch makes

A machine that also writes down which calls went through.  What is rolled back is not in the
list, since the list is rolled back with it.
-/

namespace Ics721.Library

namespace Machine

variable {ω α μ ε δ : Type}

/-- The machine that notes the calls that succeed, with who made them. -/
def traced (machine : Machine ω α μ ε δ) : Machine (ω × List (α × μ)) α μ ε δ where
  execute state caller msg := do
    let (callee, reaction) ← machine.execute state.1 caller msg
    return (callee, ⟨(reaction.world, state.2 ++ [(caller, msg)]), reaction.messages,
      reaction.data⟩)
  reply state caller id result := do
    let reaction ← machine.reply state.1 caller id result
    return ⟨(reaction.world, state.2), reaction.messages, reaction.data⟩
  depthExceeded := machine.depthExceeded

/-- Forget the calls. -/
def forget (outcome : Except ε ((ω × List (α × μ)) × Option δ)) : Except ε (ω × Option δ) :=
  outcome.map fun result => (result.1.1, result.2)

theorem forget_bind {γ : Type} {first : Except ε γ}
    {next : γ → Except ε ((ω × List (α × μ)) × Option δ)} :
    forget (first >>= next) = first >>= fun value => forget (next value) := by
  cases first with
  | error err => rfl
  | ok value => rfl

variable {machine : Machine ω α μ ε δ}

theorem traced_runOne
    {run : ω → α → List (SubMsg μ) → Option δ → Except ε (ω × Option δ)}
    {noted : ω × List (α × μ) → α → List (SubMsg μ) → Option δ →
      Except ε ((ω × List (α × μ)) × Option δ)}
    (same : ∀ state caller subs data, forget (noted state caller subs data) =
      run state.1 caller subs data)
    (caller : α) (state : (ω × List (α × μ)) × Option δ) (sub : SubMsg μ) :
    forget (machine.traced.runOne noted caller state sub) =
      machine.runOne run caller (state.1.1, state.2) sub := by
  -- The reply handler continues in the same way in both machines.
  have answered : ∀ (world : ω) (log : List (α × μ)) (result : Except ε (Option δ)),
      forget (do
        let reaction ← machine.traced.reply (world, log) caller sub.id result
        noted reaction.world caller reaction.messages (reaction.data <|> state.2)) = (do
        let reaction ← machine.reply world caller sub.id result
        run reaction.world caller reaction.messages (reaction.data <|> state.2)) := by
    intro world log result
    simp only [traced]
    cases machine.reply world caller sub.id result with
    | error err => rfl
    | ok reaction => exact same _ _ _ _
  have executed : forget (do
      let (callee, reaction) ← machine.traced.execute state.1 caller sub.msg
      noted reaction.world callee reaction.messages reaction.data) = (do
      let (callee, reaction) ← machine.execute state.1.1 caller sub.msg
      run reaction.world callee reaction.messages reaction.data) := by
    simp only [traced]
    cases machine.execute state.1.1 caller sub.msg with
    | error err => rfl
    | ok outcome => exact same _ _ _ _
  simp only [runOne]
  rw [← executed]
  cases (do
      let (callee, reaction) ← machine.traced.execute state.1 caller sub.msg
      noted reaction.world callee reaction.messages reaction.data) with
  | error err =>
      change forget (if sub.replyOn.onError = true then _ else _) =
        if sub.replyOn.onError = true then _ else _
      split
      next => exact answered state.1.1 state.1.2 (.error err)
      next => rfl
  | ok outcome =>
      rcases outcome with ⟨⟨world, log⟩, data⟩
      change forget (if sub.replyOn.onSuccess = true then _ else _) =
        if sub.replyOn.onSuccess = true then _ else _
      split
      next => exact answered world log (.ok data)
      next => rfl

/-- Noting the calls changes nothing else. -/
theorem traced_dispatch (depth : Nat) (state : ω × List (α × μ)) (caller : α)
    (subs : List (SubMsg μ)) (data : Option δ) :
    forget (machine.traced.dispatch depth state caller subs data) =
      machine.dispatch depth state.1 caller subs data := by
  induction depth generalizing state caller subs data with
  | zero =>
      cases subs with
      | nil => rfl
      | cons sub subs => rfl
  | succ depth ih =>
      induction subs generalizing state data with
      | nil =>
          simp only [dispatch_nil]
          rfl
      | cons sub subs rest =>
          have first : forget (machine.traced.runOne (machine.traced.dispatch depth) caller
              (state, data) sub) = machine.runOne (machine.dispatch depth) caller
                (state.1, data) sub :=
            traced_runOne ih caller (state, data) sub
          rw [dispatch_succ_cons, dispatch_succ_cons, forget_bind, ← first]
          cases machine.traced.runOne (machine.traced.dispatch depth) caller (state, data)
              sub with
          | error err => rfl
          | ok outcome => exact rest outcome.1 outcome.2

/-- The calls that go through in a dispatch, if it goes through itself. -/
def calls (machine : Machine ω α μ ε δ) (depth : Nat) (world : ω) (caller : α)
    (subs : List (SubMsg μ)) (data : Option δ) : List (α × μ) :=
  match machine.traced.dispatch depth (world, []) caller subs data with
  | .ok result => result.1.2
  | .error _ => []

theorem calls_of_error {depth : Nat} {world : ω} {caller : α} {subs : List (SubMsg μ)}
    {data : Option δ} {err : ε}
    (failed : machine.dispatch depth world caller subs data = .error err) :
    machine.calls depth world caller subs data = [] := by
  have same : forget (machine.traced.dispatch depth (world, []) caller subs data) =
      machine.dispatch depth world caller subs data :=
    traced_dispatch depth (world, []) caller subs data
  unfold calls
  split
  next result noted =>
    rw [noted, failed] at same
    cases same
  next => rfl

/-- A relation between worlds that follows the calls between them. -/
structure Follower (machine : Machine ω α μ ε δ) where
  relates : ω → ω → List (α × μ) → Prop
  refl : ∀ world, relates world world []
  trans : ∀ {first second third before after}, relates first second before →
    relates second third after → relates first third (before ++ after)
  execute : ∀ {world caller msg callee reaction},
    machine.execute world caller msg = .ok (callee, reaction) →
    relates world reaction.world [(caller, msg)]
  reply : ∀ {world caller id result reaction},
    machine.reply world caller id result = .ok reaction →
    relates world reaction.world []

namespace Follower

variable (follower : machine.Follower)

/-- The rules of the machine that notes the calls. -/
def rules : machine.traced.Rules where
  holds _ := True
  ready _ _ _ := True
  grows before after := ∃ log, after.2 = before.2 ++ log ∧
    follower.relates before.1 after.1 log
  refl world := ⟨[], by simp, follower.refl world.1⟩
  trans := by
    intro first second third before after
    rcases before with ⟨log, same, related⟩
    rcases after with ⟨more, sameMore, relatedMore⟩
    exact ⟨log ++ more, by rw [sameMore, same, List.append_assoc],
      follower.trans related relatedMore⟩
  done _ := trivial
  execute := by
    intro caller world sub subs callee reaction _ executed
    simp only [traced, bind_eq_ok, pure_eq_ok, Prod.mk.injEq] at executed
    rcases executed with ⟨⟨_, inner⟩, ran, rfl, rfl⟩
    exact ⟨trivial, [(caller, sub.msg)], rfl, follower.execute ran⟩
  next _ _ _ := trivial
  replySuccess := by
    intro caller world sub subs callee reaction after data response _ _ _ _ _ _ replied
    simp only [traced, bind_eq_ok, pure_eq_ok] at replied
    rcases replied with ⟨inner, ran, rfl⟩
    exact ⟨trivial, [], by simp, follower.reply ran⟩
  replyError := by
    intro caller world sub subs err response _ _ replied
    simp only [traced, bind_eq_ok, pure_eq_ok] at replied
    rcases replied with ⟨inner, ran, rfl⟩
    exact ⟨trivial, [], by simp, follower.reply ran⟩

/-- The relation follows the calls of a dispatch. -/
theorem dispatch {depth : Nat} {world : ω} {caller : α} {subs : List (SubMsg μ)}
    {data : Option δ} {result : ω × Option δ}
    (ran : machine.dispatch depth world caller subs data = .ok result) :
    follower.relates world result.1 (machine.calls depth world caller subs data) := by
  have same : forget (machine.traced.dispatch depth (world, []) caller subs data) =
      machine.dispatch depth world caller subs data :=
    traced_dispatch depth (world, []) caller subs data
  unfold calls
  rw [ran] at same
  cases noted : machine.traced.dispatch depth (world, []) caller subs data with
  | error err =>
      rw [noted] at same
      cases same
  | ok outcome =>
      rw [noted] at same
      simp only [forget, Except.map, Except.ok.injEq] at same
      rcases (follower.rules.dispatch trivial noted).2 with ⟨log, logged, related⟩
      simp only [List.nil_append] at logged
      subst same logged
      exact related

end Follower

end Machine

end Ics721.Library
