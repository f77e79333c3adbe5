import Ics721.Library.Dispatch

/-!
# Two worlds in lockstep

Two worlds differ in something that a message does not look at.  Then running the message
in both has the same outcome, and the two worlds that it leaves differ in the same thing.
`Alike` says when two computations have the same outcome; a `Lockstep` has one rule for each
kind of handler, and carries over to everything that a dispatch runs.
-/

namespace Ics721.Library

/-! ## Computations with the same outcome -/

section Outcomes

variable {ε ε' α α' β β' : Type}

/-- Both computations fail with the same error, or both succeed with related results. -/
inductive Alike (related : α → β → Prop) : Except ε α → Except ε β → Prop where
  | error (err : ε) : Alike related (.error err) (.error err)
  | ok {left : α} {right : β} (both : related left right) : Alike related (.ok left) (.ok right)

namespace Alike

variable {related : α → β → Prop} {left : Except ε α} {right : Except ε β}

theorem mono {weaker : α → β → Prop} (alike : Alike related left right)
    (implies : ∀ first second, related first second → weaker first second) :
    Alike weaker left right := by
  cases alike with
  | error err => exact .error err
  | ok both => exact .ok (implies _ _ both)

theorem bind {next : α → Except ε α'} {nextRight : β → Except ε β'} {final : α' → β' → Prop}
    (alike : Alike related left right)
    (continues : ∀ first second, left = .ok first → right = .ok second → related first second →
      Alike final (next first) (nextRight second)) :
    Alike final (left >>= next) (right >>= nextRight) := by
  cases alike with
  | error err => exact .error err
  | ok both => exact continues _ _ rfl rfl both

theorem mapError {change : ε → ε'} (alike : Alike related left right) :
    Alike related (left.mapError change) (right.mapError change) := by
  cases alike with
  | error err => exact .error (change err)
  | ok both => exact .ok both

/-- What follows the same computation. -/
theorem bind_same {first : Except ε α} {next : α → Except ε α'} {nextRight : α → Except ε β'}
    {final : α' → β' → Prop}
    (continues : ∀ value, first = .ok value → Alike final (next value) (nextRight value)) :
    Alike final (first >>= next) (first >>= nextRight) := by
  cases first with
  | error err => exact .error err
  | ok value => exact continues value rfl

/-- If one succeeds, so does the other. -/
theorem exists_ok {result : α} (alike : Alike related (.ok result) right) :
    ∃ other, right = .ok other ∧ related result other := by
  cases alike with
  | ok both => exact ⟨_, rfl, both⟩

end Alike

end Outcomes

/-! ## Rules -/

namespace Machine

variable {ω α μ ε δ : Type}

/-- A relation between worlds that all handlers preserve, as long as only messages that are
`allowed` are run.  A handler that emits nothing is through at once, so its reply sees the world
it left. -/
structure Lockstep (machine : Machine ω α μ ε δ) where
  related : ω → ω → Prop
  allowed : α → SubMsg μ → Prop
  execute : ∀ {left right caller sub}, related left right → allowed caller sub →
    Alike (fun first second => first.1 = second.1 ∧ related first.2.world second.2.world ∧
        first.2.messages = second.2.messages ∧ first.2.data = second.2.data ∧
        ∀ sub ∈ first.2.messages, allowed first.1 sub)
      (machine.execute left caller sub.msg) (machine.execute right caller sub.msg)
  replySuccess : ∀ {before other caller sub callee reaction left right data},
    related before other → allowed caller sub →
    machine.execute before caller sub.msg = .ok (callee, reaction) → related left right →
    (reaction.messages = [] → left = reaction.world ∧ data = reaction.data) →
    sub.replyOn.onSuccess = true →
    Alike (fun first second => related first.world second.world ∧
        first.messages = second.messages ∧ first.data = second.data ∧
        ∀ sub ∈ first.messages, allowed caller sub)
      (machine.reply left caller sub.id (.ok data)) (machine.reply right caller sub.id (.ok data))
  replyError : ∀ {left right caller sub err}, related left right → allowed caller sub →
    sub.replyOn.onError = true →
    Alike (fun first second => related first.world second.world ∧
        first.messages = second.messages ∧ first.data = second.data ∧
        ∀ sub ∈ first.messages, allowed caller sub)
      (machine.reply left caller sub.id (.error err))
      (machine.reply right caller sub.id (.error err))

namespace Lockstep

variable {machine : Machine ω α μ ε δ} (lockstep : machine.Lockstep)

/-- The worlds that two dispatches leave, and their data. -/
def Ends (first second : ω × Option δ) : Prop :=
  lockstep.related first.1 second.1 ∧ first.2 = second.2

variable {depth : Nat} {caller : α} {left right : ω} {data : Option δ}

/-- One submessage, if the rules can be used for what it makes others do. -/
theorem runOne
    (below : ∀ {caller subs left right data}, lockstep.related left right →
      (∀ sub ∈ subs, lockstep.allowed caller sub) →
      Alike lockstep.Ends (machine.dispatch depth left caller subs data)
        (machine.dispatch depth right caller subs data))
    {sub : SubMsg μ} (related : lockstep.related left right)
    (allowed : lockstep.allowed caller sub) :
    Alike lockstep.Ends
      (machine.runOne (machine.dispatch depth) caller (left, data) sub)
      (machine.runOne (machine.dispatch depth) caller (right, data) sub) := by
  have failing : ∀ err, Alike lockstep.Ends
      (if sub.replyOn.onError then do
        let reaction ← machine.reply left caller sub.id (.error err)
        machine.dispatch depth reaction.world caller reaction.messages (reaction.data <|> data)
      else .error err)
      (if sub.replyOn.onError then do
        let reaction ← machine.reply right caller sub.id (.error err)
        machine.dispatch depth reaction.world caller reaction.messages (reaction.data <|> data)
      else .error err) := by
    intro err
    cases called : sub.replyOn.onError with
    | false => exact .error err
    | true =>
        apply Alike.bind (lockstep.replyError related allowed called)
        rintro first second - - ⟨worlds, messages, answers, permitted⟩
        rw [← messages, ← answers]
        exact below worlds permitted
  have executed := lockstep.execute related allowed
  simp only [Machine.runOne]
  cases onLeft : machine.execute left caller sub.msg with
  | error err =>
      cases onRight : machine.execute right caller sub.msg with
      | error other =>
          rw [onLeft, onRight] at executed
          cases executed
          exact failing err
      | ok outcome =>
          rw [onLeft, onRight] at executed
          cases executed
  | ok outcome =>
      rcases outcome with ⟨callee, reaction⟩
      rw [onLeft] at executed
      rcases executed.exists_ok with
        ⟨⟨other, response⟩, onRight, rfl, worlds, messages, answers, permitted⟩
      rw [onRight]
      simp only [ok_bind]
      have ran : Alike lockstep.Ends
          (machine.dispatch depth reaction.world callee reaction.messages reaction.data)
          (machine.dispatch depth response.world callee reaction.messages reaction.data) :=
        below worlds permitted
      simp only at messages answers
      rw [← messages, ← answers]
      cases inner : machine.dispatch depth reaction.world callee reaction.messages
          reaction.data with
      | error err =>
          rw [inner] at ran
          cases innerRight : machine.dispatch depth response.world callee reaction.messages
              reaction.data with
          | error other =>
              rw [innerRight] at ran
              cases ran
              exact failing err
          | ok result =>
              rw [innerRight] at ran
              cases ran
      | ok result =>
          rw [inner] at ran
          rcases ran.exists_ok with ⟨after, innerRight, next, same⟩
          rw [innerRight]
          simp only
          cases called : sub.replyOn.onSuccess with
          | false => exact .ok ⟨next, rfl⟩
          | true =>
              have silent : reaction.messages = [] →
                  result.1 = reaction.world ∧ result.2 = reaction.data := by
                intro silent
                rw [silent, dispatch_nil, Except.ok.injEq] at inner
                exact ⟨(congrArg Prod.fst inner).symm, (congrArg Prod.snd inner).symm⟩
              rw [← same]
              apply Alike.bind
                (lockstep.replySuccess related allowed onLeft next silent called)
              rintro first second - - ⟨finals, replies, replied, granted⟩
              rw [← replies, ← replied]
              exact below finals granted

/-- Whatever is run has the same outcome in both worlds. -/
theorem dispatch {subs : List (SubMsg μ)} (related : lockstep.related left right)
    (allowed : ∀ sub ∈ subs, lockstep.allowed caller sub) :
    Alike lockstep.Ends (machine.dispatch depth left caller subs data)
      (machine.dispatch depth right caller subs data) := by
  induction depth generalizing left right caller subs data with
  | zero =>
      cases subs with
      | nil =>
          simp only [dispatch_nil]
          exact .ok ⟨related, rfl⟩
      | cons sub subs =>
          simp only [dispatch_zero_cons]
          exact .error _
  | succ depth ih =>
      induction subs generalizing left right data with
      | nil =>
          simp only [dispatch_nil]
          exact .ok ⟨related, rfl⟩
      | cons sub subs rest =>
          rw [dispatch_succ_cons, dispatch_succ_cons]
          apply Alike.bind
            (lockstep.runOne ih related (allowed sub List.mem_cons_self))
          rintro first second - - ⟨next, same⟩
          rw [← same]
          exact rest next fun other member => allowed other (List.mem_cons_of_mem _ member)

end Lockstep

end Machine

end Ics721.Library
