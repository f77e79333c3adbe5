import Ics721.Library.Outcome

/-!
# Depth-first dispatch of submessages

A contract call returns a new world together with a list of submessages.  The
host executes them in order, each with everything it emits in turn before the
next one.  A failed submessage is rolled back; the caller's reply handler decides
whether the failure is caught or propagates.  What the caller itself wrote before
emitting the submessage is kept in either case.

Nothing here fixes what a world, a message or a contract is.  `depth` bounds the
nesting of calls, as the host does.
-/

namespace Ics721.Library

/-- When the caller of a submessage is called back with its result. -/
inductive ReplyOn where
  | always
  | error
  | success
  | never
  deriving DecidableEq, Repr

namespace ReplyOn

/-- The caller's reply handler runs after a success. -/
def onSuccess : ReplyOn → Bool
  | .always | .success => true
  | .error | .never => false

/-- The caller's reply handler runs after a failure. -/
def onError : ReplyOn → Bool
  | .always | .error => true
  | .success | .never => false

end ReplyOn

/-- A message together with the reply policy of the contract that emits it. -/
structure SubMsg (μ : Type) where
  msg : μ
  replyOn : ReplyOn
  id : Nat
  deriving Repr

/-- What a handler leaves behind: the world, the submessages to run and the data
it wants to return. -/
structure Reaction (ω μ δ : Type) where
  world : ω
  messages : List (SubMsg μ)
  data : Option δ

/-- The contracts of a chain, seen from the host.  `execute` runs a message for a
sender and names the contract that handled it; `reply` runs the reply handler of
a contract. -/
structure Machine (ω α μ ε δ : Type) where
  execute : ω → α → μ → Except ε (α × Reaction ω μ δ)
  reply : ω → α → Nat → Except ε (Option δ) → Except ε (Reaction ω μ δ)
  depthExceeded : ε

namespace Machine

variable {ω α μ ε δ : Type}

/-- Run one submessage of `caller`.  `run` executes the messages that a handler
emits. -/
def runOne (machine : Machine ω α μ ε δ)
    (run : ω → α → List (SubMsg μ) → Option δ → Except ε (ω × Option δ))
    (caller : α) (state : ω × Option δ) (sub : SubMsg μ) :
    Except ε (ω × Option δ) :=
  let result := do
    let (callee, reaction) ← machine.execute state.1 caller sub.msg
    run reaction.world callee reaction.messages reaction.data
  match result with
  | .ok (after, data) =>
      if sub.replyOn.onSuccess then do
        let reaction ← machine.reply after caller sub.id (.ok data)
        run reaction.world caller reaction.messages (reaction.data <|> state.2)
      else
        .ok (after, state.2)
  | .error err =>
      -- Everything the submessage wrote is gone: the handler runs in the world
      -- the submessage started from.
      if sub.replyOn.onError then do
        let reaction ← machine.reply state.1 caller sub.id (.error err)
        run reaction.world caller reaction.messages (reaction.data <|> state.2)
      else
        .error err

/-- Run the submessages of `caller` in order.  The second component of the result
is the caller's data, as overridden by its reply handlers. -/
def dispatch (machine : Machine ω α μ ε δ) :
    Nat → ω → α → List (SubMsg μ) → Option δ → Except ε (ω × Option δ)
  | 0, world, _, [], data => .ok (world, data)
  | 0, _, _, _ :: _, _ => .error machine.depthExceeded
  | depth + 1, world, caller, subs, data =>
      subs.foldlM (machine.runOne (machine.dispatch depth) caller) (world, data)

@[simp] theorem dispatch_nil (machine : Machine ω α μ ε δ) (depth : Nat)
    (world : ω) (caller : α) (data : Option δ) :
    machine.dispatch depth world caller [] data = .ok (world, data) := by
  cases depth <;> rfl

@[simp] theorem dispatch_zero_cons (machine : Machine ω α μ ε δ) (world : ω)
    (caller : α) (sub : SubMsg μ) (subs : List (SubMsg μ)) (data : Option δ) :
    machine.dispatch 0 world caller (sub :: subs) data = .error machine.depthExceeded :=
  rfl

theorem dispatch_succ_cons (machine : Machine ω α μ ε δ) (depth : Nat)
    (world : ω) (caller : α) (sub : SubMsg μ) (subs : List (SubMsg μ))
    (data : Option δ) :
    machine.dispatch (depth + 1) world caller (sub :: subs) data =
      machine.runOne (machine.dispatch depth) caller (world, data) sub >>= fun after =>
        machine.dispatch (depth + 1) after.1 caller subs after.2 := by
  simp [dispatch, List.foldlM_cons]

/-- Submessages are run one after the other. -/
theorem dispatch_append (machine : Machine ω α μ ε δ) (depth : Nat) (world : ω) (caller : α)
    (first second : List (SubMsg μ)) (data : Option δ) :
    machine.dispatch depth world caller (first ++ second) data =
      machine.dispatch depth world caller first data >>= fun after =>
        machine.dispatch depth after.1 caller second after.2 := by
  cases depth with
  | zero =>
      cases first with
      | nil => simp
      | cons sub first => simp
  | succ depth => simp only [dispatch, List.foldlM_append]

/-! ## Rules -/

section Inversion

variable {machine : Machine ω α μ ε δ}
variable {run : ω → α → List (SubMsg μ) → Option δ → Except ε (ω × Option δ)}
variable {caller : α} {state : ω × Option δ} {sub : SubMsg μ}

/-- How a submessage can be through: it succeeded and its caller does not want to
know, it succeeded and the reply handler ran, or it failed and the reply handler
caught the failure in the world before it. -/
inductive RanOne (machine : Machine ω α μ ε δ)
    (run : ω → α → List (SubMsg μ) → Option δ → Except ε (ω × Option δ))
    (caller : α) (state : ω × Option δ) (sub : SubMsg μ) (result : ω × Option δ) : Prop where
  | quiet {callee : α} {reaction : Reaction ω μ δ} {data : Option δ}
      (executed : machine.execute state.1 caller sub.msg = .ok (callee, reaction))
      (ran : run reaction.world callee reaction.messages reaction.data =
        .ok (result.1, data))
      (uncalled : sub.replyOn.onSuccess = false) (kept : result.2 = state.2)
  | success {callee : α} {reaction response : Reaction ω μ δ} {after : ω × Option δ}
      (executed : machine.execute state.1 caller sub.msg = .ok (callee, reaction))
      (ran : run reaction.world callee reaction.messages reaction.data = .ok after)
      (called : sub.replyOn.onSuccess = true)
      (replied : machine.reply after.1 caller sub.id (.ok after.2) = .ok response)
      (continued : run response.world caller response.messages
        (response.data <|> state.2) = .ok result)
  | caught {err : ε} {response : Reaction ω μ δ}
      (failed : (do
        let (callee, reaction) ← machine.execute state.1 caller sub.msg
        run reaction.world callee reaction.messages reaction.data) = .error err)
      (called : sub.replyOn.onError = true)
      (replied : machine.reply state.1 caller sub.id (.error err) = .ok response)
      (continued : run response.world caller response.messages
        (response.data <|> state.2) = .ok result)

theorem ranOne_of_runOne {result : ω × Option δ}
    (ran : machine.runOne run caller state sub = .ok result) :
    machine.RanOne run caller state sub result := by
  simp only [runOne] at ran
  split at ran
  next after data executed =>
    simp only [bind_eq_ok] at executed
    obtain ⟨⟨callee, reaction⟩, executed, inner⟩ := executed
    split at ran
    next called =>
      simp only [bind_eq_ok] at ran
      obtain ⟨response, replied, continued⟩ := ran
      exact .success executed inner called replied continued
    next uncalled =>
      simp only [Except.ok.injEq] at ran
      subst result
      exact .quiet executed inner (by simpa using uncalled) rfl
  next err failed =>
    split at ran
    next called =>
      simp only [bind_eq_ok] at ran
      obtain ⟨response, replied, continued⟩ := ran
      exact .caught failed called replied continued
    next => cases ran

/-- A submessage that fails or succeeds together with its caller. -/
theorem runOne_never (quiet : sub.replyOn = .never) :
    machine.runOne run caller state sub = (do
      let (callee, reaction) ← machine.execute state.1 caller sub.msg
      let (after, _) ← run reaction.world callee reaction.messages reaction.data
      return (after, state.2)) := by
  simp only [runOne, quiet, ReplyOn.onSuccess, ReplyOn.onError]
  cases machine.execute state.1 caller sub.msg with
  | error err => rfl
  | ok outcome =>
      simp only [ok_bind]
      cases run outcome.2.world outcome.1 outcome.2.messages outcome.2.data with
      | error err => rfl
      | ok result => rfl

end Inversion

/-- Rules that carry an invariant through a dispatch and say how it may change the world.
`ready caller world subs` says that `subs` may be run on behalf of `caller`; it has to hold of
what a handler emits, and again of the remaining submessages once the first one is through.
A handler that emits nothing is through at once, so its reply sees the world it left. -/
structure Rules (machine : Machine ω α μ ε δ) where
  holds : ω → Prop
  ready : α → ω → List (SubMsg μ) → Prop
  grows : ω → ω → Prop
  refl : ∀ world, grows world world
  trans : ∀ {first second third}, grows first second → grows second third → grows first third
  done : ∀ {caller world}, ready caller world [] → holds world
  execute : ∀ {caller world sub subs callee reaction},
    ready caller world (sub :: subs) →
    machine.execute world caller sub.msg = .ok (callee, reaction) →
    ready callee reaction.world reaction.messages ∧ grows world reaction.world
  next : ∀ {caller world sub subs after},
    ready caller world (sub :: subs) → holds after → grows world after →
    ready caller after subs
  replySuccess : ∀ {caller world sub subs callee reaction after data response},
    ready caller world (sub :: subs) →
    machine.execute world caller sub.msg = .ok (callee, reaction) →
    holds after → grows world after →
    (reaction.messages = [] → after = reaction.world ∧ data = reaction.data) →
    sub.replyOn.onSuccess = true →
    machine.reply after caller sub.id (.ok data) = .ok response →
    ready caller response.world response.messages ∧ grows after response.world
  replyError : ∀ {caller world sub subs err response},
    ready caller world (sub :: subs) →
    sub.replyOn.onError = true →
    machine.reply world caller sub.id (.error err) = .ok response →
    ready caller response.world response.messages ∧ grows world response.world

namespace Rules

variable {machine : Machine ω α μ ε δ} (rules : machine.Rules) {depth : Nat}

/-- One submessage, if the rules can be used for what it makes others do. -/
theorem runOne {caller : α} {state result : ω × Option δ} {sub : SubMsg μ}
    {subs : List (SubMsg μ)}
    (below : ∀ {world caller subs data result}, rules.ready caller world subs →
      machine.dispatch depth world caller subs data = .ok result →
      rules.holds result.1 ∧ rules.grows world result.1)
    (ready : rules.ready caller state.1 (sub :: subs))
    (ran : machine.runOne (machine.dispatch depth) caller state sub = .ok result) :
    rules.holds result.1 ∧ rules.grows state.1 result.1 := by
  cases ranOne_of_runOne ran with
  | quiet executed inner uncalled same =>
      rcases rules.execute ready executed with ⟨started, first⟩
      rcases below started inner with ⟨holds, rest⟩
      exact ⟨holds, rules.trans first rest⟩
  | @success callee reaction response after executed inner called replied continued =>
      rcases rules.execute ready executed with ⟨started, first⟩
      rcases below started inner with ⟨holds, rest⟩
      have grown := rules.trans first rest
      have silent : reaction.messages = [] →
          after.1 = reaction.world ∧ after.2 = reaction.data := by
        intro silent
        rw [silent, dispatch_nil, Except.ok.injEq] at inner
        exact ⟨(congrArg Prod.fst inner).symm, (congrArg Prod.snd inner).symm⟩
      rcases rules.replySuccess ready executed holds grown silent called replied with
        ⟨answered, second⟩
      rcases below answered continued with ⟨final, last⟩
      exact ⟨final, rules.trans grown (rules.trans second last)⟩
  | caught failed called replied continued =>
      rcases rules.replyError ready called replied with ⟨answered, first⟩
      rcases below answered continued with ⟨final, rest⟩
      exact ⟨final, rules.trans first rest⟩

/-- Whatever may be run leaves the invariant behind. -/
theorem dispatch {world : ω} {caller : α} {subs : List (SubMsg μ)} {data : Option δ}
    {result : ω × Option δ} (ready : rules.ready caller world subs)
    (ran : machine.dispatch depth world caller subs data = .ok result) :
    rules.holds result.1 ∧ rules.grows world result.1 := by
  induction depth generalizing world caller subs data result with
  | zero =>
      cases subs with
      | nil =>
          simp only [dispatch_nil, Except.ok.injEq] at ran
          exact ran ▸ ⟨rules.done ready, rules.refl world⟩
      | cons sub subs => simp at ran
  | succ depth ih =>
      induction subs generalizing world data with
      | nil =>
          simp only [dispatch_nil, Except.ok.injEq] at ran
          exact ran ▸ ⟨rules.done ready, rules.refl world⟩
      | cons sub subs rest =>
          rw [dispatch_succ_cons, bind_eq_ok] at ran
          rcases ran with ⟨middle, first, remaining⟩
          rcases rules.runOne ih ready first with ⟨holds, grown⟩
          rcases rest (rules.next ready holds grown) remaining with ⟨final, more⟩
          exact ⟨final, rules.trans grown more⟩

end Rules

/-! ## Invocations -/

/-- A handler is run in the course of a dispatch: in the world `at_`, on behalf of `by_`.  It
does not matter whether it succeeds, or whether what it does is rolled back later. -/
inductive Invokes (machine : Machine ω α μ ε δ) :
    Nat → ω → α → List (SubMsg μ) → Option δ → ω → α → μ → Prop where
  | now {depth world caller sub subs data} :
      Invokes machine (depth + 1) world caller (sub :: subs) data world caller sub.msg
  | inside {depth world caller sub subs data callee reaction at_ by_ msg}
      (executed : machine.execute world caller sub.msg = .ok (callee, reaction))
      (inner : Invokes machine depth reaction.world callee reaction.messages reaction.data
        at_ by_ msg) :
      Invokes machine (depth + 1) world caller (sub :: subs) data at_ by_ msg
  | answered {depth world caller sub subs data callee reaction after response at_ by_ msg}
      (executed : machine.execute world caller sub.msg = .ok (callee, reaction))
      (ran : machine.dispatch depth reaction.world callee reaction.messages reaction.data =
        .ok after)
      (called : sub.replyOn.onSuccess = true)
      (replied : machine.reply after.1 caller sub.id (.ok after.2) = .ok response)
      (inner : Invokes machine depth response.world caller response.messages
        (response.data <|> data) at_ by_ msg) :
      Invokes machine (depth + 1) world caller (sub :: subs) data at_ by_ msg
  | caught {depth world caller sub subs data err response at_ by_ msg}
      (called : sub.replyOn.onError = true)
      (replied : machine.reply world caller sub.id (.error err) = .ok response)
      (inner : Invokes machine depth response.world caller response.messages
        (response.data <|> data) at_ by_ msg) :
      Invokes machine (depth + 1) world caller (sub :: subs) data at_ by_ msg
  | later {depth world caller sub subs data after at_ by_ msg}
      (ran : machine.runOne (machine.dispatch depth) caller (world, data) sub = .ok after)
      (inner : Invokes machine (depth + 1) after.1 caller subs after.2 at_ by_ msg) :
      Invokes machine (depth + 1) world caller (sub :: subs) data at_ by_ msg

/-- Whatever is invoked was ready to be run. -/
theorem Rules.invoked {machine : Machine ω α μ ε δ} (rules : machine.Rules) {depth : Nat}
    {world at_ : ω} {caller by_ : α} {subs : List (SubMsg μ)} {data : Option δ} {msg : μ}
    (ready : rules.ready caller world subs)
    (invokes : machine.Invokes depth world caller subs data at_ by_ msg) :
    ∃ sub rest, sub.msg = msg ∧ rules.ready by_ at_ (sub :: rest) := by
  induction invokes with
  | now => exact ⟨_, _, rfl, ready⟩
  | inside executed inner ih => exact ih (rules.execute ready executed).1
  | @answered _ _ _ _ _ _ _ reaction after _ _ _ _ executed ran called replied inner ih =>
      rcases rules.execute ready executed with ⟨started, first⟩
      rcases rules.dispatch started ran with ⟨holds, rest⟩
      have silent : reaction.messages = [] →
          after.1 = reaction.world ∧ after.2 = reaction.data := by
        intro silent
        rw [silent, dispatch_nil, Except.ok.injEq] at ran
        exact ⟨(congrArg Prod.fst ran).symm, (congrArg Prod.snd ran).symm⟩
      exact ih (rules.replySuccess ready executed holds (rules.trans first rest) silent called
        replied).1
  | caught called replied inner ih => exact ih (rules.replyError ready called replied).1
  | later ran inner ih =>
      rcases rules.runOne rules.dispatch ready ran with ⟨holds, grown⟩
      exact ih (rules.next ready holds grown)

/-! ## Assertions -/

/-- Assertions that carry an invariant through a dispatch.  `ready caller world subs`
says that `subs` may be run on behalf of `caller`; it has to hold of what a handler
emits, and again of the remaining submessages once the first one is through.  A
handler that emits nothing is through at once, so its reply sees the world it left. -/
structure Assertions (machine : Machine ω α μ ε δ) where
  invariant : ω → Prop
  ready : α → ω → List (SubMsg μ) → Prop
  done : ∀ {caller world}, ready caller world [] → invariant world
  execute : ∀ {caller world sub subs callee reaction},
    ready caller world (sub :: subs) →
    machine.execute world caller sub.msg = .ok (callee, reaction) →
    ready callee reaction.world reaction.messages
  next : ∀ {caller world sub subs after},
    ready caller world (sub :: subs) → invariant after → ready caller after subs
  replySuccess : ∀ {caller world sub subs callee reaction after data response},
    ready caller world (sub :: subs) →
    machine.execute world caller sub.msg = .ok (callee, reaction) →
    invariant after →
    (reaction.messages = [] → after = reaction.world ∧ data = reaction.data) →
    sub.replyOn.onSuccess = true →
    machine.reply after caller sub.id (.ok data) = .ok response →
    ready caller response.world response.messages
  replyError : ∀ {caller world sub subs err response},
    ready caller world (sub :: subs) →
    sub.replyOn.onError = true →
    machine.reply world caller sub.id (.error err) = .ok response →
    ready caller response.world response.messages

/-- Assertions are rules that say nothing about how the world changes. -/
def Assertions.rules {machine : Machine ω α μ ε δ} (assertions : machine.Assertions) :
    machine.Rules where
  holds := assertions.invariant
  ready := assertions.ready
  grows _ _ := True
  refl _ := trivial
  trans _ _ := trivial
  done := assertions.done
  execute ready executed := ⟨assertions.execute ready executed, trivial⟩
  next ready holds _ := assertions.next ready holds
  replySuccess ready executed holds _ silent called replied :=
    ⟨assertions.replySuccess ready executed holds silent called replied, trivial⟩
  replyError ready called replied := ⟨assertions.replyError ready called replied, trivial⟩

/-- Whatever may be run leaves the invariant behind. -/
theorem Assertions.dispatch {machine : Machine ω α μ ε δ}
    (assertions : machine.Assertions) {depth : Nat} {world : ω} {caller : α}
    {subs : List (SubMsg μ)} {data : Option δ} {result : ω × Option δ}
    (ready : assertions.ready caller world subs)
    (ran : machine.dispatch depth world caller subs data = .ok result) :
    assertions.invariant result.1 :=
  (assertions.rules.dispatch ready ran).1

/-! ## Machines that succeed less often -/

/-- Whatever succeeds on `small` has the same outcome on `large`. -/
structure Refines (small large : Machine ω α μ ε δ) : Prop where
  execute : ∀ {world caller msg outcome}, small.execute world caller msg = .ok outcome →
    large.execute world caller msg = .ok outcome
  reply : ∀ {world caller id result response},
    small.reply world caller id (.ok result) = .ok response →
    large.reply world caller id (.ok result) = .ok response

/-- Submessages whose failure is the failure of their caller. -/
def Uncaught (subs : List (SubMsg μ)) : Prop := ∀ sub ∈ subs, sub.replyOn.onError = false

/-- No handler catches the failure of what it calls. -/
structure Aborting (machine : Machine ω α μ ε δ) : Prop where
  execute : ∀ {world caller msg callee reaction},
    machine.execute world caller msg = .ok (callee, reaction) → Uncaught reaction.messages
  reply : ∀ {world caller id result response},
    machine.reply world caller id (.ok result) = .ok response → Uncaught response.messages

/-- A submessage that went through on `small`, with everything below it, goes through on
`large`. -/
theorem Refines.runOne {small large : Machine ω α μ ε δ} (refines : Refines small large)
    (aborting : Aborting large)
    {run run' : ω → α → List (SubMsg μ) → Option δ → Except ε (ω × Option δ)}
    (below : ∀ {world caller subs data result}, Uncaught subs →
      run world caller subs data = .ok result → run' world caller subs data = .ok result)
    {caller : α} {state result : ω × Option δ} {sub : SubMsg μ}
    (uncaught : sub.replyOn.onError = false)
    (ran : small.runOne run caller state sub = .ok result) :
    large.runOne run' caller state sub = .ok result := by
  cases ranOne_of_runOne ran with
  | quiet executed inner uncalled kept =>
      have executed' := refines.execute executed
      have inner' := below (aborting.execute executed') inner
      simp only [Machine.runOne, executed', ok_bind, inner', uncalled]
      rw [← kept]
      rfl
  | success executed inner called replied continued =>
      have executed' := refines.execute executed
      have inner' := below (aborting.execute executed') inner
      have replied' := refines.reply replied
      have continued' := below (aborting.reply replied') continued
      simp only [Machine.runOne, executed', ok_bind, inner', called, if_true, replied',
        continued']
  | caught failed called => simp [uncaught] at called

/-- What goes through on `small` goes through on `large`, and with more room to nest
calls. -/
theorem Refines.dispatch {small large : Machine ω α μ ε δ} (refines : Refines small large)
    (aborting : Aborting large) {depth deeper : Nat} (room : depth ≤ deeper) {world : ω}
    {caller : α} {subs : List (SubMsg μ)} {data : Option δ} {result : ω × Option δ}
    (uncaught : Uncaught subs)
    (ran : small.dispatch depth world caller subs data = .ok result) :
    large.dispatch deeper world caller subs data = .ok result := by
  induction depth generalizing deeper world caller subs data result with
  | zero =>
      cases subs with
      | nil => simpa using ran
      | cons sub subs => simp at ran
  | succ depth ih =>
      obtain ⟨deeper, rfl⟩ : ∃ less, deeper = less + 1 := ⟨deeper - 1, by omega⟩
      induction subs generalizing world data with
      | nil => simpa using ran
      | cons sub subs rest =>
          rw [dispatch_succ_cons, bind_eq_ok] at ran ⊢
          obtain ⟨middle, first, remaining⟩ := ran
          refine ⟨middle, ?_, ?_⟩
          · exact refines.runOne aborting (fun below => ih (by omega) below)
              (uncaught sub List.mem_cons_self) first
          · exact rest (fun other member => uncaught other (List.mem_cons_of_mem _ member))
              remaining

end Machine

end Ics721.Library
