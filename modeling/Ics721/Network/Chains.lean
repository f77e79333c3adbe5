import Ics721.Network.Secured

/-!
# The chains of a run

Each chain of a network, taken by itself, runs as a single chain does.  What holds in every
run of a single chain therefore holds of every chain of a network.
-/

namespace Ics721

open Library

namespace Network

variable {ι : Type} {network : Network ι} {state after final : State ι}

/-! ## What the chains keep -/

/-- Registered classes stay registered, and accounts stay accounts. -/
structure Later (network : Network ι) (state after : State ι) : Prop where
  registry : ∀ chain, Extends (state.worlds chain).storage (after.worlds chain).storage
  account : ∀ {chain addr},
    (network.deployment chain).Account (state.worlds chain) addr →
    (network.deployment chain).Account (after.worlds chain) addr

theorem Later.refl (network : Network ι) (state : State ι) : network.Later state state :=
  ⟨fun _ => .refl _, id⟩

theorem Later.trans (first : network.Later state after) (second : network.Later after final) :
    network.Later state final :=
  ⟨fun chain => (first.registry chain).trans (second.registry chain),
    fun account => second.account (first.account account)⟩

/-- The chain takes one of its own steps, or none. -/
def OwnStep (network : Network ι) (chain : ι) (world after : World Ledger) : Prop :=
  after = world ∨ ∃ label : Chain.Label,
    (network.deployment chain).step (network.deployment chain).contracts world label = after

theorem Secured.later_of_own (secured : network.Secured state)
    (own : ∀ chain, network.OwnStep chain (state.worlds chain) (after.worlds chain)) :
    network.Later state after := by
  constructor
  · intro chain
    rcases secured.orderly chain with ⟨codeId, orderly⟩
    rcases own chain with same | ⟨label, reached⟩
    · rw [same]
      exact .refl _
    · have extended := orderly.toHeld.extends (.of _ label)
      simp only [Deployment.happen, Deployment.Event.of, reached] at extended
      exact extended
  · intro chain addr account
    rcases secured.orderly chain with ⟨codeId, orderly⟩
    rcases own chain with same | ⟨label, reached⟩
    · rw [same]
      exact account
    · have stepped := orderly.toHeld.stepped (.of _ label)
      simp only [Deployment.happen, Deployment.Event.of, reached] at stepped
      exact account.stepped stepped

variable [DecidableEq ι]

/-- One chain takes a step of its own, and the others do nothing. -/
theorem own_update {here : ι} {label : Chain.Label} {world : World Ledger}
    (reached : (network.deployment here).step (network.deployment here).contracts
      (state.worlds here) label = world) (chain : ι) :
    network.OwnStep chain (state.worlds chain)
      (Function.update state.worlds here world chain) := by
  by_cases same : chain = here
  · subst same
    rw [Function.update_self]
    exact .inr ⟨label, reached⟩
  · rw [Function.update_of_ne same]
    exact .inl rfl

/-- A step of the network is a step of each chain or nothing. -/
theorem Linked.own (linked : network.Linked state) (label : Label ι) (chain : ι) :
    network.OwnStep chain (state.worlds chain) ((network.step state label).worlds chain) := by
  cases label with
  | execute here sender msg => exact own_update rfl chain
  | migrate here pauser => exact own_update rfl chain
  | deliver here packet =>
      simp only [Network.step, Network.deliver]
      split
      next permitted =>
        rcases linked.posted here packet permitted.1 with ⟨data, tokenId, posted⟩
        rcases posted.opened with ⟨there, far, opened, dest⟩
        simp only [opened]
        split
        next reached ack received =>
          have addressed : packet.dest.portId = (network.deployment there).portId := by
            rw [dest]
          exact own_update (step_receive addressed received) chain
        next => exact .inl rfl
      next => exact .inl rfl
  | acknowledge here packet =>
      simp only [Network.step]
      split
      next => exact own_update rfl chain
      next => exact .inl rfl
  | timeout here packet =>
      simp only [Network.step]
      split
      next => exact .inl rfl
      next => exact own_update rfl chain

/-- What a step of the network comes down to: nothing, a step of one chain that IBC core permits,
or a delivery. -/
inductive Taken (network : Network ι) (state : State ι) : Label ι → State ι → Prop where
  | stayed {label : Label ι} : Taken network state label state
  | acted {label : Label ι} {here : ι} {own : Chain.Label} (direct : own.Direct)
      (executes : ∀ sender msg, own = .execute sender msg → label = .execute here sender msg)
      (notReceived : ∀ packet, own ≠ .receive packet)
      (acked : ∀ packet ack, own = .ack packet ack → state.acks here packet = some ack)
      (undelivered : ∀ packet, own = .timeout packet → state.acks here packet = none) :
      Taken network state label (network.act state here own)
  | delivered {here : ι} {packet : IbcPacket} :
      Taken network state (.deliver here packet) (network.deliver state here packet)

theorem taken (network : Network ι) (state : State ι) (label : Label ι) :
    network.Taken state label (network.step state label) := by
  cases label with
  | execute chain sender msg => exact .acted trivial (by simp) (by simp) (by simp) (by simp)
  | migrate chain pauser => exact .acted rfl (by simp) (by simp) (by simp) (by simp)
  | deliver chain packet => exact .delivered
  | acknowledge chain packet =>
      simp only [Network.step]
      split
      next ack known =>
        refine .acted trivial (by simp) (by simp) ?_ (by simp)
        rintro _ _ ⟨⟩
        exact known
      next => exact .stayed
  | timeout chain packet =>
      simp only [Network.step]
      split
      next => exact .stayed
      next undelivered =>
        refine .acted trivial (by simp) (by simp) (by simp) ?_
        rintro _ ⟨⟩
        exact undelivered

theorem Secured.run (secured : network.Secured state) (labels : List (Label ι)) :
    network.Secured (labels.foldl network.step state) ∧
      network.Later state (labels.foldl network.step state) := by
  induction labels generalizing state with
  | nil => exact ⟨secured, .refl _ _⟩
  | cons label labels ih =>
      have later := secured.later_of_own (secured.own label)
      rcases ih (secured.step label) with ⟨securedAfter, laterAfter⟩
      exact ⟨securedAfter, later.trans laterAfter⟩

/-! ## Runs of single chains -/

/-- What every step of a single chain keeps, a run of the network keeps on that chain. -/
theorem Secured.keep {chain : ι} {property : World Ledger → Prop}
    (kept : ∀ world label, property world →
      property ((network.deployment chain).step (network.deployment chain).contracts world
        label))
    (secured : network.Secured state) (holds : property (state.worlds chain))
    (labels : List (Label ι)) : property ((labels.foldl network.step state).worlds chain) := by
  induction labels generalizing state with
  | nil => exact holds
  | cons label labels ih =>
      apply ih (secured.step label)
      rcases secured.own label chain with same | ⟨own, reached⟩
      · rw [same]
        exact holds
      · rw [← reached]
        exact kept _ own holds

/-- No packet of a network is malformed. -/
theorem Genesis.presentable (genesis : network.Genesis state) (labels : List (Label ι))
    (chain : ι) : Presentable (network.deployment chain).api
      ((labels.foldl network.step state).worlds chain) := by
  rcases genesis.instantiated chain with ⟨msg, ledger, -, -, instantiated⟩
  have lawful := Deployment.lawful (.refl (network.deployment chain).contracts)
    msg.cw721BaseCodeId
  apply genesis.secured.keep _ (Presentable.instantiateTx lawful instantiated) labels
  intro world label presentable
  exact presentable.step lawful label

end Network

end Ics721
