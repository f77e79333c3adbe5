import Ics721.Network.Simulation
import Mathlib.Data.List.Nodup

/-!
# Runs of a network of bridges

`Secured` holds in every state that a network reaches from freshly instantiated bridges:
its chains and packets are in order, and its vouchers are backed.
-/

namespace Ics721

open Library

namespace Network

variable {ι : Type} {network : Network ι} {state : State ι}

/-- What holds of a network of bridges in every state it reaches. -/
structure Secured (network : Network ι) (state : State ι) : Prop
    extends network.Linked state where
  backing : network.vouchers.Backing (network.view state)

/-- Bridges that were just instantiated. -/
theorem Genesis.secured (genesis : network.Genesis state) : network.Secured state := by
  have fresh : ∀ chain, ∃ codeId pauser ledger,
      (network.deployment chain).Orderly codeId (state.worlds chain) ∧
      state.worlds chain = ⟨⟨codeId, none, pauser, false, .empty, .empty, .empty, .empty, .empty,
        .empty⟩, ledger, [], 0, []⟩ := by
    intro chain
    rcases genesis.instantiated chain with ⟨msg, ledger, unused, room, instantiated⟩
    have orderly := Deployment.Orderly.genesis unused room instantiated
    rcases Deployment.instantiateTx_eq_ok (.refl _) instantiated with ⟨-, pauser, same⟩
    exact ⟨_, pauser, ledger, orderly, same⟩
  constructor
  · constructor
    · intro chain
      rcases fresh chain with ⟨codeId, -, -, orderly, -⟩
      exact ⟨codeId, orderly⟩
    · intro chain packet member
      rcases fresh chain with ⟨codeId, pauser, ledger, -, same⟩
      rw [same] at member
      cases member
    · intro chain packet member
      rcases fresh chain with ⟨codeId, pauser, ledger, -, same⟩
      rw [same] at member
      cases member
    · intro chain
      rcases fresh chain with ⟨codeId, pauser, ledger, -, same⟩
      rw [same]
      exact List.nodup_nil
    · intro chain packet present
      exact absurd (genesis.undelivered chain packet) present
  · apply VoucherNet.Backing.start
    · intro chain packet member
      rcases fresh chain with ⟨codeId, pauser, ledger, -, same⟩
      simp only [view, same] at member
      cases member
    · intro chain classId tokenId
      rcases fresh chain with ⟨codeId, pauser, ledger, -, same⟩
      simp only [view, same]
      rfl
    · intro chain channelId ends classId tokenId _
      rcases fresh chain with ⟨codeId, pauser, ledger, -, same⟩
      simp only [view, same]
      rfl

/-! ## Steps of the network -/

variable [DecidableEq ι]

/-- One chain takes a step, and packets may be delivered. -/
theorem Linked.update (linked : network.Linked state) {here : ι} {after : World Ledger}
    {acks : ι → IbcPacket → Option Binary}
    (orderly : ∃ codeId, (network.deployment here).Orderly codeId after)
    (mailed : (after.commitments.Sublist (state.worlds here).commitments ∧
        after.nextSequence = (state.worlds here).nextSequence) ∨
      ∃ packet data tokenId,
        (network.deployment here).Sent (state.worlds here) after packet data tokenId)
    (acked : ∀ chain packet, acks chain packet ≠ none →
      state.acks chain packet ≠ none ∨ packet ∈ (state.worlds chain).commitments) :
    network.Linked ⟨Function.update state.worlds here after, acks⟩ := by
  have later : (state.worlds here).nextSequence ≤ after.nextSequence := by
    rcases mailed with ⟨-, same⟩ | ⟨_, _, _, sent⟩
    · exact Nat.le_of_eq same.symm
    · exact Nat.le.intro sent.nextSequence.symm
  constructor
  · intro chain
    by_cases same : chain = here
    · subst same
      simp only [Function.update_self]
      exact orderly
    · simp only [Function.update_of_ne same]
      exact linked.orderly chain
  · intro chain packet
    by_cases same : chain = here
    · subst same
      simp only [Function.update_self]
      intro member
      rcases mailed with ⟨fewer, -⟩ | ⟨new, data, tokenId, sent⟩
      · exact linked.posted chain packet (fewer.subset member)
      · rw [sent.commitments, List.mem_append, List.mem_singleton] at member
        rcases member with old | rfl
        · exact linked.posted chain packet old
        · exact ⟨data, tokenId, sent.toPosted⟩
    · simp only [Function.update_of_ne same]
      exact linked.posted chain packet
  · intro chain packet
    by_cases same : chain = here
    · subst same
      simp only [Function.update_self]
      intro member
      rcases mailed with ⟨fewer, -⟩ | ⟨new, data, tokenId, sent⟩
      · exact Nat.lt_of_lt_of_le (linked.numbered chain packet (fewer.subset member)) later
      · rw [sent.commitments, List.mem_append, List.mem_singleton] at member
        rcases member with old | rfl
        · exact Nat.lt_of_lt_of_le (linked.numbered chain packet old) later
        · rw [sent.sequence, sent.nextSequence]
          exact Nat.lt_succ_self _
    · simp only [Function.update_of_ne same]
      exact linked.numbered chain packet
  · intro chain
    by_cases same : chain = here
    · subst same
      simp only [Function.update_self]
      rcases mailed with ⟨fewer, -⟩ | ⟨new, data, tokenId, sent⟩
      · exact (linked.distinct chain).sublist fewer
      · rw [sent.commitments]
        apply List.Nodup.append (linked.distinct chain) (List.nodup_singleton _)
        rw [List.disjoint_singleton]
        intro member
        have earlier := linked.numbered chain new member
        rw [sent.sequence] at earlier
        exact Nat.lt_irrefl _ earlier
    · simp only [Function.update_of_ne same]
      exact linked.distinct chain
  · intro chain packet present
    have earlier : packet.sequence < (state.worlds chain).nextSequence := by
      rcases acked chain packet present with old | delivered
      · exact linked.received chain packet old
      · exact linked.numbered chain packet delivered
    by_cases same : chain = here
    · subst same
      simp only [Function.update_self]
      exact Nat.lt_of_lt_of_le earlier later
    · simp only [Function.update_of_ne same]
      exact earlier

/-- A step of one chain, as IBC core permits it. -/
theorem step_act {here : ι} {codeId : Nat} {label : Chain.Label} {after : World Ledger}
    (linked : network.Linked state)
    (orderly : (network.deployment here).Orderly codeId (state.worlds here))
    (extended : Extends (state.worlds here).storage after.storage)
    (notReceived : ∀ packet, label ≠ .receive packet)
    (acked : ∀ packet ack, label = .ack packet ack → state.acks here packet = some ack)
    (undelivered : ∀ packet, label = .timeout packet → state.acks here packet = none)
    (stepped : (network.deployment here).Stepped (state.worlds here) label after) :
    network.vouchers.Step (network.view state)
      (network.view ⟨Function.update state.worlds here after, state.acks⟩) := by
  cases stepped with
  | stayed => exact step_idle (fun _ _ => .of_eq rfl) rfl rfl rfl
  | executed account noContract executed =>
      exact step_executed orderly extended account noContract executed
  | received => exact absurd rfl (notReceived _)
  | failed => exact absurd rfl (notReceived _)
  | @refunded _ packet _ fails pending refunds =>
      rcases linked.posted here packet pending with ⟨data, tokenId, posted⟩
      apply step_refunded orderly posted (linked.distinct here) pending _ refunds
      rcases fails with timedOut | ⟨ack, isAck, failure⟩
      · simp [view, undelivered packet timedOut]
      · simp [view, acked packet ack isAck, failure]
  | @burned packet ack _ pending success burns =>
      rcases linked.posted here packet pending with ⟨data, tokenId, posted⟩
      apply step_burned orderly posted (linked.distinct here) pending _ burns
      simp [view, acked packet ack rfl, success]
  | migrated migrated =>
      simp only [migrate, Storage.setPauser, bind_eq_ok, mapError_eq_ok, pure_eq_ok,
        Prod.mk.injEq] at migrated
      rcases migrated with ⟨_, -, _, ⟨_, -, rfl⟩, rfl, -⟩
      exact step_idle (fun _ _ => .of_eq rfl) rfl rfl rfl

theorem Secured.act (secured : network.Secured state) {here : ι} {label : Chain.Label}
    (direct : label.Direct) (notReceived : ∀ packet, label ≠ .receive packet)
    (acked : ∀ packet ack, label = .ack packet ack → state.acks here packet = some ack)
    (undelivered : ∀ packet, label = .timeout packet → state.acks here packet = none) :
    network.Secured (network.act state here label) := by
  rcases secured.orderly here with ⟨codeId, orderly⟩
  have stepped := orderly.toHeld.stepped (.of _ label)
  have extended := orderly.toHeld.extends (.of _ label)
  constructor
  · exact secured.toLinked.update ⟨codeId, orderly.step direct⟩
      (orderly.mailed extended stepped) (fun _ _ present => .inl present)
  · exact secured.backing.step (step_act secured.toLinked orderly extended notReceived acked
      undelivered stepped)

/-- A packet goes to the port of the other end's bridge. -/
theorem step_receive {deployment : Deployment} {world after : World Ledger}
    {packet : IbcPacket} {ack : Binary} (addressed : packet.dest.portId = deployment.portId)
    (received : deployment.receiveTx deployment.contracts world packet = .ok (after, ack)) :
    deployment.step deployment.contracts world (.receive packet) = after := by
  simp [Chain.step, Chain.transaction, addressed, received, Except.map]

theorem Secured.deliver (secured : network.Secured state) (here : ι) (packet : IbcPacket) :
    network.Secured (network.deliver state here packet) := by
  unfold Network.deliver
  split
  next permitted =>
    rcases permitted with ⟨pending, unreceived⟩
    rcases secured.posted here packet pending with ⟨data, tokenId, posted⟩
    rcases posted.opened with ⟨there, far, opened, dest⟩
    simp only [opened]
    split
    next after ack received =>
      rcases secured.orderly there with ⟨codeId, orderly⟩
      have addressed : packet.dest.portId = (network.deployment there).portId := by rw [dest]
      have reached := step_receive addressed received
      have direct : (Chain.Label.receive packet).Direct := trivial
      have orderlyAfter := orderly.step direct
      have stepped := orderly.toHeld.stepped (.of _ (.receive packet))
      have extended := orderly.toHeld.extends (.of _ (.receive packet))
      have mailed := orderly.mailed extended stepped
      simp only [Deployment.happen, Deployment.Event.of, reached] at mailed orderlyAfter
      constructor
      · apply secured.toLinked.update ⟨codeId, orderlyAfter⟩ mailed
        intro chain other present
        by_cases same : chain = here
        · subst same
          by_cases isPacket : other = packet
          · rw [isPacket]
            exact .inr pending
          · left
            simpa [Function.update_of_ne isPacket] using present
        · left
          simpa [Function.update_of_ne same] using present
      · apply secured.backing.step
        apply step_delivered secured.backing orderly.toHeld orderlyAfter.toHeld posted dest
          pending _ opened received
        simp [view, unreceived]
    next => exact secured
  next => exact secured

theorem Secured.step (secured : network.Secured state) (label : Label ι) :
    network.Secured (network.step state label) := by
  cases label with
  | execute chain sender msg =>
      apply secured.act
      · exact trivial
      · intro packet same
        cases same
      · intro packet ack same
        cases same
      · intro packet same
        cases same
  | migrate chain pauser =>
      apply secured.act
      · rfl
      · intro packet same
        cases same
      · intro packet ack same
        cases same
      · intro packet same
        cases same
  | deliver chain packet => exact secured.deliver chain packet
  | acknowledge chain packet =>
      simp only [Network.step]
      split
      next ack delivered =>
        apply secured.act
        · exact trivial
        · intro other same
          cases same
        · intro other otherAck same
          cases same
          exact delivered
        · intro other same
          cases same
      next => exact secured
  | timeout chain packet =>
      simp only [Network.step]
      split
      next => exact secured
      next undelivered =>
        apply secured.act
        · exact trivial
        · intro other same
          cases same
        · intro other otherAck same
          cases same
        · intro other same
          cases same
          exact undelivered

/-- Every state of every run. -/
theorem Genesis.run (genesis : network.Genesis state) (labels : List (Label ι)) :
    network.Secured (labels.foldl network.step state) :=
  run_invariant (fun _ label secured => secured.step label) labels genesis.secured

end Network

end Ics721
