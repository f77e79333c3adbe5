import Ics721.Bridge.Reentry

/-!
# The unsettled packets of one contract

Every packet that is not settled was sent for an NFT that a contract handed to the bridge.
How many there are for one contract changes with each step by what it hands over, less one
if the step settles a packet of its own.
-/

namespace Ics721

open Library

variable {σ : Type}

/-- The packet was sent for an NFT of the contract. -/
def sentFor (sends : List SendRecord) (contract : Addr) (packet : IbcPacket) : Bool :=
  sends[packet.sequence]?.any fun record => record.contract = contract

/-- How many packets with NFTs of the contract are not settled. -/
def World.pendingOf (world : World σ) (contract : Addr) : Nat :=
  world.commitments.countP (sentFor world.sends contract)

/-- How many NFTs of the contract were handed to the bridge. -/
def handedBy (contract : Addr) (records : List SendRecord) : Nat :=
  records.countP fun record => record.contract = contract

@[simp] theorem handedBy_nil (contract : Addr) : handedBy contract [] = 0 := rfl

theorem handedBy_append (contract : Addr) (left right : List SendRecord) :
    handedBy contract (left ++ right) = handedBy contract left + handedBy contract right :=
  List.countP_append

/-- The packet that a label settles. -/
def Chain.Label.settled : Chain.Label → Option IbcPacket
  | .ack packet _ | .timeout packet => some packet
  | .execute _ _ | .receive _ | .migrate _ => none

/-- The packet is settled with a failure. -/
def Chain.Label.refuses (api : Api) : Chain.Label → Bool
  | .timeout _ => true
  | .ack _ acknowledgement => (tryGetAckError api acknowledgement).isSome
  | .execute _ _ | .receive _ | .migrate _ => false

/-- A packet with an NFT of the contract is settled. -/
def Chain.settlesFor (chain : Chain) (contracts : Contracts σ) (world : World σ)
    (label : Chain.Label) (contract : Addr) : Bool :=
  label.settled.any (sentFor world.sends contract) &&
    (chain.transaction contracts world label).isOk

/-! ## Numbered packets -/

/-- New packets are numbered one after the other. -/
def Numbered (before after : World σ) : Prop :=
  ∃ records packets, after.sends = before.sends ++ records ∧
    after.commitments = before.commitments ++ packets ∧
    packets.map IbcPacket.sequence = List.range' before.nextSequence packets.length ∧
    after.nextSequence = before.nextSequence + packets.length

namespace Numbered

theorem same {before after : World σ} (sends : after.sends = before.sends)
    (commitments : after.commitments = before.commitments)
    (sequence : after.nextSequence = before.nextSequence) : Numbered before after :=
  ⟨[], [], by rw [sends, List.append_nil], by rw [commitments, List.append_nil], rfl, sequence⟩

theorem trans {first second third : World σ} (left : Numbered first second)
    (right : Numbered second third) : Numbered first third := by
  rcases left with ⟨records, packets, sends, commitments, numbers, next⟩
  rcases right with ⟨records', packets', sends', commitments', numbers', next'⟩
  refine ⟨records ++ records', packets ++ packets', ?_, ?_, ?_, ?_⟩
  · rw [sends', sends, List.append_assoc]
  · rw [commitments', commitments, List.append_assoc]
  · rw [List.map_append, numbers, numbers', next, List.range'_append_1, List.length_append]
  · rw [next', next, List.length_append, Nat.add_assoc]

section Calls

variable {chain : Chain} {contracts : Contracts σ}

theorem executeMsg {world : World σ} {caller callee : Addr} {msg : CosmosMsg}
    {reaction : Reaction (World σ) CosmosMsg ReplyData}
    (executed : chain.executeMsg contracts world caller msg = .ok (callee, reaction)) :
    Numbered world reaction.world := by
  cases executed_of_executeMsg executed with
  | called => exact .same rfl rfl rfl
  | instantiated => exact .same rfl rfl rfl
  | @sent msg record => exact ⟨[record], [], rfl, by simp, rfl, rfl⟩
  | paused => exact .same rfl rfl rfl
  | callback => exact .same rfl rfl rfl
  | packet _ accepted =>
      simp only [Chain.sendPacket] at accepted
      split at accepted
      next => cases accepted
      next =>
        cases accepted
        exact ⟨[], [_], by simp, rfl, rfl, rfl⟩
  | foreign => exact .same rfl rfl rfl

theorem replyMsg {world : World σ} {caller : Addr} {id : Nat}
    {result : Except ChainError (Option ReplyData)}
    {reaction : Reaction (World σ) CosmosMsg ReplyData}
    (replied : chain.replyMsg contracts world caller id result = .ok reaction) :
    Numbered world reaction.world := by
  simp only [Chain.replyMsg] at replied
  split at replied
  next =>
    simp only [bind_eq_ok, mapError_eq_ok, pure_eq_ok] at replied
    rcases replied with ⟨_, -, rfl⟩
    exact .same rfl rfl rfl
  next =>
    simp only [bind_eq_ok, mapError_eq_ok, pure_eq_ok] at replied
    rcases replied with ⟨_, -, rfl⟩
    exact .same rfl rfl rfl

/-- Whatever is called, packets are numbered. -/
def follower (chain : Chain) (contracts : Contracts σ) : (chain.machine contracts).Follower where
  relates before after _ := Numbered before after
  refl _ := .same rfl rfl rfl
  trans := trans
  execute := executeMsg
  reply := replyMsg

end Calls

end Numbered

/-! ## Accounting -/

/-- Packets that are numbered from `earlier.length` on were sent for the records after
`earlier`. -/
theorem countP_sentFor {contract : Addr} {earlier records : List SendRecord}
    {packets : List IbcPacket} (alike : packets.length = records.length)
    (numbers : packets.map IbcPacket.sequence = List.range' earlier.length packets.length) :
    packets.countP (sentFor (earlier ++ records) contract) = handedBy contract records := by
  have found : packets.map (fun packet => (earlier ++ records)[packet.sequence]?) =
      records.map some := by
    have looked : packets.map (fun packet => (earlier ++ records)[packet.sequence]?) =
        (List.range' earlier.length packets.length).map fun index =>
          (earlier ++ records)[index]? := by
      rw [← numbers, List.map_map]
      rfl
    rw [looked, alike]
    apply List.ext_getElem
    · simp
    · intro index inRange inRecords
      rw [List.length_map] at inRecords
      simp only [List.getElem_map, List.getElem_range', Nat.one_mul]
      rw [List.getElem?_append_right (Nat.le_add_right _ _), Nat.add_sub_cancel_left,
        List.getElem?_eq_getElem inRecords]
  have counted := congrArg (List.countP fun option : Option SendRecord =>
    option.any fun record => record.contract = contract) found
  rw [List.countP_map, List.countP_map] at counted
  exact counted

section Steps

variable {chain : Chain} {contracts : Contracts σ} {codeId : Nat} {world : World σ}

/-- What was sent before is still found when more is sent. -/
theorem Sound.sentFor_append (sound : Sound chain contracts codeId world) {packet : IbcPacket}
    (pending : packet ∈ world.commitments) (contract : Addr) (records : List SendRecord) :
    sentFor (world.sends ++ records) contract packet = sentFor world.sends contract packet := by
  rcases sound.origin packet pending with ⟨record, recorded, -, -⟩
  rcases List.getElem?_eq_some_iff.mp recorded with ⟨inRange, -⟩
  simp only [sentFor, List.getElem?_append_left inRange]

/-- What a transaction numbers packets from: the world before it, without the packet that it
settles. -/
theorem exists_numbered {after : World σ} {label : Chain.Label}
    (done : chain.transaction contracts world label = .ok after) :
    ∃ base : World σ, base.sends = world.sends ∧ base.nextSequence = world.nextSequence ∧
      (label.settled = none ∧ base.commitments = world.commitments ∨
        ∃ packet ∈ world.commitments, label.settled = some packet ∧
          base.commitments = world.commitments.erase packet) ∧
      Numbered base after := by
  have stepped : chain.step contracts world label = after := by
    simp only [Chain.step, done]
  have dispatched : (∀ msg, label ≠ .migrate msg) → label.settled = none →
      ∃ base : World σ, base.sends = world.sends ∧ base.nextSequence = world.nextSequence ∧
        base.commitments = world.commitments ∧ Numbered base after := by
    intro ordinary unsettled
    rw [step_eq_begins chain contracts world ordinary] at stepped
    split at stepped
    next =>
      subst stepped
      exact ⟨world, rfl, rfl, rfl, .same rfl rfl rfl⟩
    next start caller subs data begun =>
      have fresh : start.sends = world.sends ∧ start.nextSequence = world.nextSequence ∧
          start.commitments = world.commitments := by
        cases started_of_begins begun with
        | executed => exact ⟨rfl, rfl, rfl⟩
        | received => exact ⟨rfl, rfl, rfl⟩
        | acked => cases unsettled
        | timedOut => cases unsettled
      split at stepped
      next result ran =>
        subst stepped
        exact ⟨start, fresh.1, fresh.2.1, fresh.2.2,
          (Numbered.follower chain contracts).dispatch ran⟩
      next =>
        subst stepped
        exact ⟨world, rfl, rfl, rfl, .same rfl rfl rfl⟩
  cases label with
  | execute sender msg =>
      rcases dispatched (by simp) rfl with ⟨base, sends, sequence, commitments, numbered⟩
      exact ⟨base, sends, sequence, .inl ⟨rfl, commitments⟩, numbered⟩
  | receive packet =>
      rcases dispatched (by simp) rfl with ⟨base, sends, sequence, commitments, numbered⟩
      exact ⟨base, sends, sequence, .inl ⟨rfl, commitments⟩, numbered⟩
  | ack packet acknowledgement =>
      simp only [Chain.transaction, Chain.ackTx] at done
      rcases dispatched_of_settleTx done with ⟨storage, _, _, pending, -, ran, rfl⟩
      have numbered := (Numbered.follower chain contracts).dispatch ran
      exact ⟨{ world with storage := storage, commitments := world.commitments.erase packet },
        rfl, rfl, .inr ⟨packet, pending, rfl, rfl⟩, numbered⟩
  | timeout packet =>
      simp only [Chain.transaction, Chain.timeoutTx] at done
      rcases dispatched_of_settleTx done with ⟨storage, _, _, pending, -, ran, rfl⟩
      have numbered := (Numbered.follower chain contracts).dispatch ran
      exact ⟨{ world with storage := storage, commitments := world.commitments.erase packet },
        rfl, rfl, .inr ⟨packet, pending, rfl, rfl⟩, numbered⟩
  | migrate msg =>
      simp only [Chain.transaction, Chain.migrateTx, bind_eq_ok, mapError_eq_ok,
        pure_eq_ok] at done
      rcases done with ⟨_, -, rfl⟩
      exact ⟨world, rfl, rfl, .inl ⟨rfl, rfl⟩, .same rfl rfl rfl⟩

/-- A step adds a packet for each NFT that a contract hands over, and takes out one if it
settles one. -/
theorem Sound.accounted (lawful : Lawful chain contracts codeId)
    (sound : Sound chain contracts codeId world) (label : Chain.Label) (contract : Addr) :
    ∃ records, (chain.step contracts world label).sends = world.sends ++ records ∧
      (chain.step contracts world label).pendingOf contract +
          (chain.settlesFor contracts world label contract).toNat =
        world.pendingOf contract + handedBy contract records := by
  have later := (sound.step lawful label).1
  cases done : chain.transaction contracts world label with
  | error err =>
      refine ⟨[], ?_, ?_⟩
      · simp only [Chain.step, done, List.append_nil]
      · simp [Chain.step, Chain.settlesFor, done, Except.isOk, Except.toBool]
  | ok after =>
      have stepped : chain.step contracts world label = after := by
        simp only [Chain.step, done]
      rw [stepped] at later ⊢
      rcases exists_numbered done with ⟨base, sends, sequence, taken, numbered⟩
      rcases numbered with ⟨records, packets, sent, added, numbers, next⟩
      rw [sends] at sent
      rw [sequence] at numbers next
      have alike : packets.length = records.length := by
        have total := later.sequence
        rw [sent, next, List.length_append, sound.sequence] at total
        omega
      rw [← sound.sequence] at numbers
      have new : packets.countP (sentFor after.sends contract) = handedBy contract records := by
        rw [sent]
        exact countP_sentFor alike numbers
      have old : base.commitments.countP (sentFor after.sends contract) =
          base.commitments.countP (sentFor world.sends contract) := by
        rw [sent]
        apply List.countP_congr
        intro packet member
        have pending : packet ∈ world.commitments := by
          rcases taken with ⟨-, same⟩ | ⟨settled, -, -, same⟩
          · rw [← same]
            exact member
          · rw [same] at member
            exact List.mem_of_mem_erase member
        rw [sound.sentFor_append pending]
      have settled : base.commitments.countP (sentFor world.sends contract) +
          (chain.settlesFor contracts world label contract).toNat = world.pendingOf contract := by
        have accepted : (chain.transaction contracts world label).isOk = true := by
          rw [done]
          rfl
        rcases taken with ⟨unsettled, same⟩ | ⟨packet, pending, settles, same⟩
        · simp only [Chain.settlesFor, unsettled, Option.any_none, Bool.false_and,
            Bool.toNat_false, Nat.add_zero, same, World.pendingOf]
        · have whole := (List.perm_cons_erase pending).countP_eq (sentFor world.sends contract)
          simp only [Chain.settlesFor, settles, Option.any_some, accepted, Bool.and_true, same,
            World.pendingOf]
          rw [whole, List.countP_cons]
          cases sentFor world.sends contract packet <;> simp
      refine ⟨records, sent, ?_⟩
      rw [World.pendingOf, added, List.countP_append, new, old, ← settled]
      omega

end Steps

end Ics721
