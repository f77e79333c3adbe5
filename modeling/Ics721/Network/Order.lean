import Ics721.Library.Conserved
import Ics721.Network.Arrival
import Ics721.Network.Scene

/-!
# The order of deliveries

The channels of the bridge are unordered: IBC core delivers the packets under way in any order.
It makes no difference in which.  Two packets under way are about different NFTs, since an NFT
is in one place, and deliveries about different NFTs rewrite different entries.
-/

namespace Ics721

open Library

/-- The data of a packet under way is valid. -/
theorem Deployment.Posted.valid {deployment : Deployment} {world : World Ledger}
    {packet : IbcPacket} {data : NonFungibleTokenPacketData} {tokenId : TokenId}
    (posted : deployment.Posted packet data tokenId)
    (presentable : Presentable deployment.api world) (pending : packet ∈ world.commitments) :
    data.validate = .ok () := by
  rcases presentable.packets packet pending with ⟨written, _, same, -, valid⟩
  have read := posted.decoded
  rw [same, Codec.from_to] at read
  cases read
  exact valid

namespace Network

variable {ι : Type} {network : Network ι} {state : State ι}

/-- A packet with the chain that sent it. -/
abbrev Mail (ι : Type) := ι × IbcPacket

/-- All that can be seen of a network: the bridges, the packets that are not settled, and which
of them were accepted. -/
structure Outlook (ι : Type) where
  scenes : ι → Scene
  commitments : ι → List IbcPacket
  receipts : Mail ι → Option Bool

def outlook (network : Network ι) (state : State ι) : Outlook ι where
  scenes chain := (network.deployment chain).scene (state.worlds chain)
  commitments chain := (state.worlds chain).commitments
  receipts mail := (state.acks mail.1 mail.2).map fun ack =>
    (tryGetAckError (network.deployment mail.1).api ack).isNone

/-- Where a packet goes and what the bridge there reads in it. -/
def parcel (network : Network ι) (mail : Mail ι) : Option (ι × Parcel) := do
  let (there, _) ← network.peer mail.1 mail.2.src.channelId
  let data ← network.payload mail.2
  let item ← data.incoming.head?
  return (there, Deployment.parcelOf mail.2 data item)

namespace Outlook

variable {outlook : Outlook ι} {first second mail : Mail ι}

/-- The packet is under way. -/
def Waiting (outlook : Outlook ι) (mail : Mail ι) : Prop :=
  mail.2 ∈ outlook.commitments mail.1 ∧ outlook.receipts mail = none

instance (outlook : Outlook ι) (mail : Mail ι) : Decidable (outlook.Waiting mail) :=
  inferInstanceAs (Decidable (_ ∧ _))

variable [DecidableEq ι]

/-- A delivery as far as it can be seen. -/
def deliver (network : Network ι) (outlook : Outlook ι) (mail : Mail ι) : Outlook ι :=
  if outlook.Waiting mail then
    match network.parcel mail with
    | none => outlook
    | some (there, parcel) =>
        let verdict := (outlook.scenes there).judge (network.deployment there).api.addrValid parcel
        { outlook with
          scenes := Function.update outlook.scenes there
            ((outlook.scenes there).apply (network.deployment there).bridge verdict.1)
          receipts := Function.update outlook.receipts mail (some verdict.2) }
  else
    outlook

/-- Deliveries settle nothing, and what they receive is one packet. -/
theorem waiting_deliver (different : first ≠ second) :
    (outlook.deliver network first).Waiting second ↔ outlook.Waiting second := by
  unfold deliver
  split
  next =>
    split
    next => rfl
    next => simp only [Waiting, Function.update_of_ne different.symm]
  next => rfl

theorem deliver_of_not_waiting (settled : ¬outlook.Waiting mail) :
    outlook.deliver network mail = outlook := by
  unfold deliver
  rw [if_neg settled]

theorem deliver_of_waiting {there : ι} {parcel : Parcel} (waiting : outlook.Waiting mail)
    (read : network.parcel mail = some (there, parcel)) :
    outlook.deliver network mail = { outlook with
      scenes := Function.update outlook.scenes there
        ((outlook.scenes there).apply (network.deployment there).bridge
          ((outlook.scenes there).judge (network.deployment there).api.addrValid parcel).1)
      receipts := Function.update outlook.receipts mail
        (some ((outlook.scenes there).judge (network.deployment there).api.addrValid
          parcel).2) } := by
  unfold deliver
  rw [if_pos waiting, read]

theorem deliver_of_unread (unread : network.parcel mail = none) :
    outlook.deliver network mail = outlook := by
  unfold deliver
  rw [unread]
  split
  next => rfl
  next => rfl

/-- Packets that arrive in different places or are about different NFTs. -/
def Independent (network : Network ι) (first second : Mail ι) : Prop :=
  ∀ there parcel other, network.parcel first = some (there, parcel) →
    network.parcel second = some (there, other) → parcel.Apart other

/-- Independent deliveries may change places. -/
theorem deliver_comm (independent : outlook.Waiting first → outlook.Waiting second →
      first ≠ second → Independent network first second) :
    (outlook.deliver network first).deliver network second =
      (outlook.deliver network second).deliver network first := by
  by_cases same : first = second
  · rw [same]
  by_cases waiting : outlook.Waiting first
  · by_cases otherWaiting : outlook.Waiting second
    · cases read : network.parcel first with
      | none => rw [deliver_of_unread read, deliver_of_unread read]
      | some arrival =>
          cases otherRead : network.parcel second with
          | none => rw [deliver_of_unread otherRead, deliver_of_unread otherRead]
          | some otherArrival =>
              rcases arrival with ⟨there, parcel⟩
              rcases otherArrival with ⟨elsewhere, other⟩
              have later : (outlook.deliver network first).Waiting second :=
                (waiting_deliver same).mpr otherWaiting
              have otherLater : (outlook.deliver network second).Waiting first :=
                (waiting_deliver (Ne.symm same)).mpr waiting
              rw [deliver_of_waiting later otherRead, deliver_of_waiting otherLater read,
                deliver_of_waiting waiting read, deliver_of_waiting otherWaiting otherRead]
              dsimp only
              by_cases place : there = elsewhere
              · subst place
                have apart := independent waiting otherWaiting same there parcel other read
                  otherRead
                simp only [Function.update_self, Function.update_idem,
                  Scene.judge_apply apart, Scene.judge_apply apart.symm,
                  Scene.deliveries_comm apart, Function.update_comm same]
              · simp only [Function.update_of_ne place, Function.update_of_ne (Ne.symm place),
                  Function.update_comm same, Function.update_comm place]
    · have settled : ¬(outlook.deliver network first).Waiting second := by
        rw [waiting_deliver same]
        exact otherWaiting
      rw [deliver_of_not_waiting settled, deliver_of_not_waiting otherWaiting]
  · have settled : ¬(outlook.deliver network second).Waiting first := by
      rw [waiting_deliver (Ne.symm same)]
      exact waiting
    rw [deliver_of_not_waiting settled, deliver_of_not_waiting waiting]

end Outlook

/-! ## Packets under way -/

variable {mail other : Mail ι}

/-- A packet under way, and how it is read where it goes. -/
structure Read (network : Network ι) (mail : Mail ι) (there : ι) (far : String)
    (data : NonFungibleTokenPacketData) (item : Incoming) : Prop where
  posted : (network.deployment mail.1).Posted mail.2 data item.1.1
  opened : network.peer mail.1 mail.2.src.channelId = some (there, far)
  dest : mail.2.dest = ⟨(network.deployment there).portId, far⟩
  valid : data.validate = .ok ()
  single : data.incoming = [item]

theorem Secured.exists_read (secured : network.Secured state)
    (presentable : Presentable (network.deployment mail.1).api (state.worlds mail.1))
    (pending : mail.2 ∈ (state.worlds mail.1).commitments) :
    ∃ there far data item, network.Read mail there far data item := by
  rcases secured.posted mail.1 mail.2 pending with ⟨data, tokenId, posted⟩
  rcases posted.opened with ⟨there, far, opened, dest⟩
  have valid := posted.valid presentable pending
  rcases incoming_single valid posted.single with ⟨uri, bytes, incoming⟩
  exact ⟨there, far, data, ((tokenId, uri), bytes), posted, opened, dest, valid, incoming⟩

namespace Read

variable {there : ι} {far : String} {data : NonFungibleTokenPacketData} {item : Incoming}

theorem parcel (read : network.Read mail there far data item) :
    network.parcel mail = some (there, Deployment.parcelOf mail.2 data item) := by
  have decoded := read.posted.decoded
  rw [network.speaks] at decoded
  simp [Network.parcel, read.opened, payload, decoded, Except.toOption, read.single]

/-- The NFT of a packet has a name at both ends. -/
theorem standsFor (read : network.Read mail there far data item) {key : ClassId × TokenId}
    (about : (Deployment.parcelOf mail.2 data item).About key) :
    network.vouchers.StandsFor (there, key.1) (mail.1, network.vouchers.cls mail.2) ∨
      network.vouchers.StandsFor (mail.1, network.vouchers.cls mail.2) (there, key.1) := by
  rcases key with ⟨classId, tokenId⟩
  rcases about with ⟨rfl | returns, -⟩
  · left
    refine ⟨far, mail.2.src.channelId, network.peer_symm read.opened, ?_⟩
    rw [Deployment.Posted.voucher_dest read.dest, read.posted.cls]
    rfl
  · right
    refine ⟨mail.2.src.channelId, far, read.opened, ?_⟩
    rcases Option.map_eq_some_iff.mp returns with ⟨source, popped, rfl⟩
    have voucher : data.classId = voucherClassId mail.2.src ⟨source⟩ :=
      tryPopSourcePrefix_eq_some.mp popped
    rw [read.posted.cls, voucher]
    exact (read.posted.voucher_src ⟨source⟩).symm

end Read

/-- Packets under way are about different NFTs. -/
theorem Secured.independent (secured : network.Secured state)
    (presentable : ∀ chain, Presentable (network.deployment chain).api (state.worlds chain))
    (waiting : (network.outlook state).Waiting mail)
    (otherWaiting : (network.outlook state).Waiting other) (different : mail ≠ other) :
    Outlook.Independent network mail other := by
  intro there parcel otherParcel read otherRead key about otherAbout
  rcases secured.exists_read (presentable mail.1) waiting.1 with ⟨_, far, data, item, isRead⟩
  rcases secured.exists_read (presentable other.1) otherWaiting.1 with
    ⟨_, otherFar, otherData, otherItem, otherIsRead⟩
  rw [isRead.parcel] at read
  rw [otherIsRead.parcel] at otherRead
  cases read
  cases otherRead
  have failed : ∀ mail, (network.outlook state).Waiting mail →
      (network.view state).receipt mail.1 mail.2 ≠ some true := by
    intro mail waiting
    change (network.outlook state).receipts mail ≠ some true
    rw [waiting.2]
    simp
  have sameToken : network.vouchers.token mail.2 = network.vouchers.token other.2 := by
    rw [isRead.posted.token, otherIsRead.posted.token]
    exact about.2.symm.trans otherAbout.2
  rcases secured.backing.parcel_unique waiting.1 otherWaiting.1 (failed mail waiting)
    (failed other otherWaiting) sameToken (isRead.standsFor about)
    (otherIsRead.standsFor otherAbout) with ⟨sameChain, samePacket⟩
  exact different (Prod.ext sameChain samePacket)

/-! ## Deliveries -/

variable [DecidableEq ι]

/-- A packet is delivered. -/
def hand (network : Network ι) (state : State ι) (mail : Mail ι) : State ι :=
  network.step state (.deliver mail.1 mail.2)

/-- What the network does is what can be seen of it. -/
theorem Secured.outlook_deliver (secured : network.Secured state)
    (presentable : ∀ chain, Presentable (network.deployment chain).api (state.worlds chain))
    (mail : Mail ι) :
    network.outlook (network.hand state mail) =
      (network.outlook state).deliver network mail := by
  unfold hand
  have unreceived : (network.outlook state).receipts mail = none ↔
      state.acks mail.1 mail.2 = none := Option.map_eq_none_iff
  by_cases waiting : (network.outlook state).Waiting mail
  · have undelivered := unreceived.mp waiting.2
    rcases secured.exists_read (presentable mail.1) waiting.1 with ⟨there, far, data, item, read⟩
    rcases secured.orderly there with ⟨codeId, orderly⟩
    rcases exists_delivered waiting.1 undelivered read.opened with
      ⟨world, ack, received, reached⟩
    have escrowed : ∀ source, data.classId = voucherClassId mail.2.src source →
        ((network.deployment there).scene (state.worlds there)).returning
          (Deployment.parcelOf mail.2 data item) = some source →
        (network.deployment there).holder (state.worlds there) source item.1.1 =
          some .escrow := by
      intro source returns _
      exact (secured.redeems waiting.1 undelivered read.posted read.opened returns).held
    rcases orderly.asJudged (network.deep there) (read.posted.decodes there) read.valid
      read.single escrowed received with ⟨seen, accepted⟩
    rw [Outlook.deliver_of_waiting waiting read.parcel, reached]
    simp only [outlook, Outlook.mk.injEq]
    refine ⟨?_, ?_, ?_⟩
    · funext chain
      by_cases isThere : chain = there
      · subst isThere
        simp only [Function.update_self]
        exact seen
      · simp only [Function.update_of_ne isThere]
    · funext chain
      by_cases isThere : chain = there
      · subst isThere
        simp only [Function.update_self]
        exact Deployment.receiveTx_commitments orderly.toHeld received
      · simp only [Function.update_of_ne isThere]
    · funext other
      by_cases same : other = mail
      · subst same
        simp only [Function.update_self, Option.map_some]
        rw [network.tryGetAckError_eq other.1 there, accepted]
      · rw [Function.update_of_ne same]
        by_cases sameChain : other.1 = mail.1
        · have samePacket : other.2 ≠ mail.2 := fun equal => same (Prod.ext sameChain equal)
          rw [sameChain, Function.update_self, Function.update_of_ne samePacket]
        · rw [Function.update_of_ne sameChain]
  · have refused : ¬(mail.2 ∈ (state.worlds mail.1).commitments ∧
        state.acks mail.1 mail.2 = none) := by
      rw [← unreceived]
      exact waiting
    rw [Outlook.deliver_of_not_waiting waiting]
    simp only [Network.step, Network.deliver, if_neg refused]

/-- A state that a run leads to. -/
def Reachable (network : Network ι) (start state : State ι) : Prop :=
  ∃ labels : List (Label ι), labels.foldl network.step start = state

/-- Packets are delivered one after the other. -/
def handAll (network : Network ι) (mails : List (Mail ι)) (state : State ι) : State ι :=
  mails.foldl network.hand state

end Network

/-- In every state of every run, packets may be delivered in any order: afterwards the bridges
and their collections look the same, and the same packets were accepted. -/
theorem deliveries_commute {ι : Type} [DecidableEq ι] {network : Network ι}
    {start : Network.State ι} (genesis : network.Genesis start)
    (labels : List (Network.Label ι)) {state : Network.State ι}
    (reached : labels.foldl network.step start = state) {mails others : List (Network.Mail ι)}
    (perm : mails.Perm others) :
    network.outlook (network.handAll mails state) =
      network.outlook (network.handAll others state) := by
  have known : ∀ state, network.Reachable start state → network.Secured state ∧
      ∀ chain, Presentable (network.deployment chain).api (state.worlds chain) := by
    rintro _ ⟨labels, rfl⟩
    exact ⟨genesis.run labels, genesis.presentable labels⟩
  have kept : ∀ state mail, network.Reachable start state →
      network.Reachable start (network.hand state mail) := by
    rintro _ mail ⟨labels, rfl⟩
    exact ⟨labels ++ [.deliver mail.1 mail.2], by simp [Network.hand]⟩
  have seen : ∀ state mail, network.Reachable start state →
      network.outlook (network.hand state mail) =
        (network.outlook state).deliver network mail := by
    intro state mail reachable
    rcases known state reachable with ⟨secured, presentable⟩
    exact secured.outlook_deliver presentable mail
  have sees : ∀ state other mail, network.Reachable start state →
      network.Reachable start other → network.outlook state = network.outlook other →
      network.outlook (network.hand state mail) = network.outlook (network.hand other mail) := by
    intro state other mail reachable otherReachable same
    rw [seen state mail reachable, seen other mail otherReachable, same]
  have diamond : ∀ state mail other, network.Reachable start state →
      network.outlook (network.hand (network.hand state mail) other) =
        network.outlook (network.hand (network.hand state other) mail) := by
    intro state mail other reachable
    rcases known state reachable with ⟨secured, presentable⟩
    rw [seen _ other (kept state mail reachable), seen _ mail (kept state other reachable),
      seen state mail reachable, seen state other reachable]
    exact Network.Outlook.deliver_comm (secured.independent presentable)
  exact foldl_perm_of_diamond kept sees diamond perm ⟨labels, reached⟩

namespace Sample

/-- Alice sends a second NFT to Bob before anybody delivers the first. -/
def bothSent : List (Network.Label Place) :=
  crossed.take 3 ++
    [.execute .home ⟨"alice"⟩ (.execute ⟨"contract0"⟩ (.cw721 (.mint ⟨"pearl"⟩ "alice" none))),
      .execute .home ⟨"alice"⟩ (.execute ⟨"contract0"⟩
        (.cw721 (.sendNft "bridge" ⟨"pearl"⟩ (request "bob" "channel-1"))))]

/-- The packet with the second NFT. -/
def beside : IbcPacket where
  data := api.packetData.toBinary
    ⟨⟨"contract0"⟩, none, none, [⟨"pearl"⟩], none, none, "alice", "bob", none⟩
  src := ⟨"wasm.bridge", "channel-1"⟩
  dest := ⟨"wasm.bridge", "channel-6"⟩
  sequence := 1
  timeout := ⟨none, some 5⟩

end Sample

/-- Each of Alice's packets opens a collection of its own, in either order. -/
theorem deliveries_commute_of_sample :
    ((Sample.networkRun Sample.bothSent).worlds .home).commitments =
      [Sample.outward, Sample.beside] ∧
    Sample.network.outlook (Sample.network.handAll [(.home, Sample.outward),
        (.home, Sample.beside)] (Sample.networkRun Sample.bothSent)) =
      Sample.network.outlook (Sample.network.handAll [(.home, Sample.beside),
        (.home, Sample.outward)] (Sample.networkRun Sample.bothSent)) := by
  have waiting : ((Sample.networkRun Sample.bothSent).worlds .home).commitments =
      [Sample.outward, Sample.beside] := by
    decide +kernel
  have reached : Sample.bothSent.foldl Sample.network.step Sample.fresh =
      Sample.networkRun Sample.bothSent := rfl
  exact ⟨waiting, deliveries_commute Sample.genesis_fresh Sample.bothSent reached
    (.swap _ _ _)⟩

end Ics721
