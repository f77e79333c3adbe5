import Ics721.Network.Backed
import Ics721.Network.Careful

/-!
# Nothing is lost in a network of bridges

If users are careful, every NFT is in exactly one place: a user has it, or a user has what
stands for it, or it is in a packet that was not accepted.
-/

namespace Ics721

open Library

namespace Network

variable {ι : Type} {network : Network ι} {state : State ι} {here : ι} {after : World Ledger}
variable {tokenId : TokenId}

/-! ## Where an NFT is -/

/-- An NFT of a class is in a packet that was not accepted. -/
def InPacket (network : Network ι) (state : State ι) (tokenId : TokenId)
    (place : ι × ClassId) : Prop :=
  ∃ packet ∈ (state.worlds place.1).commitments,
    (∃ data, (network.deployment place.1).Posted packet data tokenId ∧
      data.classId = place.2) ∧
    ∀ ack, state.acks place.1 packet = some ack →
      tryGetAckError (network.deployment place.1).api ack ≠ none

/-- A user has the NFT, or it is in a packet. -/
def FoundAt (network : Network ι) (state : State ι) (tokenId : TokenId)
    (place : ι × ClassId) : Prop :=
  network.LiveAt state tokenId place ∨ network.InPacket state tokenId place

theorem Secured.found_of_located (secured : network.Secured state) {place : ι × ClassId}
    (located : network.vouchers.Located (network.view state) tokenId place) :
    network.FoundAt state tokenId place := by
  rcases located with live | ⟨packet, pending, failed, cls, token⟩
  · left
    rcases Deployment.holder_eq_user.mp live with ⟨contract, info, registered, present, other⟩
    exact ⟨contract, info, secured.classOf_eq registered, present, other⟩
  · right
    rcases secured.posted place.1 packet pending with ⟨data, carried, posted⟩
    rw [posted.token] at token
    subst token
    refine ⟨packet, pending, ⟨data, posted, posted.cls.symm.trans cls⟩, ?_⟩
    intro ack acked success
    apply failed
    simp [view, acked, success]

theorem not_arrived {chain : ι} {packet : IbcPacket}
    (failed : ∀ ack, state.acks chain packet = some ack →
      tryGetAckError (network.deployment chain).api ack ≠ none) :
    (network.view state).receipt chain packet ≠ some true := by
  intro arrived
  simp only [view, Option.map_eq_some_iff, Option.isNone_iff_eq_none] at arrived
  rcases arrived with ⟨ack, acked, success⟩
  exact failed ack acked success

theorem located_of_inPacket {place : ι × ClassId} (carried : network.InPacket state tokenId place) :
    network.vouchers.Located (network.view state) tokenId place := by
  rcases carried with ⟨packet, pending, ⟨data, posted, cls⟩, failed⟩
  exact .inr ⟨packet, pending, not_arrived failed, posted.cls.trans cls, posted.token⟩

theorem Secured.located_cases (secured : network.Secured state) {place : ι × ClassId}
    (found : network.FoundAt state tokenId place) :
    network.vouchers.Located (network.view state) tokenId place ∨
      ('/' ∉ place.2.id.toList ∧ (network.view state).holder place.1 place.2 tokenId = none) := by
  rcases found with live | carried
  · rcases secured.live_cases live with known | unknown
    · exact .inl (.inl known)
    · exact .inr unknown
  · exact .inl (located_of_inPacket carried)

/-- What is on the way is known to the bridge. -/
theorem Secured.known_of_located (secured : network.Secured state) {place origin : ι × ClassId}
    (located : network.vouchers.Located (network.view state) tokenId place)
    (reaches : Relation.ReflTransGen network.StandsFor place origin) :
    (network.view state).holder origin.1 origin.2 tokenId ≠ none := by
  have secure := VoucherNet.secure_of_passed
    (fun opened voucher => secured.backing.backs_of_located opened voucher) located reaches
  rcases secure with (live | ⟨packet, pending, failed, cls, token⟩) | ⟨far, backs⟩
  · rw [show (network.view state).holder origin.1 origin.2 tokenId = some .user from live]
    simp
  · have held := (secured.backing.held ⟨pending, .inl failed⟩).1
    rw [cls, token] at held
    rw [held]
    simp
  · rw [backs.held]
    simp

/-- An NFT is in one place at most. -/
theorem Secured.found_unique (secured : network.Secured state) {place other origin : ι × ClassId}
    (found : network.FoundAt state tokenId place) (otherFound : network.FoundAt state tokenId other)
    (reaches : Relation.ReflTransGen network.StandsFor place origin)
    (otherReaches : Relation.ReflTransGen network.StandsFor other origin) : place = other := by
  rcases secured.located_cases found with located | ⟨local_, unknown⟩
  · rcases secured.located_cases otherFound with otherLocated | ⟨otherLocal, otherUnknown⟩
    · exact secured.backing.located_unique located otherLocated reaches otherReaches
    · rw [← eq_of_reaches otherLocal otherReaches] at reaches
      exact absurd otherUnknown (secured.known_of_located located reaches)
  · rw [← eq_of_reaches local_ reaches] at otherReaches
    rcases secured.located_cases otherFound with otherLocated | ⟨otherLocal, -⟩
    · exact absurd unknown (secured.known_of_located otherLocated otherReaches)
    · exact (eq_of_reaches otherLocal otherReaches).symm

/-! ## Runs lose nothing -/

/-- What holds in every run in which users are careful. -/
structure Conserving (network : Network ι) (state : State ι) : Prop
    extends network.Secured state where
  conserved : network.vouchers.Conserved (network.view state)
  tracked : ∀ chain, (network.deployment chain).Tracked (state.worlds chain)
  users : ∀ chain, ∀ packet ∈ (state.worlds chain).commitments, network.ForUsers chain packet
  /-- The class IDs of the network have a bounded length. -/
  bounded : ∃ bound, ∀ chain classId contract,
    (state.worlds chain).storage.classIdToNftContract classId = some contract →
    classId.id.length ≤ bound

/-- No bridge owns an NFT yet. -/
def Untouched (network : Network ι) (state : State ι) : Prop :=
  ∀ chain key token,
    (state.worlds chain).contracts.nfts (network.deployment chain).api key = some token →
    token.owner ≠ (network.deployment chain).bridge

theorem Genesis.conserving (genesis : network.Genesis state)
    (untouched : network.Untouched state) : network.Conserving state := by
  have fresh : ∀ chain, ∃ codeId pauser ledger,
      state.worlds chain = ⟨⟨codeId, none, pauser, false, .empty, .empty, .empty, .empty, .empty,
        .empty⟩, ledger, [], 0, []⟩ := by
    intro chain
    rcases genesis.instantiated chain with ⟨msg, ledger, -, -, instantiated⟩
    rcases Deployment.instantiateTx_eq_ok (.refl _) instantiated with ⟨-, pauser, same⟩
    exact ⟨_, pauser, ledger, same⟩
  constructor
  · exact genesis.secured
  · intro chain classId tokenId locked
    rcases fresh chain with ⟨codeId, pauser, ledger, same⟩
    rcases Deployment.holder_eq_escrow.mp locked with ⟨contract, token, registered, -, -⟩
    rw [same] at registered
    cases registered
  · intro chain key token present owned
    exact absurd owned (untouched chain key token present)
  · intro chain packet member
    rcases fresh chain with ⟨codeId, pauser, ledger, same⟩
    rw [same] at member
    cases member
  · refine ⟨0, ?_⟩
    intro chain classId contract registered
    rcases fresh chain with ⟨codeId, pauser, ledger, same⟩
    rw [same] at registered
    cases registered

theorem length_lt_voucherClassId (dest : IbcEndpoint) (classId : ClassId) :
    classId.id.length < (voucherClassId dest classId).id.length := by
  simp only [voucherClassId, getEndpointPrefix, String.length_append]
  have slash : "/".length = 1 := rfl
  omega

/-- Every NFT that a bridge knows is somewhere. -/
theorem Conserving.exists_known (conserving : network.Conserving state)
    {origin : ι × ClassId} (original : '/' ∉ origin.2.id.toList)
    (present : (network.view state).holder origin.1 origin.2 tokenId ≠ none) :
    ∃ place, Relation.ReflTransGen network.StandsFor place origin ∧
      network.FoundAt state tokenId place := by
  rcases conserving.bounded with ⟨bound, bounded⟩
  have inBound : ∀ chain classId, (network.view state).holder chain classId tokenId ≠ none →
      classId.id.length ≤ bound := by
    intro chain classId held
    cases entry : (state.worlds chain).storage.classIdToNftContract classId with
    | none =>
        exfalso
        apply held
        simp [view, Deployment.holder, entry]
    | some contract => exact bounded _ _ _ entry
  have out : network.vouchers.Out (network.view state) tokenId origin := by
    intro channelId ends source _ voucher
    exfalso
    apply original
    rw [voucher]
    exact slash_mem_voucherClassId _ _
  rcases VoucherNet.Conserved.located conserving.conserved conserving.backing
      (fun chain channelId classId => length_lt_voucherClassId
        ⟨(network.deployment chain).portId, channelId⟩ classId) inBound present out with
    ⟨place, way, located⟩
  exact ⟨place, way, conserving.found_of_located located⟩

/-- Every NFT is somewhere. -/
theorem Conserving.exists_found (conserving : network.Conserving state) {chain : ι}
    {contract : Addr} {token : TokenInfo}
    (present : (state.worlds chain).contracts.nfts (network.deployment chain).api
      (contract, tokenId) = some token)
    (original : '/' ∉ ((state.worlds chain).storage.classOf contract).id.toList) :
    ∃ place, Relation.ReflTransGen network.StandsFor place
        (chain, (state.worlds chain).storage.classOf contract) ∧
      network.FoundAt state tokenId place := by
  by_cases owned : token.owner = (network.deployment chain).bridge
  · rcases conserving.tracked chain _ token present owned with ⟨classId, registered⟩
    have named := conserving.classOf_eq registered
    rw [named] at original ⊢
    have locked : (network.view state).holder chain classId tokenId = some .escrow :=
      Deployment.holder_eq_escrow.mpr ⟨contract, token, registered, present, owned⟩
    have known : (network.view state).holder (chain, classId).1 (chain, classId).2 tokenId ≠
        none := by
      rw [locked]
      simp
    exact conserving.exists_known original known
  · exact ⟨_, .refl, .inl ⟨contract, token, rfl, present, owned⟩⟩

variable [DecidableEq ι]

/-- One more class. -/
theorem Conserving.bounded_update (conserving : network.Conserving state) {classId : ClassId}
    {acks : ι → IbcPacket → Option Binary}
    (registers : ∀ other, other ≠ classId → after.storage.classIdToNftContract other =
      (state.worlds here).storage.classIdToNftContract other) :
    ∃ bound, ∀ chain other contract,
      ((⟨Function.update state.worlds here after, acks⟩ : State ι).worlds
        chain).storage.classIdToNftContract other = some contract →
      other.id.length ≤ bound := by
  rcases conserving.bounded with ⟨bound, bounded⟩
  refine ⟨max bound classId.id.length, ?_⟩
  intro chain other contract registered
  by_cases same : chain = here
  · subst same
    simp only [Function.update_self] at registered
    by_cases isNew : other = classId
    · rw [isNew]
      exact Nat.le_max_right _ _
    · rw [registers other isNew] at registered
      exact Nat.le_trans (bounded _ _ _ registered) (Nat.le_max_left _ _)
  · simp only [Function.update_of_ne same] at registered
    exact Nat.le_trans (bounded _ _ _ registered) (Nat.le_max_left _ _)

theorem Conserving.act (conserving : network.Conserving state) {label : Chain.Label}
    (securedAfter : network.Secured (network.act state here label))
    (careful : ∀ sender msg, label = .execute sender msg →
      network.CarefulLabel (.execute here sender msg))
    (notReceived : ∀ packet, label ≠ .receive packet)
    (acked : ∀ packet ack, label = .ack packet ack → state.acks here packet = some ack)
    (undelivered : ∀ packet, label = .timeout packet → state.acks here packet = none) :
    network.Conserving (network.act state here label) := by
  rcases conserving.orderly here with ⟨codeId, orderly⟩
  have stepped := orderly.toHeld.stepped (.of _ label)
  have extended := orderly.toHeld.extends (.of _ label)
  have heldAfter := orderly.toHeld.step (.of _ label)
  have carefully := stepped_carefully conserving.toLinked (conserving.users here) orderly extended
    careful notReceived acked stepped
  have moved := step_act conserving.toLinked orderly extended notReceived acked undelivered
    stepped
  rcases stepped.registers orderly.toHeld with ⟨classId, registers⟩
  constructor
  · exact securedAfter
  · exact VoucherNet.Conserved.step conserving.conserved conserving.backing moved
      (carefully.careful conserving.toLinked (conserving.tracked here) orderly.toHeld heldAfter
        extended)
  · intro chain
    by_cases same : chain = here
    · subst same
      simp only [Network.act, Function.update_self]
      exact carefully.tracked (conserving.tracked chain) extended
    · simp only [Network.act, Function.update_of_ne same]
      exact conserving.tracked chain
  · intro chain
    by_cases same : chain = here
    · subst same
      simp only [Network.act, Function.update_self]
      exact carefully.users (conserving.users chain)
    · simp only [Network.act, Function.update_of_ne same]
      exact conserving.users chain
  · exact conserving.bounded_update registers

/-- A packet is delivered. -/
theorem Conserving.deliver (conserving : network.Conserving state) (here : ι)
    (packet : IbcPacket) : network.Conserving (network.deliver state here packet) := by
  have securedAfter := conserving.toSecured.deliver here packet
  revert securedAfter
  unfold Network.deliver
  split
  next permitted =>
    rcases permitted with ⟨pending, unreceived⟩
    rcases conserving.posted here packet pending with ⟨data, tokenId, posted⟩
    rcases posted.opened with ⟨there, far, opened, dest⟩
    simp only [opened]
    split
    next after ack received =>
      intro securedAfter
      rcases conserving.orderly there with ⟨codeId, orderly⟩
      have held := orderly.toHeld
      have reached := step_receive (by rw [dest]) received
      have stepped := held.stepped (.of _ (.receive packet))
      have extended := held.extends (.of _ (.receive packet))
      have heldAfter := held.step (.of _ (.receive packet))
      simp only [Deployment.happen, Deployment.Event.of, reached] at stepped extended heldAfter
      have moved := step_delivered conserving.backing held heldAfter posted dest pending
        (by simp [view, unreceived]) opened received
      have commitments := Deployment.receiveTx_commitments held received
      rcases stepped.registers held with ⟨classId, registers⟩
      have forUser :=
        (conserving.users here packet pending data tokenId posted).2 there far opened
      have outcome := careful_delivered (conserving.tracked there) held heldAfter extended posted
        opened dest forUser received
      constructor
      · exact securedAfter
      · exact VoucherNet.Conserved.step conserving.conserved conserving.backing moved outcome.1
      · intro chain
        by_cases same : chain = there
        · subst same
          simp only [Function.update_self]
          exact outcome.2
        · simp only [Function.update_of_ne same]
          exact conserving.tracked chain
      · intro chain
        by_cases same : chain = there
        · subst same
          simp only [Function.update_self, commitments]
          exact conserving.users chain
        · simp only [Function.update_of_ne same]
          exact conserving.users chain
      · exact conserving.bounded_update registers
    next => exact fun _ => conserving
  next => exact fun _ => conserving

theorem Conserving.step (conserving : network.Conserving state) {label : Label ι}
    (careful : network.CarefulLabel label) : network.Conserving (network.step state label) := by
  have securedAfter := conserving.toSecured.step label
  have done := network.taken state label
  generalize network.step state label = after at done securedAfter
  cases done with
  | stayed => exact conserving
  | acted _ executes notReceived acked undelivered =>
      apply conserving.act securedAfter _ notReceived acked undelivered
      intro sender msg same
      rw [executes sender msg same] at careful
      exact careful
  | delivered => exact conserving.deliver _ _

end Network

/-- If users burn no NFTs, give none to a bridge except by sending them, and send none to a
bridge, then in every state of every run each NFT that is no voucher is in exactly one place:
a user has it, or what stands for it over any number of channels, or it is in a packet that was
not accepted. -/
theorem nothing_lost {ι : Type} [DecidableEq ι] {network : Network ι}
    {start : Network.State ι} (genesis : network.Genesis start)
    (untouched : network.Untouched start) (labels : List (Network.Label ι))
    (careful : ∀ label ∈ labels, network.CarefulLabel label) {state : Network.State ι}
    (reached : labels.foldl network.step start = state) {chain : ι} {contract : Addr}
    {tokenId : TokenId} {token : TokenInfo}
    (present : (state.worlds chain).contracts.nfts (network.deployment chain).api
      (contract, tokenId) = some token)
    (original : '/' ∉ ((state.worlds chain).storage.classOf contract).id.toList) :
    ∃! place : ι × ClassId,
      Relation.ReflTransGen network.StandsFor place
        (chain, (state.worlds chain).storage.classOf contract) ∧
      network.FoundAt state tokenId place := by
  subst reached
  have conserving : network.Conserving (labels.foldl network.step start) :=
    (Library.follows_of_mem careful).invariant (fun _ _ held allowed => held.step allowed)
      (genesis.conserving untouched)
  rcases conserving.exists_found present original with ⟨place, way, found⟩
  refine ⟨place, ⟨way, found⟩, ?_⟩
  intro other otherFound
  exact conserving.found_unique otherFound.2 found otherFound.1 way

/-- Alice's NFT is in escrow, and Bob has the voucher. -/
theorem nothing_lost_of_sample :
    ∃! place : Sample.Place × ClassId,
      Relation.ReflTransGen Sample.network.StandsFor place
        (.home, ((Sample.networkRun Sample.crossed).worlds .home).storage.classOf
          ⟨"contract0"⟩) ∧
      Sample.network.FoundAt (Sample.networkRun Sample.crossed) ⟨"gem"⟩ place := by
  have untouched : Sample.network.Untouched Sample.fresh := by
    intro chain key token present
    rcases Ledger.nfts_eq_some.mp present with ⟨collection, found, -⟩
    cases (Ledger.contractAt_eq_some.mp found).2
  have careful : ∀ label ∈ Sample.crossed, Sample.network.CarefulLabel label := by
    intro label member
    simp only [Sample.crossed, List.mem_cons, List.not_mem_nil, or_false] at member
    rcases member with rfl | rfl | rfl | rfl | rfl
    · exact trivial
    · exact (by decide : "alice" ≠ "bridge")
    · intro wish there far decoded _
      have same : Sample.api.ibcOutgoing.fromBinary (Sample.request "bob" "channel-0") = _ :=
        Codec.from_to _ _
      cases same.symm.trans decoded
      exact (by decide : "bob" ≠ "bridge")
    · exact trivial
    · exact trivial
  have observed : ((Sample.networkRun Sample.crossed).worlds .home).contracts.nfts Sample.api
        (⟨"contract0"⟩, ⟨"gem"⟩) = some ⟨⟨"bridge"⟩, [], none⟩ ∧
      '/' ∉ (((Sample.networkRun Sample.crossed).worlds .home).storage.classOf
        ⟨"contract0"⟩).id.toList := by
    decide +kernel
  have reached : Sample.crossed.foldl Sample.network.step Sample.fresh =
      Sample.networkRun Sample.crossed := rfl
  exact nothing_lost Sample.genesis_fresh untouched Sample.crossed careful reached observed.1
    observed.2

end Ics721
