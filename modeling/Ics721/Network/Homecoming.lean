import Ics721.Network.RoundTrip

/-!
# What holders of NFTs can count on

Whatever has happened in a network, and whatever else is under way, the owner of an NFT can
send it, and the owner of a voucher can take it home over the channels it came on.
-/

namespace Ics721

open Library

namespace Network

variable {ι : Type} {network : Network ι} {state after : State ι} {here there last : ι}
variable {owner contract : Addr} {tokenId : TokenId} {classId base : ClassId} {far : String}
variable {wish : IbcOutgoingMsg} {wishes : List IbcOutgoingMsg}

/-! ## One transfer -/

/-- The class that an NFT has at the other end of a channel: either it goes back where it came
from, or it becomes a voucher. -/
def ArrivesAs (network : Network ι) (here there : ι) (channelId far : String)
    (classId arrived : ClassId) : Prop :=
  classId = voucherClassId ⟨(network.deployment here).portId, channelId⟩ arrived ∨
    (∀ source, classId ≠ voucherClassId ⟨(network.deployment here).portId, channelId⟩ source) ∧
      arrived = voucherClassId ⟨(network.deployment there).portId, far⟩ classId

/-- The class of a registered collection. -/
theorem Secured.classOf_eq (secured : network.Secured state)
    (registered : (state.worlds here).storage.classIdToNftContract classId = some contract) :
    (state.worlds here).storage.classOf contract = classId := by
  rcases secured.orderly here with ⟨codeId, orderly⟩
  simp only [Storage.classOf, (orderly.sound.registry.inverse _ _).mp registered,
    Option.getD_some]

/-! ## The way home -/

/-- A way from a voucher to an NFT that it stands for: every request names the channel that the
voucher came on and an account at the other end, with no memo or one that the host accepts there,
and no bridge on the way is paused. -/
def WayHome (network : Network ι) (state : State ι) (here : ι) (classId : ClassId) :
    List IbcOutgoingMsg → ι → ClassId → Prop
  | [], last, base => here = last ∧ classId = base
  | wish :: wishes, last, base =>
      ∃ there far source, network.peer here wish.channelId = some (there, far) ∧
        classId = voucherClassId ⟨(network.deployment here).portId, wish.channelId⟩ source ∧
        (state.worlds here).storage.paused = false ∧
        (state.worlds there).storage.paused = false ∧
        (network.deployment there).Account (state.worlds there) ⟨wish.receiver⟩ ∧
        MemoAdmitted wish.memo ∧ WayHome network state there source wishes last base

/-- The vouchers on a way home. -/
def left (network : Network ι) (here : ι) (classId : ClassId) :
    List IbcOutgoingMsg → List (ι × ClassId)
  | [] => []
  | wish :: wishes =>
      match network.peer here wish.channelId,
        tryPopSourcePrefix ⟨(network.deployment here).portId, wish.channelId⟩ classId.id with
      | some (there, _), some source =>
          (here, classId) :: left network there ⟨source⟩ wishes
      | _, _ => [(here, classId)]

/-- Who has the NFT after the last request. -/
def lastReceiver (owner : Addr) : List IbcOutgoingMsg → Addr
  | [] => owner
  | wish :: wishes => lastReceiver ⟨wish.receiver⟩ wishes

theorem WayHome.later (later : network.Later state after) (quiet : Quiet state after)
    (way : network.WayHome state here classId wishes last base) :
    network.WayHome after here classId wishes last base := by
  induction wishes generalizing here classId with
  | nil => exact way
  | cons wish wishes ih =>
      rcases way with ⟨there, far, source, opened, voucher, running, runningThere, account, memo,
        rest⟩
      exact ⟨there, far, source, opened, voucher, (quiet.paused here).trans running,
        (quiet.paused there).trans runningThere, later.account account, memo, ih rest⟩

variable [DecidableEq ι]

/-- A voucher is sent back again and again.  There is no result if anything fails. -/
def homecoming (network : Network ι) (tokenId : TokenId) (state : State ι) (here : ι)
    (owner contract : Addr) : List IbcOutgoingMsg → Option (State ι)
  | [] => some state
  | wish :: wishes => do
      let (there, _) ← network.peer here wish.channelId
      let source ← tryPopSourcePrefix ⟨(network.deployment here).portId, wish.channelId⟩
        ((state.worlds here).storage.classOf contract).id
      let next ← network.transfer state here owner contract tokenId wish
      let origin ← (next.worlds there).storage.classIdToNftContract ⟨source⟩
      homecoming network tokenId next there ⟨wish.receiver⟩ origin wishes

/-- The induction over the way. -/
theorem Secured.homecoming (secured : network.Secured state)
    (account : (network.deployment here).Account (state.worlds here) owner)
    (owned : network.Owns state here classId contract tokenId owner)
    (way : network.WayHome state here classId wishes last base) :
    ∃ final origin, network.homecoming tokenId state here owner contract wishes = some final ∧
      network.Owns final last base origin tokenId (lastReceiver owner wishes) ∧
      (∀ voucher ∈ network.left here classId wishes,
        (network.deployment voucher.1).Gone (final.worlds voucher.1) voucher.2 tokenId) ∧
      ∀ {chain cls other}, (network.deployment chain).Gone (state.worlds chain) cls other →
        (network.deployment chain).Gone (final.worlds chain) cls other := by
  induction wishes generalizing state here owner contract classId with
  | nil =>
      rcases way with ⟨rfl, rfl⟩
      exact ⟨state, contract, rfl, owned, by simp [left], id⟩
  | cons wish wishes ih =>
      rcases way with ⟨there, far, source, opened, voucher, running, runningThere, receiver, memo,
        rest⟩
      have named := secured.classOf_eq owned.1
      have sendable : network.Sendable state here there far owner contract tokenId wish :=
        ⟨opened, running, runningThere, account, owned.2, receiver.valid, memo⟩
      rcases secured.transfer_home sendable (named.trans voucher) with
        ⟨next, origin, moved, quiet, redeemed, vanished, kept⟩
      rcases transfer_steps moved with ⟨labels, rfl⟩
      rcases secured.run labels with ⟨securedNext, later⟩
      generalize labels.foldl network.step state = next at *
      rcases ih securedNext (later.account receiver) redeemed (rest.later later quiet) with
        ⟨final, last, arrived, final_, gone, keptLater⟩
      have popped : tryPopSourcePrefix ⟨(network.deployment here).portId, wish.channelId⟩
          classId.id = some source.id := tryPopSourcePrefix_eq_some.mpr voucher
      refine ⟨final, last, ?_, final_, ?_, fun before => keptLater (kept before)⟩
      · simp only [Network.homecoming, opened, named, popped, moved, redeemed.1, arrived,
          Option.bind_eq_bind, Option.bind_some]
      · intro place member
        simp only [left, opened, popped, List.mem_cons] at member
        rcases member with rfl | later
        · rw [named] at vanished
          exact keptLater vanished
        · exact gone place later

end Network

/-- In every state of every run, an account that owns an NFT can send it over an open channel,
without a blank memo, if neither bridge is paused: the packet is accepted, and the receiver owns
the NFT or a voucher for it.  Only a voucher that still has to be destroyed is in the way of a
new one. -/
theorem transfer_succeeds {ι : Type} [DecidableEq ι] {network : Network ι}
    {start : Network.State ι} (genesis : network.Genesis start)
    (labels : List (Network.Label ι)) {state : Network.State ι}
    (reached : labels.foldl network.step start = state) {here there : ι} {far : String}
    {sender contract : Addr} {tokenId : TokenId} {wish : IbcOutgoingMsg}
    (sendable : network.Sendable state here there far sender contract tokenId wish)
    (settled : ∀ packet ∈ (state.worlds there).commitments,
      ¬Carries (network.deployment there).api packet
        (voucherClassId ⟨(network.deployment there).portId, far⟩
          ((state.worlds here).storage.classOf contract)) tokenId) :
    ∃ final arrived collection,
      network.transfer state here sender contract tokenId wish = some final ∧
      network.ArrivesAs here there wish.channelId far
        ((state.worlds here).storage.classOf contract) arrived ∧
      network.Owns final there arrived collection tokenId ⟨wish.receiver⟩ := by
  subst reached
  have secured := genesis.run labels
  generalize labels.foldl network.step start = state at *
  by_cases returns : ∃ source, (state.worlds here).storage.classOf contract =
      voucherClassId ⟨(network.deployment here).portId, wish.channelId⟩ source
  · rcases returns with ⟨source, voucher⟩
    rcases secured.transfer_home sendable voucher with
      ⟨final, origin, moved, -, redeemed, -, -⟩
    exact ⟨final, source, origin, moved, .inl voucher, redeemed⟩
  · have onward : ∀ source, (state.worlds here).storage.classOf contract ≠
        voucherClassId ⟨(network.deployment here).portId, wish.channelId⟩ source :=
      fun source same => returns ⟨source, same⟩
    rcases sendable.owned with ⟨token, present, owned⟩
    have outsider : token.owner ≠ (network.deployment here).bridge := by
      rw [owned]
      exact sendable.account.outsider
    have absent := secured.voucher_absent sendable.opened
      ⟨contract, token, rfl, present, outsider⟩ settled
    rcases secured.transfer_out sendable onward absent with
      ⟨final, collection, moved, -, -, created⟩
    exact ⟨final, _, collection, moved, .inr ⟨onward, rfl⟩, created⟩

/-- Alice sends her NFT to Bob, and Bob has a voucher. -/
theorem transfer_succeeds_of_sample :
    ∃ final arrived collection,
      Sample.network.transfer (Sample.networkRun (Sample.crossed.take 2)) .home ⟨"alice"⟩
        ⟨"contract0"⟩ ⟨"gem"⟩ ⟨"bob", "channel-0", ⟨none, some 5⟩, none⟩ = some final ∧
      Sample.network.ArrivesAs .home .away "channel-0" "channel-5"
        (((Sample.networkRun (Sample.crossed.take 2)).worlds .home).storage.classOf
          ⟨"contract0"⟩) arrived ∧
      Sample.network.Owns final .away arrived collection ⟨"gem"⟩ ⟨"bob"⟩ := by
  have noContract : ((Sample.networkRun (Sample.crossed.take 2)).worlds
      .home).contracts.infoAt Sample.api ⟨"alice"⟩ = none := by
    decide +kernel
  have owned : ((Sample.networkRun (Sample.crossed.take 2)).worlds .home).contracts.nfts
      Sample.api (⟨"contract0"⟩, ⟨"gem"⟩) = some ⟨⟨"alice"⟩, [], none⟩ := by
    decide +kernel
  have nothing : ((Sample.networkRun (Sample.crossed.take 2)).worlds .away).commitments = [] := by
    decide +kernel
  have running : ∀ place, ((Sample.networkRun (Sample.crossed.take 2)).worlds
      place).storage.paused = false := by
    intro place
    cases place <;> decide +kernel
  have sendable : Sample.network.Sendable (Sample.networkRun (Sample.crossed.take 2)) .home .away
      "channel-5" ⟨"alice"⟩ ⟨"contract0"⟩ ⟨"gem"⟩ ⟨"bob", "channel-0", ⟨none, some 5⟩, none⟩ :=
    ⟨rfl, running .home, running .away,
      Sample.account_of_name (by decide) (by decide) (by decide) noContract,
      ⟨⟨⟨"alice"⟩, [], none⟩, owned, rfl⟩, by decide, memoAdmitted_none⟩
  have settled : ∀ packet ∈
      ((Sample.networkRun (Sample.crossed.take 2)).worlds .away).commitments,
      ¬Carries Sample.api packet
        (voucherClassId ⟨"wasm.bridge", "channel-5"⟩
          (((Sample.networkRun (Sample.crossed.take 2)).worlds .home).storage.classOf
            ⟨"contract0"⟩)) ⟨"gem"⟩ := by
    rw [nothing]
    simp
  exact transfer_succeeds Sample.genesis_fresh (Sample.crossed.take 2) rfl sendable settled

/-- In every state of every run, whatever is under way, the owner of a voucher can take it home
step by step if no bridge on the way is paused: the last receiver owns the NFT that the voucher
stands for, and nothing is left of the vouchers on the way. -/
theorem voucher_redeemable {ι : Type} [DecidableEq ι] {network : Network ι}
    {start : Network.State ι} (genesis : network.Genesis start)
    (labels : List (Network.Label ι)) {state : Network.State ι}
    (reached : labels.foldl network.step start = state) {here last : ι} {owner contract : Addr}
    {tokenId : TokenId} {classId base : ClassId} {wishes : List IbcOutgoingMsg}
    (account : (network.deployment here).Account (state.worlds here) owner)
    (owned : network.Owns state here classId contract tokenId owner)
    (way : network.WayHome state here classId wishes last base) :
    ∃ final origin, network.homecoming tokenId state here owner contract wishes = some final ∧
      network.Owns final last base origin tokenId (Network.lastReceiver owner wishes) ∧
      ∀ voucher ∈ network.left here classId wishes,
        (network.deployment voucher.1).Gone (final.worlds voucher.1) voucher.2 tokenId := by
  subst reached
  rcases (genesis.run labels).homecoming account owned way with
    ⟨final, origin, arrived, owns, gone, -⟩
  exact ⟨final, origin, arrived, owns, gone⟩

/-- Bob takes the voucher home, where Zoe receives Alice's NFT. -/
theorem voucher_redeemable_of_sample :
    ∃ final origin,
      Sample.network.homecoming ⟨"gem"⟩ (Sample.networkRun Sample.crossed) .away ⟨"bob"⟩
        ⟨"contract0"⟩ [⟨"zoe", "channel-5", ⟨none, some 5⟩, none⟩] = some final ∧
      Sample.network.Owns final .home ⟨"contract0"⟩ origin ⟨"gem"⟩ ⟨"zoe"⟩ ∧
      ∀ voucher ∈ Sample.network.left .away ⟨"wasm.bridge/channel-5/contract0"⟩
          [⟨"zoe", "channel-5", ⟨none, some 5⟩, none⟩],
        (Sample.bridgeAt voucher.1).Gone (final.worlds voucher.1) voucher.2 ⟨"gem"⟩ := by
  have observed : (((Sample.networkRun Sample.crossed).worlds .away).contracts.infoAt Sample.api
        ⟨"bob"⟩ = none ∧
      ((Sample.networkRun Sample.crossed).worlds .home).contracts.infoAt Sample.api ⟨"zoe"⟩ =
        none) ∧
      (((Sample.networkRun Sample.crossed).worlds .away).storage.classIdToNftContract
          ⟨"wasm.bridge/channel-5/contract0"⟩ = some ⟨"contract0"⟩ ∧
        ((Sample.networkRun Sample.crossed).worlds .away).contracts.nfts Sample.api
          (⟨"contract0"⟩, ⟨"gem"⟩) = some ⟨⟨"bob"⟩, [], none⟩) ∧
      ((Sample.networkRun Sample.crossed).worlds .away).storage.paused = false ∧
      ((Sample.networkRun Sample.crossed).worlds .home).storage.paused = false := by
    decide +kernel
  rcases observed with ⟨⟨bob, zoe⟩, ⟨registered, present⟩, runningAway, runningHome⟩
  have way : Sample.network.WayHome (Sample.networkRun Sample.crossed) .away
      ⟨"wasm.bridge/channel-5/contract0"⟩ [⟨"zoe", "channel-5", ⟨none, some 5⟩, none⟩] .home
      ⟨"contract0"⟩ :=
    ⟨.home, "channel-0", ⟨"contract0"⟩, rfl, by decide, runningAway, runningHome,
      Sample.account_of_name (by decide) (by decide) (by decide) zoe, memoAdmitted_none, rfl,
      rfl⟩
  have reached : Sample.crossed.foldl Sample.network.step Sample.fresh =
      Sample.networkRun Sample.crossed := rfl
  have account : (Sample.bridgeAt .away).Account
      ((Sample.networkRun Sample.crossed).worlds .away) ⟨"bob"⟩ :=
    Sample.account_of_name (by decide) (by decide) (by decide) bob
  have owned : Sample.network.Owns (Sample.networkRun Sample.crossed) .away
      ⟨"wasm.bridge/channel-5/contract0"⟩ ⟨"contract0"⟩ ⟨"gem"⟩ ⟨"bob"⟩ :=
    ⟨registered, ⟨⟨"bob"⟩, [], none⟩, present, rfl⟩
  exact voucher_redeemable Sample.genesis_fresh Sample.crossed reached account owned way

end Ics721
