import Ics721.Network.Transfer

/-!
# Round trips

An NFT travels along a path of channels, from account to account, and its last voucher comes
back over the same channels.  Each way out adds a class and each way back takes it away, so
that in the end nothing is left of the vouchers.
-/

namespace Ics721

open Library

namespace Network

variable {ι : Type} (network : Network ι)

/-- One channel of a path, with the requests that send an NFT out over it and back. -/
structure Leg where
  out : IbcOutgoingMsg
  back : IbcOutgoingMsg

/-- Who has an NFT after it travelled along a path and back. -/
def finalOwner (owner : Addr) : List Leg → Addr
  | [] => owner
  | leg :: _ => ⟨leg.back.receiver⟩

/-- The vouchers that an NFT of a class becomes along a path. -/
def passed (here : ι) (classId : ClassId) : List Leg → List (ι × ClassId)
  | [] => []
  | leg :: legs =>
      match network.peer here leg.out.channelId with
      | none => []
      | some (there, far) =>
          let voucher := voucherClassId ⟨(network.deployment there).portId, far⟩ classId
          (there, voucher) :: passed there voucher legs

/-- A path that can be travelled by an NFT that came over the channel `arrival`, if any: the
channels are open and none is the way back, the host accepts the memos where they arrive, and
whoever has to send the NFT on is an account.  The last receiver, on the chain where the path
starts, only has to have a valid address. -/
def Route (state : State ι) (here : ι) (arrival : Option String) : List Leg → Prop
  | [] => True
  | leg :: legs =>
      ∃ there, network.peer here leg.out.channelId = some (there, leg.back.channelId) ∧
        arrival ≠ some leg.out.channelId ∧
        (network.deployment there).Account (state.worlds there) ⟨leg.out.receiver⟩ ∧
        (network.deployment here).api.addrValid leg.back.receiver = true ∧
        (arrival ≠ none →
          (network.deployment here).Account (state.worlds here) ⟨leg.back.receiver⟩) ∧
        MemoAdmitted leg.out.memo ∧ MemoAdmitted leg.back.memo ∧
        Route state there (some leg.back.channelId) legs

/-- No packet is under way. -/
def Calm (state : State ι) : Prop := ∀ chain, (state.worlds chain).commitments = []

variable {network} {state after : State ι} {here there : ι} {arrival : Option String}
variable {owner contract : Addr} {tokenId : TokenId} {legs : List Leg} {far : String}

theorem Route.later (later : network.Later state after)
    (route : network.Route state here arrival legs) :
    network.Route after here arrival legs := by
  induction legs generalizing here arrival with
  | nil => exact trivial
  | cons leg legs ih =>
      rcases route with ⟨there, opened, onward, receiver, valid, account, out, back, rest⟩
      exact ⟨there, opened, onward, later.account receiver, valid,
        fun arrived => later.account (account arrived), out, back, ih rest⟩

/-- Whoever has the NFT after a part of the path and back can send it. -/
theorem Route.finalOwner (route : network.Route state here (some far) legs)
    (account : (network.deployment here).Account (state.worlds here) owner) :
    (network.deployment here).Account (state.worlds here) (finalOwner owner legs) := by
  cases legs with
  | nil => exact account
  | cons leg legs =>
      rcases route with ⟨-, -, -, -, -, later, -⟩
      exact later (by simp)

/-! ## The trip -/

variable [DecidableEq ι]

/-- An NFT is sent along a path, and the last voucher is sent back.  There is no result if
anything fails. -/
def roundTrip (network : Network ι) (tokenId : TokenId) (state : State ι) (here : ι)
    (owner contract : Addr) : List Leg → Option (State ι)
  | [] => some state
  | leg :: legs => do
      let (there, far) ← network.peer here leg.out.channelId
      let sent ← network.transfer state here owner contract tokenId leg.out
      let collection ← (sent.worlds there).storage.classIdToNftContract
        (voucherClassId ⟨(network.deployment there).portId, far⟩
          ((state.worlds here).storage.classOf contract))
      let turned ← roundTrip network tokenId sent there ⟨leg.out.receiver⟩ collection legs
      network.transfer turned there (finalOwner ⟨leg.out.receiver⟩ legs) collection tokenId
        leg.back

/-- What is true after a round trip. -/
structure Returned (network : Network ι) (state after : State ι) (here : ι)
    (contract : Addr) (tokenId : TokenId) (owner : Addr) (vouchers : List (ι × ClassId)) :
    Prop where
  secured : network.Secured after
  later : network.Later state after
  quiet : Quiet state after
  owned : ∃ token, (after.worlds here).contracts.nfts (network.deployment here).api
    (contract, tokenId) = some token ∧ token.owner = owner
  gone : ∀ voucher ∈ vouchers, (network.deployment voucher.1).Gone (after.worlds voucher.1)
    voucher.2 tokenId

/-- The induction over the path.  The NFT may itself be a voucher that came over `arrival`. -/
theorem Secured.roundTrip (secured : network.Secured state) (calm : Calm state)
    (running : ∀ chain, (state.worlds chain).storage.paused = false)
    (account : (network.deployment here).Account (state.worlds here) owner)
    (owned : ∃ token, (state.worlds here).contracts.nfts (network.deployment here).api
      (contract, tokenId) = some token ∧ token.owner = owner)
    (origin : ∀ channelId ends source, network.peer here channelId = some ends →
      (state.worlds here).storage.classOf contract =
        voucherClassId ⟨(network.deployment here).portId, channelId⟩ source →
      arrival = some channelId)
    (route : network.Route state here arrival legs) :
    ∃ final, network.roundTrip tokenId state here owner contract legs = some final ∧
      network.Returned state final here contract tokenId (finalOwner owner legs)
        (network.passed here ((state.worlds here).storage.classOf contract) legs) := by
  induction legs generalizing state here arrival owner contract with
  | nil =>
      refine ⟨state, rfl, secured, .refl _ _, ⟨fun _ => rfl, fun _ => rfl⟩, owned, ?_⟩
      simp [passed]
  | cons leg legs ih =>
      rcases route with ⟨there, opened, onward, receiver, valid, -, memo, memoBack, rest⟩
      rcases owned with ⟨token, present, isOwner⟩
      have outsider : token.owner ≠ (network.deployment here).bridge := by
        rw [isOwner]
        exact account.outsider
      -- The way out.
      have sendable : network.Sendable state here there leg.back.channelId owner contract
          tokenId leg.out :=
        ⟨opened, running here, running there, account, ⟨token, present, isOwner⟩,
          receiver.valid, memo⟩
      have settled : ∀ packet ∈ (state.worlds there).commitments,
          ¬Carries (network.deployment there).api packet
            (voucherClassId ⟨(network.deployment there).portId, leg.back.channelId⟩
              ((state.worlds here).storage.classOf contract)) tokenId := by
        rw [calm there]
        simp
      have absent := secured.voucher_absent opened ⟨contract, token, rfl, present, outsider⟩
        settled
      rcases secured.transfer_out sendable
          (fun source same => onward (origin _ _ source opened same)) absent with
        ⟨sent, collection, departed, quietOut, registered, known, voucher, minted, isReceiver⟩
      rcases transfer_steps departed with ⟨labels, rfl⟩
      rcases secured.run labels with ⟨securedOut, laterOut⟩
      generalize labels.foldl network.step state = sent at *
      have named : (sent.worlds there).storage.classOf collection =
          voucherClassId ⟨(network.deployment there).portId, leg.back.channelId⟩
            ((state.worlds here).storage.classOf contract) := by
        rcases securedOut.orderly there with ⟨codeId, orderly⟩
        simp only [Storage.classOf, (orderly.sound.registry.inverse _ _).mp known,
          Option.getD_some]
      -- The rest of the path.
      have calmOut : Calm sent := fun chain => (quietOut.commitments chain).trans (calm chain)
      have runningOut : ∀ chain, (sent.worlds chain).storage.paused = false :=
        fun chain => (quietOut.paused chain).trans (running chain)
      have originOut : ∀ channelId ends source, network.peer there channelId = some ends →
          (sent.worlds there).storage.classOf collection =
            voucherClassId ⟨(network.deployment there).portId, channelId⟩ source →
          some leg.back.channelId = some channelId := by
        intro channelId ends source otherOpened same
        rw [named] at same
        exact congrArg some (voucherClassId_inj
          (network.channel_no_slash (network.peer_symm opened))
          (network.channel_no_slash otherOpened) same).1
      have restOut := rest.later laterOut
      rcases ih securedOut calmOut runningOut (laterOut.account receiver)
          ⟨voucher, minted, isReceiver⟩ originOut restOut with ⟨turned, travelled, returned⟩
      -- The way back.
      have calmTurned : Calm turned :=
        fun chain => (returned.quiet.commitments chain).trans (calmOut chain)
      have runningTurned : ∀ chain, (turned.worlds chain).storage.paused = false :=
        fun chain => (returned.quiet.paused chain).trans (runningOut chain)
      have knownTurned := (returned.later.registry there).contract_kept known
      have namedTurned : (turned.worlds there).storage.classOf collection =
          voucherClassId ⟨(network.deployment there).portId, leg.back.channelId⟩
            ((state.worlds here).storage.classOf contract) := by
        rcases returned.secured.orderly there with ⟨codeId, orderly⟩
        simp only [Storage.classOf, (orderly.sound.registry.inverse _ _).mp knownTurned,
          Option.getD_some]
      have holder := (restOut.later returned.later).finalOwner
        (returned.later.account (laterOut.account receiver))
      have sendableBack : network.Sendable turned there here leg.out.channelId
          (finalOwner ⟨leg.out.receiver⟩ legs) collection tokenId leg.back :=
        ⟨network.peer_symm opened, runningTurned there, runningTurned here, holder,
          returned.owned, valid, memoBack⟩
      rcases returned.secured.transfer_home sendableBack namedTurned with
        ⟨final, source, arrived, quietBack, ⟨knownSource, back, redeemed, isFinal⟩, vanished,
          kept⟩
      rcases transfer_steps arrived with ⟨others, rfl⟩
      rcases returned.secured.run others with ⟨securedBack, laterBack⟩
      generalize others.foldl network.step turned = final at *
      have knownHere := (laterBack.registry here).contract_kept
        ((returned.later.registry here).contract_kept registered)
      have same : source = contract := Option.some.inj (knownSource.symm.trans knownHere)
      subst same
      refine ⟨final, ?_, securedBack, (laterOut.trans returned.later).trans laterBack, ?_,
        ⟨back, redeemed, isFinal⟩, ?_⟩
      · simp only [Network.roundTrip, opened, Option.bind_eq_bind, Option.bind_some, departed,
          known, travelled, arrived]
      · constructor
        · intro chain
          exact (quietBack.commitments chain).trans
            ((returned.quiet.commitments chain).trans (quietOut.commitments chain))
        · intro chain
          exact (quietBack.paused chain).trans
            ((returned.quiet.paused chain).trans (quietOut.paused chain))
      · intro place member
        simp only [passed, opened, List.mem_cons] at member
        rcases member with rfl | later
        · rw [namedTurned] at vanished
          exact vanished
        · apply kept
          apply returned.gone
          rw [named]
          exact later

end Network

/-- In every state of every run in which no packet is under way and no bridge is paused, a
local NFT can travel along any path and back: every hop succeeds, the last receiver owns the
NFT, and nothing is left of the vouchers. -/
theorem round_trip {ι : Type} [DecidableEq ι] {network : Network ι} {start : Network.State ι}
    (genesis : network.Genesis start) (labels : List (Network.Label ι))
    {state : Network.State ι} (reached : labels.foldl network.step start = state)
    (calm : Network.Calm state)
    (running : ∀ chain, (state.worlds chain).storage.paused = false)
    {here : ι} {owner contract : Addr} {tokenId : TokenId} {token : TokenInfo}
    (account : (network.deployment here).Account (state.worlds here) owner)
    (present : (state.worlds here).contracts.nfts (network.deployment here).api
      (contract, tokenId) = some token)
    (owned : token.owner = owner)
    (local_ : (state.worlds here).storage.classOf contract = ⟨contract.addr⟩)
    {legs : List Network.Leg} (route : network.Route state here none legs) :
    ∃ final, network.roundTrip tokenId state here owner contract legs = some final ∧
      (∃ back, (final.worlds here).contracts.nfts (network.deployment here).api
        (contract, tokenId) = some back ∧ back.owner = Network.finalOwner owner legs) ∧
      ∀ voucher ∈ network.passed here ⟨contract.addr⟩ legs,
        (network.deployment voucher.1).Gone (final.worlds voucher.1) voucher.2 tokenId := by
  subst reached
  have secured := genesis.run labels
  have noSlash : '/' ∉ (⟨contract.addr⟩ : ClassId).id.toList := by
    rcases Ledger.nfts_eq_some.mp present with ⟨collection, found, -⟩
    exact (network.deployment here).api.valid_no_slash _
      (Ledger.contractAt_eq_some.mp found).1
  rcases secured.roundTrip calm running account ⟨token, present, owned⟩
      (fun channelId ends source _ same => by
        rw [local_] at same
        rw [same] at noSlash
        exact absurd (slash_mem_voucherClassId _ _) noSlash) route with
    ⟨final, travelled, returned⟩
  refine ⟨final, travelled, returned.owned, ?_⟩
  rw [← local_]
  exact returned.gone

namespace Sample

/-- Whose name does not look like the name of a contract is an account. -/
theorem account_of_name {place : Place} {world : World Ledger} {name : String}
    (valid : addrValid name = true) (initial : name.toList.head? ≠ some 'c')
    (outsider : name ≠ "bridge") (noContract : world.contracts.infoAt api ⟨name⟩ = none) :
    (bridgeAt place).Account world ⟨name⟩ where
  valid := valid
  outsider := fun same => outsider (Addr.mk.inj same)
  noContract := noContract
  never := by
    intro index same
    have named : contractName index = name := Addr.mk.inj same
    rw [← named, toList_contractName] at initial
    exact initial rfl

/-- Alice's NFT goes to Bob on the other chain and from there to Zoe on the first, over
another channel, and comes back by way of Erin to Dave. -/
def tour : List Network.Leg :=
  [⟨⟨"bob", "channel-0", ⟨none, some 5⟩, none⟩, ⟨"dave", "channel-5", ⟨none, some 5⟩, none⟩⟩,
    ⟨⟨"zoe", "channel-6", ⟨none, some 5⟩, none⟩, ⟨"erin", "channel-1", ⟨none, some 5⟩, none⟩⟩]

end Sample

/-- Dave owns the NFT in the end. -/
theorem round_trip_of_sample :
    ∃ final, Sample.network.roundTrip ⟨"gem"⟩ (Sample.networkRun (Sample.crossed.take 2)) .home
        ⟨"alice"⟩ ⟨"contract0"⟩ Sample.tour = some final ∧
      (∃ back, (final.worlds .home).contracts.nfts Sample.api (⟨"contract0"⟩, ⟨"gem"⟩) =
        some back ∧ back.owner = ⟨"dave"⟩) ∧
      ∀ voucher ∈ Sample.network.passed .home ⟨"contract0"⟩ Sample.tour,
        (Sample.bridgeAt voucher.1).Gone (final.worlds voucher.1) voucher.2 ⟨"gem"⟩ := by
  have calm : Network.Calm (Sample.networkRun (Sample.crossed.take 2)) := by
    intro place
    cases place <;> decide +kernel
  have running : ∀ place, ((Sample.networkRun (Sample.crossed.take 2)).worlds
      place).storage.paused = false := by
    intro place
    cases place <;> decide +kernel
  have account : ∀ place, ∀ name ∈ ["alice", "bob", "zoe", "erin"],
      (Sample.bridgeAt place).Account
        ((Sample.networkRun (Sample.crossed.take 2)).worlds place) ⟨name⟩ := by
    intro place name member
    have proper : ∀ name ∈ ["alice", "bob", "zoe", "erin"], Sample.addrValid name = true ∧
        name.toList.head? ≠ some 'c' ∧ name ≠ "bridge" := by decide
    have absent : ∀ name ∈ ["alice", "bob", "zoe", "erin"],
        ((Sample.networkRun (Sample.crossed.take 2)).worlds place).contracts.infoAt
          Sample.api ⟨name⟩ = none := by
      cases place <;> decide +kernel
    rcases proper name member with ⟨valid, initial, outsider⟩
    exact Sample.account_of_name valid initial outsider (absent name member)
  have route : Sample.network.Route (Sample.networkRun (Sample.crossed.take 2)) .home none
      Sample.tour :=
    ⟨.away, rfl, by decide, account .away "bob" (by decide), by decide,
      fun arrived => absurd rfl arrived, memoAdmitted_none, memoAdmitted_none, .home, rfl,
      by decide, account .home "zoe" (by decide), by decide,
      fun _ => account .away "erin" (by decide), memoAdmitted_none, memoAdmitted_none, trivial⟩
  have present : ((Sample.networkRun (Sample.crossed.take 2)).worlds .home).contracts.nfts
      Sample.api (⟨"contract0"⟩, ⟨"gem"⟩) = some ⟨⟨"alice"⟩, [], none⟩ := by
    decide +kernel
  have unregistered : ((Sample.networkRun (Sample.crossed.take 2)).worlds
      .home).storage.classOf ⟨"contract0"⟩ = ⟨"contract0"⟩ := by
    decide +kernel
  exact round_trip Sample.genesis_fresh (Sample.crossed.take 2) rfl calm running
    (account .home "alice" (by decide)) present rfl unregistered route

end Ics721
