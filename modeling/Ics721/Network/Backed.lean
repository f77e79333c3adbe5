import Ics721.Network.Sample
import Ics721.Network.Secured
import Ics721.Escrow.Isolation

/-!
# Vouchers of bridges are backed

In every run of a network of bridges, whoever holds a voucher can count on the NFT it stands
for being in escrow for the voucher's channel, and of an NFT and all the vouchers that stand
for it at most one is in the hands of a user.
-/

namespace Ics721

open Library

namespace Network

variable {ι : Type} {network : Network ι} {state : State ι}

/-- Whoever but the bridge has a voucher, the bridge at the other end of its channel holds
the NFT that the voucher stands for, and holds it for that channel. -/
def VouchersBacked (network : Network ι) (state : State ι) : Prop :=
  ∀ here channelId there far classId tokenId contract token,
    network.peer here channelId = some (there, far) →
    (state.worlds here).storage.classIdToNftContract
      (voucherClassId ⟨(network.deployment here).portId, channelId⟩ classId) = some contract →
    (state.worlds here).contracts.nfts (network.deployment here).api (contract, tokenId) =
      some token →
    token.owner ≠ (network.deployment here).bridge →
    ∃ origin held, (network.deployment there).InEscrow (state.worlds there) classId tokenId far
      origin held

/-- An NFT of a class is in the hands of a user. -/
def LiveAt (network : Network ι) (state : State ι) (tokenId : TokenId) (place : ι × ClassId) :
    Prop :=
  ∃ contract token, (state.worlds place.1).storage.classOf contract = place.2 ∧
    (state.worlds place.1).contracts.nfts (network.deployment place.1).api
      (contract, tokenId) = some token ∧
    token.owner ≠ (network.deployment place.1).bridge

/-- The class is one of vouchers for the NFTs of another class, at the other end of a
channel. -/
def StandsFor (network : Network ι) (place origin : ι × ClassId) : Prop :=
  ∃ channelId far, network.peer place.1 channelId = some (origin.1, far) ∧
    place.2 = voucherClassId ⟨(network.deployment place.1).portId, channelId⟩ origin.2

/-- Of an NFT and what stands for it, over any number of channels, at most one is in the
hands of a user. -/
def LiveOnce (network : Network ι) (state : State ι) : Prop :=
  ∀ tokenId place other origin, network.LiveAt state tokenId place →
    network.LiveAt state tokenId other →
    Relation.ReflTransGen network.StandsFor place origin →
    Relation.ReflTransGen network.StandsFor other origin → place = other

theorem Secured.vouchersBacked (secured : network.Secured state) :
    network.VouchersBacked state := by
  intro here channelId there far classId tokenId contract token opened registered present other
  have live : VoucherNet.Live (network.view state) tokenId
      (here, voucherClassId ⟨(network.deployment here).portId, channelId⟩ classId) :=
    Deployment.holder_eq_user.mpr ⟨contract, token, registered, present, other⟩
  have channel : network.vouchers.peer
      (here, voucherClassId ⟨(network.deployment here).portId, channelId⟩ classId).1 channelId =
        some ((there, classId).1, far) := opened
  have backs := secured.backing.backs_of_standsFor channel rfl (.inl live)
  rcases Deployment.holder_eq_escrow.mp backs.held with
    ⟨origin, held, known, inEscrow, owned⟩
  exact ⟨origin, held, known, inEscrow, owned, backs.sent⟩

/-- Local NFTs of collections that the bridge does not know stand for nothing and nothing
stands for them. -/
theorem Secured.live_cases (secured : network.Secured state) {tokenId : TokenId}
    {place : ι × ClassId} (live : network.LiveAt state tokenId place) :
    VoucherNet.Live (network.view state) tokenId place ∨
      ('/' ∉ place.2.id.toList ∧
        (network.view state).holder place.1 place.2 tokenId = none) := by
  rcases live with ⟨contract, token, named, present, other⟩
  rcases secured.orderly place.1 with ⟨codeId, orderly⟩
  have registry := orderly.sound.registry
  cases entry : (state.worlds place.1).storage.nftContractToClassId contract with
  | some classId =>
      simp only [Storage.classOf, entry, Option.getD_some] at named
      left
      refine Deployment.holder_eq_user.mpr ⟨contract, token, ?_, present, other⟩
      rw [← named]
      exact (registry.inverse classId contract).mpr entry
  | none =>
      simp only [Storage.classOf, entry, Option.getD_none] at named
      right
      rcases Ledger.nfts_eq_some.mp present with ⟨collection, found, -⟩
      have local_ : '/' ∉ place.2.id.toList := by
        rw [← named]
        exact (network.deployment place.1).api.valid_no_slash _
          (Ledger.contractAt_eq_some.mp found).1
      refine ⟨local_, Deployment.holder_eq_none.mpr ?_⟩
      intro registered known
      exfalso
      rcases registry.shape known with same | slash
      · have equal : registered = contract := by
          rw [← named] at same
          cases registered
          cases contract
          exact congrArg Addr.mk same.symm
        rw [equal, registry.inverse, entry] at known
        cases known
      · exact local_ slash

/-- What stands for nothing reaches only itself. -/
theorem eq_of_reaches {place origin : ι × ClassId} (local_ : '/' ∉ place.2.id.toList)
    (reaches : Relation.ReflTransGen network.StandsFor place origin) : place = origin := by
  rcases Relation.ReflTransGen.cases_head reaches with same | ⟨middle, hop, -⟩
  · exact same
  · rcases hop with ⟨channelId, far, -, voucher⟩
    rw [voucher] at local_
    exact absurd (slash_mem_voucherClassId _ _) local_

theorem Secured.eq_of_unknown (secured : network.Secured state) {tokenId : TokenId}
    {place other : ι × ClassId}
    (unknown : (network.view state).holder place.1 place.2 tokenId = none)
    (live : network.LiveAt state tokenId other)
    (reaches : Relation.ReflTransGen network.StandsFor other place) : place = other := by
  rcases secured.live_cases live with known | ⟨local_, -⟩
  · have secure := secured.backing.secure_of_reaches known reaches
    exfalso
    rcases secure with live | ⟨far, backs⟩
    · have held : (network.view state).holder place.1 place.2 tokenId = some .user := live
      rw [unknown] at held
      cases held
    · have held := backs.held
      rw [unknown] at held
      cases held
  · exact (eq_of_reaches local_ reaches).symm

theorem Secured.liveOnce (secured : network.Secured state) : network.LiveOnce state := by
  intro tokenId place other origin live otherLive reaches otherReaches
  rcases secured.live_cases live with known | ⟨local_, unknown⟩
  · rcases secured.live_cases otherLive with otherKnown | ⟨otherLocal, otherUnknown⟩
    · exact secured.backing.live_unique known otherKnown reaches otherReaches
    · rw [← eq_of_reaches otherLocal otherReaches] at reaches
      exact (secured.eq_of_unknown otherUnknown live reaches).symm
  · rw [← eq_of_reaches local_ reaches] at otherReaches
    exact secured.eq_of_unknown unknown otherLive otherReaches

end Network

/-- In every run of a network of bridges every voucher in the hands of a user is backed, and
an NFT is in the hands of a user in at most one place. -/
theorem vouchers_backed_of_run {ι : Type} [DecidableEq ι] {network : Network ι}
    {start : Network.State ι} (genesis : network.Genesis start)
    (labels : List (Network.Label ι)) :
    network.VouchersBacked (labels.foldl network.step start) ∧
      network.LiveOnce (labels.foldl network.step start) := by
  have secured := genesis.run labels
  exact ⟨secured.vouchersBacked, secured.liveOnce⟩

/-- Bob has the voucher, so Alice's NFT is in escrow, and Bob's is the only one in use. -/
theorem vouchers_backed_of_sample :
    (Sample.network.LiveAt (Sample.networkRun Sample.crossed) ⟨"gem"⟩
        (.away, ⟨"wasm.bridge/channel-5/contract0"⟩) ∧
      Sample.network.StandsFor (.away, ⟨"wasm.bridge/channel-5/contract0"⟩)
        (.home, ⟨"contract0"⟩)) ∧
      Sample.network.VouchersBacked (Sample.networkRun Sample.crossed) ∧
      Sample.network.LiveOnce (Sample.networkRun Sample.crossed) := by
  refine ⟨⟨⟨⟨"contract0"⟩, ⟨⟨"bob"⟩, [], none⟩, ?_⟩, "channel-5", "channel-0", rfl, by decide⟩,
    vouchers_backed_of_run Sample.genesis_fresh Sample.crossed⟩
  decide +kernel

end Ics721
