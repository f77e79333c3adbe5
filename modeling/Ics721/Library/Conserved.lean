import Ics721.Library.Backing
import Mathlib.Tactic.Push

/-!
# Nothing is lost

`Backing` finds a locked token behind every voucher.  This module goes the other way: ahead of
every locked token there is a parcel that did not arrive yet or a voucher at the other end of
its channel, as long as nobody destroys tokens and tokens are locked by sending them only.
Followed to its end, the way leads to the one place where the token can be used or is on the
road.
-/

namespace Ics721.Library

namespace VoucherNet

variable {ι χ κ τ π : Type} (net : VoucherNet ι χ κ τ π)

/-! ## Careful steps -/

/-- A step that loses no token: tokens are destroyed when they went back, and locked when they
are sent. -/
structure Careful (before after : VoucherState ι χ κ τ π) : Prop where
  kept : ∀ {here cls token}, before.holder here cls token ≠ none →
    after.holder here cls token = none →
    ∃ parcel, before.pending here parcel ∧ net.cls parcel = cls ∧ net.token parcel = token ∧
      before.incoming here cls token = some (net.channel parcel) ∧
      before.receipt here parcel = some true
  locked : ∀ {here cls token}, after.holder here cls token = some .escrow →
    before.holder here cls token ≠ some .escrow →
    ∃ parcel, after.pending here parcel ∧ ¬before.pending here parcel ∧
      net.cls parcel = cls ∧ net.token parcel = token
  fresh : ∀ {here parcel}, after.pending here parcel → ¬before.pending here parcel →
    after.receipt here parcel = none
  released : ∀ {here there parcel far source}, before.receipt here parcel = none →
    after.receipt here parcel = some true →
    net.peer here (net.channel parcel) = some (there, far) →
    net.cls parcel = net.voucher here (net.channel parcel) source →
    before.outgoing there source (net.token parcel) = some far →
    after.holder there source (net.token parcel) ≠ some .escrow
  issued : ∀ {here there parcel far}, before.receipt here parcel = none →
    after.receipt here parcel = some true →
    net.peer here (net.channel parcel) = some (there, far) →
    (∀ source, net.cls parcel ≠ net.voucher here (net.channel parcel) source) →
    before.holder there (net.voucher there far (net.cls parcel)) (net.token parcel) = none ∧
      after.holder there (net.voucher there far (net.cls parcel)) (net.token parcel) ≠ none
  refunded : ∀ {here parcel}, before.pending here parcel →
    before.receipt here parcel ≠ some true → ¬after.pending here parcel →
    after.holder here (net.cls parcel) (net.token parcel) ≠ some .escrow

/-! ## What is ahead of a locked token -/

/-- There is a voucher for the token at the other end of its channel, and it was not given
back. -/
structure Stands (state : VoucherState ι χ κ τ π) (there : ι) (cls : κ) (token : τ) (here : ι)
    (channel far : χ) : Prop where
  opened : net.peer here channel = some (there, far)
  sent : state.outgoing there cls token = some far
  present : state.holder here (net.voucher here channel cls) token ≠ none
  out : ¬net.Returning state here (net.voucher here channel cls) token channel

/-- Ahead of every locked token is a parcel or a voucher. -/
def Conserved (state : VoucherState ι χ κ τ π) : Prop :=
  ∀ {there cls token}, state.holder there cls token = some .escrow →
    (∃ parcel, net.Holding state there parcel ∧ net.cls parcel = cls ∧
      net.token parcel = token) ∨
    ∃ here channel far, net.Stands state there cls token here channel far

variable {net} {before after : VoucherState ι χ κ τ π} {here there : ι} {parcel : π}
variable {channel far : χ} {cls : κ} {token : τ}

/-- The token that was sent stays the parcel's. -/
theorem Backing.outgoing_kept (backing : net.Backing before) (stepped : net.Step before after)
    (careful : net.Careful before after) (locked : before.holder there cls token = some .escrow)
    (still : after.holder there cls token = some .escrow) :
    after.outgoing there cls token = before.outgoing there cls token := by
  cases stepped with
  | idle _ outgoing => rw [outgoing]
  | send _ free _ _ _ _ outgoing =>
      apply outgoing
      intro same
      rcases same with ⟨rfl, rfl, rfl⟩
      exact free locked
  | redeem waiting unreceived opened returns _ outgoing _ _ receipts =>
      apply outgoing
      intro same
      rcases same with ⟨rfl, rfl, rfl⟩
      have backs := backing.returning_backed waiting (by simp [unreceived]) opened returns
      exact careful.released unreceived receipts.1 opened returns backs.sent still
  | create _ _ _ _ _ _ outgoing => rw [outgoing]
  | refuse _ _ _ outgoing => rw [outgoing]
  | @refund origin settled waiting failed _ outgoing _ settles =>
      apply outgoing
      intro same
      rcases same with ⟨rfl, rfl, rfl⟩
      have gone : ¬after.pending there settled := by
        intro pending
        exact ((settles _ _).mp pending).2 ⟨rfl, rfl⟩
      exact careful.refunded waiting failed gone still
  | burn _ _ _ _ outgoing => rw [outgoing]
  | settle _ _ _ _ outgoing => rw [outgoing]

/-- A parcel that arrived was pending before, and has arrived just now if it had not before. -/
theorem Step.arrived (stepped : net.Step before after) (careful : net.Careful before after)
    (pending : after.pending here parcel) (arrived : after.receipt here parcel = some true) :
    before.pending here parcel ∧
      (before.receipt here parcel = some true ∨ before.receipt here parcel = none) := by
  have old : before.pending here parcel := by
    by_contra new
    rw [careful.fresh pending new] at arrived
    cases arrived
  refine ⟨old, ?_⟩
  -- Only a delivery writes a receipt, and it finds none.
  have delivered : ∀ {origin other accepted}, before.receipt origin other = none →
      Receipts origin other accepted before after →
      before.receipt here parcel = some true ∨ before.receipt here parcel = none := by
    intro origin other accepted unreceived receipts
    by_cases same : here = origin ∧ parcel = other
    · rcases same with ⟨rfl, rfl⟩
      exact .inr unreceived
    · left
      rw [← receipts.2 _ _ same]
      exact arrived
  cases stepped with
  | idle _ _ _ _ receipt => exact .inl (receipt ▸ arrived)
  | send _ _ _ _ _ _ _ _ _ receipt => exact .inl (receipt ▸ arrived)
  | redeem _ unreceived _ _ _ _ _ _ receipts => exact delivered unreceived receipts
  | create _ unreceived _ _ _ _ _ _ _ _ receipts => exact delivered unreceived receipts
  | refuse unreceived _ _ _ _ _ receipts => exact delivered unreceived receipts
  | refund _ _ _ _ _ _ receipt => exact .inl (receipt ▸ arrived)
  | burn _ _ _ _ _ _ _ _ receipt => exact .inl (receipt ▸ arrived)
  | settle _ _ _ _ _ _ _ receipt => exact .inl (receipt ▸ arrived)

/-- A voucher that comes back and is settled is destroyed. -/
theorem Step.destroyed (backing : net.Backing before) (stepped : net.Step before after)
    {source : κ} (waiting : before.pending here parcel)
    (arrived : before.receipt here parcel = some true)
    (returns : net.cls parcel = net.voucher here (net.channel parcel) source)
    (settled : ¬after.pending here parcel) :
    after.holder here (net.cls parcel) (net.token parcel) = none := by
  cases stepped with
  | idle _ _ _ pending => exact absurd (pending ▸ waiting) settled
  | send _ _ _ _ _ _ _ _ pending => exact absurd ((pending _ _).mpr (.inl waiting)) settled
  | redeem _ _ _ _ _ _ _ pending => exact absurd (pending ▸ waiting) settled
  | create _ _ _ _ _ _ _ _ _ pending => exact absurd (pending ▸ waiting) settled
  | refuse _ _ _ _ _ pending => exact absurd (pending ▸ waiting) settled
  | refund _ failed _ _ _ settles =>
      rw [settles] at settled
      push Not at settled
      rcases settled waiting with ⟨rfl, rfl⟩
      exact absurd arrived failed
  | burn _ _ gone _ _ _ _ settles =>
      rw [settles] at settled
      push Not at settled
      rcases settled waiting with ⟨rfl, rfl⟩
      exact gone
  | settle _ _ stays _ _ _ settles =>
      rw [settles] at settled
      push Not at settled
      rcases settled waiting with ⟨rfl, rfl⟩
      rcases backing.opened waiting with ⟨ends, opened⟩
      have held := (backing.held ⟨waiting, .inr ⟨source, returns⟩⟩).1
      rw [returns] at held stays
      exact absurd (backing.noted opened (by simp [held])) stays

namespace Conserved

/-- A voucher at the other end stays until it is given back. -/
theorem stands_step (backing : net.Backing before) (stepped : net.Step before after)
    (careful : net.Careful before after) (locked : before.holder there cls token = some .escrow)
    (still : after.holder there cls token = some .escrow)
    (stands : net.Stands before there cls token here channel far) :
    net.Stands after there cls token here channel far where
  opened := stands.opened
  sent := (backing.outgoing_kept stepped careful locked still).trans stands.sent
  present := by
    intro gone
    rcases careful.kept stands.present gone with
      ⟨parcel, pending, sameCls, sameToken, came, arrived⟩
    have noted := backing.noted stands.opened stands.present
    rw [came] at noted
    have sameChannel := Option.some.inj noted
    have held : before.holder here (net.voucher here channel cls) token = some .escrow := by
      have holding : net.Holding before here parcel :=
        ⟨pending, .inr ⟨cls, by rw [sameCls, sameChannel]⟩⟩
      rw [← sameCls, ← sameToken]
      exact (backing.held holding).1
    exact stands.out ⟨held, parcel, pending, sameCls, sameToken, sameChannel, arrived⟩
  out := by
    intro returning
    rcases returning.accepted with ⟨parcel, pending, sameCls, sameToken, sameChannel, arrived⟩
    have returns : net.cls parcel = net.voucher here (net.channel parcel) cls := by
      rw [sameCls, sameChannel]
    have opened : net.peer here (net.channel parcel) = some (there, far) := by
      rw [sameChannel]
      exact stands.opened
    rcases stepped.arrived careful pending arrived with ⟨waiting, before_ | before_⟩
    · have held := (backing.held ⟨waiting, .inr ⟨cls, returns⟩⟩).1
      rw [sameCls, sameToken] at held
      exact stands.out ⟨held, parcel, waiting, sameCls, sameToken, sameChannel, before_⟩
    · have sent := stands.sent
      rw [← sameToken] at sent still
      exact careful.released before_ arrived opened returns sent still

/-- What a parcel kept locked stays behind the parcel, gets a voucher or is released. -/
theorem holding_step (backing : net.Backing before) (stepped : net.Step before after)
    (careful : net.Careful before after) (holds : net.Holding before there parcel)
    (still : after.holder there (net.cls parcel) (net.token parcel) = some .escrow) :
    net.Holding after there parcel ∨
      ∃ here channel far,
        net.Stands after there (net.cls parcel) (net.token parcel) here channel far := by
  have held := backing.held holds
  have pending : after.pending there parcel := by
    by_contra settled
    by_cases arrived : before.receipt there parcel = some true
    · rcases holds.2 with failed | ⟨source, returns⟩
      · exact failed arrived
      · rw [stepped.destroyed backing holds.1 arrived returns settled] at still
        cases still
    · exact careful.refunded holds.1 arrived settled still
  by_cases arrived : after.receipt there parcel = some true
  · by_cases returns : ∃ source, net.cls parcel = net.voucher there (net.channel parcel) source
    · exact .inl ⟨pending, .inr returns⟩
    · right
      have unreceived : before.receipt there parcel = none := by
        rcases (stepped.arrived careful pending arrived).2 with earlier | unreceived
        · rcases holds.2 with failed | back
          · exact absurd earlier failed
          · exact absurd back returns
        · exact unreceived
      rcases backing.opened holds.1 with ⟨⟨here, channel⟩, opened⟩
      rcases careful.issued unreceived arrived opened (not_exists.mp returns) with
        ⟨unused, present⟩
      refine ⟨here, channel, net.channel parcel, net.peer_symm opened, ?_, present, ?_⟩
      · rw [backing.outgoing_kept stepped careful held.1 still]
        exact held.2
      · -- A parcel that gives the new voucher back would have locked it before it was there.
        intro returning
        rcases returning.accepted with ⟨other, again, sameCls, sameToken, sameChannel, back⟩
        rcases stepped.arrived careful again back with ⟨waiting, -⟩
        have holding : net.Holding before here other :=
          ⟨waiting, .inr ⟨net.cls parcel, by rw [sameCls, sameChannel]⟩⟩
        have locked := (backing.held holding).1
        rw [sameCls, sameToken, unused] at locked
        cases locked
  · exact .inl ⟨pending, .inl arrived⟩

/-- Careful steps lose nothing. -/
theorem step (conserved : net.Conserved before) (backing : net.Backing before)
    (stepped : net.Step before after) (careful : net.Careful before after) :
    net.Conserved after := by
  intro there cls token still
  by_cases locked : before.holder there cls token = some .escrow
  · rcases conserved locked with ⟨parcel, holds, rfl, rfl⟩ | ⟨here, channel, far, stands⟩
    · rcases holding_step backing stepped careful holds still with holding | ahead
      · exact .inl ⟨parcel, holding, rfl, rfl⟩
      · exact .inr ahead
    · exact .inr ⟨here, channel, far, stands_step backing stepped careful locked still stands⟩
  · rcases careful.locked still locked with ⟨parcel, pending, new, sameCls, sameToken⟩
    left
    refine ⟨parcel, ⟨pending, .inl ?_⟩, sameCls, sameToken⟩
    rw [careful.fresh pending new]
    simp

end Conserved

/-! ## Where a token is -/

/-- Somebody can use the token, or it is on the road. -/
def Located (net : VoucherNet ι χ κ τ π) (state : VoucherState ι χ κ τ π) (token : τ)
    (place : ι × κ) : Prop :=
  Live state token place ∨
    ∃ parcel, state.pending place.1 parcel ∧ state.receipt place.1 parcel ≠ some true ∧
      net.cls parcel = place.2 ∧ net.token parcel = token

/-- The token was not given back over the channel it came on. -/
def Out (net : VoucherNet ι χ κ τ π) (state : VoucherState ι χ κ τ π) (token : τ)
    (place : ι × κ) : Prop :=
  ∀ channel ends source, net.peer place.1 channel = some ends →
    place.2 = net.voucher place.1 channel source →
    ¬net.Returning state place.1 place.2 token channel

/-- The voucher ahead of a locked token is itself not given back. -/
theorem Stands.isOut (stands : net.Stands before there cls token here channel far) :
    net.Out before token (here, net.voucher here channel cls) := by
  intro other ends source opened same
  rcases net.voucher_inj stands.opened opened same with ⟨rfl, -⟩
  exact stands.out

/-- Vouchers of vouchers end somewhere: `rank` counts how often a class was wrapped, and
`bound` is the largest rank there is. -/
theorem Conserved.located (conserved : net.Conserved before) (backing : net.Backing before)
    {rank : κ → Nat} (wraps : ∀ here channel cls, rank cls < rank (net.voucher here channel cls))
    {bound : Nat} (bounded : ∀ here cls, before.holder here cls token ≠ none → rank cls ≤ bound)
    {origin : ι × κ} (present : before.holder origin.1 origin.2 token ≠ none)
    (out : net.Out before token origin) :
    ∃ place, Relation.ReflTransGen net.StandsFor place origin ∧
      net.Located before token place := by
  induction left : bound - rank origin.2 using Nat.strongRecOn generalizing origin with
  | ind left ih =>
      cases held : before.holder origin.1 origin.2 token with
      | none => exact absurd held present
      | some holder =>
          cases holder with
          | user => exact ⟨origin, .refl, .inl held⟩
          | escrow =>
              rcases conserved held with
                ⟨parcel, holds, sameCls, sameToken⟩ | ⟨here, channel, far, stands⟩
              · refine ⟨origin, .refl, .inr ⟨parcel, holds.1, ?_, sameCls, sameToken⟩⟩
                intro arrived
                rcases holds.2 with failed | ⟨source, returns⟩
                · exact failed arrived
                · rcases backing.opened holds.1 with ⟨ends, opened⟩
                  rw [sameCls] at returns
                  exact out _ ends source opened returns
                    ⟨held, parcel, holds.1, sameCls, sameToken, rfl, arrived⟩
              · have higher := wraps here channel origin.2
                have inBound := bounded here _ stands.present
                rcases ih (bound - rank (net.voucher here channel origin.2)) (by omega)
                    stands.present stands.isOut rfl with ⟨place, way, located⟩
                exact ⟨place, way.tail ⟨channel, far, stands.opened, rfl⟩, located⟩

/-- A token that is on the road is locked for nobody. -/
theorem Located.not_backs {place : ι × κ} (located : net.Located before token place) :
    ¬net.Backs before place.1 place.2 token far := by
  intro backs
  rcases located with live | ⟨parcel, pending, failed, sameCls, sameToken⟩
  · have held := backs.held
    rw [live] at held
    cases held
  · exact backs.released parcel ⟨pending, .inl failed⟩ sameCls sameToken

/-- What a voucher on the road stands for is locked for it. -/
theorem Backing.backs_of_located (backing : net.Backing before) {place origin : ι × κ}
    (opened : net.peer place.1 channel = some (origin.1, far))
    (voucher : place.2 = net.voucher place.1 channel origin.2)
    (secure : net.Located before token place ∨
      ∃ far, net.Backs before place.1 place.2 token far) :
    net.Backs before origin.1 origin.2 token far := by
  rcases secure with (live | ⟨parcel, pending, failed, sameCls, sameToken⟩) | backs
  · exact backing.backs_of_standsFor opened voucher (.inl live)
  · have held := (backing.held ⟨pending, .inl failed⟩).1
    rw [sameCls, sameToken, voucher] at held
    rcases backing.backed opened (by rw [held]; simp) with backs | returning
    · exact backs
    · rcases returning.holding with ⟨other, holding, otherCls, otherToken, -, accepted⟩
      have same : parcel = other := by
        apply backing.once ⟨pending, .inl failed⟩ holding
        · rw [sameCls, otherCls, voucher]
        · rw [sameToken, otherToken]
      rw [same] at failed
      exact absurd accepted failed
  · exact backing.backs_of_standsFor opened voucher (.inr backs)

/-- Of a token and all that stands for it, at most one can be used or is on the road. -/
theorem Backing.located_unique (backing : net.Backing before) {place other origin : ι × κ}
    (located : net.Located before token place) (otherLocated : net.Located before token other)
    (reaches : Relation.ReflTransGen net.StandsFor place origin)
    (otherReaches : Relation.ReflTransGen net.StandsFor other origin) : place = other :=
  unique_of_passed (fun located => located.not_backs)
    (fun opened voucher => backing.backs_of_located opened voucher) located otherLocated reaches
    otherReaches

/-- A class stands for at most one other. -/
theorem StandsFor.unique {place origin other : ι × κ} (stands : net.StandsFor place origin)
    (otherStands : net.StandsFor place other) : origin = other := by
  rcases stands with ⟨channel, far, opened, voucher⟩
  rcases otherStands with ⟨otherChannel, otherFar, otherOpened, otherVoucher⟩
  rcases net.voucher_inj opened otherOpened (voucher.symm.trans otherVoucher) with
    ⟨rfl, sameCls⟩
  have ends := opened.symm.trans otherOpened
  simp only [Option.some.injEq, Prod.mk.injEq] at ends
  exact Prod.ext ends.1 sameCls

/-- Parcels on the road whose token is the same where they arrive, as a voucher or as what a
voucher stands for, are one parcel. -/
theorem Backing.parcel_unique (backing : net.Backing before) {here other : ι}
    {parcel otherParcel : π} {meeting : ι × κ} (pending : before.pending here parcel)
    (otherPending : before.pending other otherParcel)
    (failed : before.receipt here parcel ≠ some true)
    (otherFailed : before.receipt other otherParcel ≠ some true)
    (sameToken : net.token parcel = net.token otherParcel)
    (meets : net.StandsFor meeting (here, net.cls parcel) ∨
      net.StandsFor (here, net.cls parcel) meeting)
    (otherMeets : net.StandsFor meeting (other, net.cls otherParcel) ∨
      net.StandsFor (other, net.cls otherParcel) meeting) :
    here = other ∧ parcel = otherParcel := by
  have located : net.Located before (net.token parcel) (here, net.cls parcel) :=
    .inr ⟨parcel, pending, failed, rfl, rfl⟩
  have otherLocated : net.Located before (net.token parcel) (other, net.cls otherParcel) :=
    .inr ⟨otherParcel, otherPending, otherFailed, rfl, sameToken.symm⟩
  have same : (here, net.cls parcel) = (other, net.cls otherParcel) := by
    rcases meets with arrives | returns
    · rcases otherMeets with otherArrives | otherReturns
      · exact arrives.unique otherArrives
      · exact backing.located_unique located otherLocated .refl
          (.tail (.single otherReturns) arrives)
    · rcases otherMeets with otherArrives | otherReturns
      · exact backing.located_unique located otherLocated (.tail (.single returns) otherArrives)
          .refl
      · exact backing.located_unique located otherLocated (.single returns)
          (.single otherReturns)
  rcases Prod.mk.inj same with ⟨rfl, sameCls⟩
  exact ⟨rfl, backing.once ⟨pending, .inl failed⟩ ⟨otherPending, .inl otherFailed⟩ sameCls
    sameToken⟩

end VoucherNet

end Ics721.Library
