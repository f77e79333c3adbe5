import Ics721.Library.Vouchers
import Mathlib.Logic.Relation
import Mathlib.Tactic.ByContra

/-!
# Vouchers are backed

`Backing` is the invariant of networks that lock tokens and issue vouchers: whoever holds a
voucher can count on the token it stands for being locked for its channel.  The subtle case
is a voucher that went back: its token may be released, and locked again for someone else,
before the voucher is destroyed.

From the invariant follows that of a token and all that stands for it, directly or through
other vouchers, at most one can be used.
-/

namespace Ics721.Library

namespace VoucherNet

variable {ι χ κ τ π : Type} (net : VoucherNet ι χ κ τ π)

/-! ## The invariant -/

/-- The parcel keeps its token locked: it has not been accepted, or its token is a voucher
on its way back that is to be destroyed. -/
def Holding (state : VoucherState ι χ κ τ π) (here : ι) (parcel : π) : Prop :=
  state.pending here parcel ∧
    (state.receipt here parcel ≠ some true ∨
      ∃ source, net.cls parcel = net.voucher here (net.channel parcel) source)

/-- The token is locked for a channel, and no parcel keeps it locked. -/
structure Backs (state : VoucherState ι χ κ τ π) (there : ι) (cls : κ) (token : τ) (far : χ) :
    Prop where
  held : state.holder there cls token = some .escrow
  sent : state.outgoing there cls token = some far
  released : ∀ parcel, net.Holding state there parcel → net.cls parcel = cls →
    net.token parcel ≠ token

/-- The voucher is back at its source and is to be destroyed. -/
structure Returning (state : VoucherState ι χ κ τ π) (here : ι) (cls : κ) (token : τ)
    (channel : χ) : Prop where
  held : state.holder here cls token = some .escrow
  accepted : ∃ parcel, state.pending here parcel ∧ net.cls parcel = cls ∧
    net.token parcel = token ∧ net.channel parcel = channel ∧
    state.receipt here parcel = some true

/-- The invariant of voucher networks. -/
structure Backing (state : VoucherState ι χ κ τ π) : Prop where
  opened : ∀ {here parcel}, state.pending here parcel →
    ∃ ends, net.peer here (net.channel parcel) = some ends
  held : ∀ {here parcel}, net.Holding state here parcel →
    state.holder here (net.cls parcel) (net.token parcel) = some .escrow ∧
      state.outgoing here (net.cls parcel) (net.token parcel) = some (net.channel parcel)
  once : ∀ {here parcel other}, net.Holding state here parcel → net.Holding state here other →
    net.cls parcel = net.cls other → net.token parcel = net.token other → parcel = other
  backed : ∀ {here channel there far cls token},
    net.peer here channel = some (there, far) →
    state.holder here (net.voucher here channel cls) token ≠ none →
    net.Backs state there cls token far ∨
      net.Returning state here (net.voucher here channel cls) token channel
  came : ∀ {here cls token channel}, state.incoming here cls token = some channel →
    ∃ source, cls = net.voucher here channel source
  noted : ∀ {here channel ends cls token}, net.peer here channel = some ends →
    state.holder here (net.voucher here channel cls) token ≠ none →
    state.incoming here (net.voucher here channel cls) token = some channel

/-- A voucher that is undisturbed was there before. -/
theorem Undisturbed.existed {net : VoucherNet ι χ κ τ π} {before after : VoucherState ι χ κ τ π}
    {here : ι} {channel : χ} {ends : ι × χ} {cls : κ} {token : τ}
    (undisturbed : net.Undisturbed before after here (net.voucher here channel cls) token)
    (opened : net.peer here channel = some ends)
    (present : after.holder here (net.voucher here channel cls) token ≠ none) :
    before.holder here (net.voucher here channel cls) token ≠ none := by
  intro missing
  exact present (undisturbed.2 channel ends cls opened rfl missing)

/-- The parcel of a voucher that is back keeps it locked. -/
theorem Returning.holding {net : VoucherNet ι χ κ τ π} {state : VoucherState ι χ κ τ π}
    {here : ι} {channel : χ} {cls : κ} {token : τ}
    (returning : net.Returning state here (net.voucher here channel cls) token channel) :
    ∃ parcel, net.Holding state here parcel ∧
      net.cls parcel = net.voucher here channel cls ∧ net.token parcel = token ∧
      net.channel parcel = channel ∧ state.receipt here parcel = some true := by
  rcases returning.accepted with ⟨parcel, pending, sameCls, sameToken, sameChannel, accepted⟩
  refine ⟨parcel, ⟨pending, .inr ⟨cls, ?_⟩⟩, sameCls, sameToken, sameChannel, accepted⟩
  rw [sameCls, sameChannel]

namespace Backing

variable {net} {before after : VoucherState ι χ κ τ π} {here there : ι} {parcel : π}
variable {channel far : χ} {cls source : κ} {token : τ}

/-- A voucher on its way back is backed. -/
theorem returning_backed (backing : net.Backing before) (waiting : before.pending here parcel)
    (failed : before.receipt here parcel ≠ some true)
    (opened : net.peer here (net.channel parcel) = some (there, far))
    (returns : net.cls parcel = net.voucher here (net.channel parcel) source) :
    net.Backs before there source (net.token parcel) far := by
  have holding : net.Holding before here parcel := ⟨waiting, .inl failed⟩
  have held := (backing.held holding).1
  rw [returns] at held
  rcases backing.backed opened (by rw [held]; simp) with backs | returning
  · exact backs
  · rcases returning.holding with ⟨other, otherHolding, sameCls, sameToken, -, accepted⟩
    have same := backing.once holding otherHolding (returns.trans sameCls.symm) sameToken.symm
    rw [same] at failed
    exact absurd accepted failed

/-- A step after which there are no new vouchers. -/
theorem preserved (backing : net.Backing before)
    (opened : ∀ {here parcel}, after.pending here parcel →
      ∃ ends, net.peer here (net.channel parcel) = some ends)
    (held : ∀ {here parcel}, net.Holding after here parcel →
      after.holder here (net.cls parcel) (net.token parcel) = some .escrow ∧
        after.outgoing here (net.cls parcel) (net.token parcel) = some (net.channel parcel))
    (once : ∀ {here parcel other}, net.Holding after here parcel →
      net.Holding after here other → net.cls parcel = net.cls other →
      net.token parcel = net.token other → parcel = other)
    (existed : ∀ {here channel ends cls token}, net.peer here channel = some ends →
      after.holder here (net.voucher here channel cls) token ≠ none →
      before.holder here (net.voucher here channel cls) token ≠ none)
    (returning : ∀ {here channel cls token},
      after.holder here (net.voucher here channel cls) token ≠ none →
      net.Returning before here (net.voucher here channel cls) token channel →
      net.Returning after here (net.voucher here channel cls) token channel)
    (backs : ∀ {here channel there far cls token}, net.peer here channel = some (there, far) →
      net.Backs before there cls token far → net.Backs after there cls token far ∨
        net.Returning after here (net.voucher here channel cls) token channel)
    (came : ∀ {here cls token channel}, after.incoming here cls token = some channel →
      ∃ source, cls = net.voucher here channel source)
    (noted : ∀ {here channel ends cls token}, net.peer here channel = some ends →
      after.holder here (net.voucher here channel cls) token ≠ none →
      before.incoming here (net.voucher here channel cls) token = some channel →
      after.incoming here (net.voucher here channel cls) token = some channel) :
    net.Backing after where
  opened := opened
  held := held
  once := once
  backed := by
    intro here channel there far cls token open_ present
    rcases backing.backed open_ (existed open_ present) with backed | back
    · exact backs open_ backed
    · exact .inr (returning present back)
  came := came
  noted := by
    intro here channel ends cls token open_ present
    exact noted open_ present (backing.noted open_ (existed open_ present))

/-- Nothing happens, or something that is no one's concern. -/
theorem idle (backing : net.Backing before)
    (holders : ∀ here cls token, net.Undisturbed before after here cls token)
    (outgoing : after.outgoing = before.outgoing) (incoming : after.incoming = before.incoming)
    (pending : after.pending = before.pending) (receipt : after.receipt = before.receipt) :
    net.Backing after := by
  have holding : ∀ {here parcel}, net.Holding after here parcel →
      net.Holding before here parcel := by
    intro here parcel holds
    rw [Holding, pending, receipt] at holds
    exact holds
  apply backing.preserved
  · intro here parcel waiting
    rw [pending] at waiting
    exact backing.opened waiting
  · intro here parcel holds
    rcases backing.held (holding holds) with ⟨held, sent⟩
    rw [outgoing]
    exact ⟨(holders _ _ _).1 held, sent⟩
  · intro here parcel other holds otherHolds
    exact backing.once (holding holds) (holding otherHolds)
  · intro here channel ends cls token opened
    exact (holders _ _ _).existed opened
  · intro here channel cls token _ returning
    constructor
    · exact (holders _ _ _).1 returning.held
    · rw [pending, receipt]
      exact returning.accepted
  · intro here channel there far cls token _ backs
    left
    constructor
    · exact (holders _ _ _).1 backs.held
    · rw [outgoing]
      exact backs.sent
    · intro parcel holds
      exact backs.released parcel (holding holds)
  · rw [incoming]
    exact backing.came
  · rw [incoming]
    exact fun _ _ noted => noted

theorem send {ends : ι × χ} (backing : net.Backing before)
    (opened : net.peer here (net.channel parcel) = some ends)
    (free : before.holder here (net.cls parcel) (net.token parcel) ≠ some .escrow)
    (known : ∀ channel ends source, net.peer here channel = some ends →
      net.cls parcel = net.voucher here channel source →
      before.holder here (net.cls parcel) (net.token parcel) ≠ none)
    (locked : after.holder here (net.cls parcel) (net.token parcel) = some .escrow)
    (holders : net.UndisturbedBut here (net.cls parcel) (net.token parcel) before after)
    (sent : after.outgoing here (net.cls parcel) (net.token parcel) = some (net.channel parcel))
    (outgoing : SameBut here (net.cls parcel) (net.token parcel) before.outgoing after.outgoing)
    (incoming : after.incoming = before.incoming)
    (pending : ∀ other otherParcel, after.pending other otherParcel ↔
      before.pending other otherParcel ∨ (other = here ∧ otherParcel = parcel))
    (receipt : after.receipt = before.receipt) : net.Backing after := by
  -- What is in escrow is not what is sent.
  have elsewhere : ∀ {other cls token}, before.holder other cls token = some .escrow →
      ¬(other = here ∧ cls = net.cls parcel ∧ token = net.token parcel) := by
    intro other cls token held same
    rcases same with ⟨rfl, rfl, rfl⟩
    exact free held
  have holding : ∀ {other otherParcel}, net.Holding after other otherParcel →
      net.Holding before other otherParcel ∨ (other = here ∧ otherParcel = parcel) := by
    intro other otherParcel holds
    rw [Holding, pending, receipt] at holds
    rcases holds.1 with waiting | new
    · exact .inl ⟨waiting, holds.2⟩
    · exact .inr new
  apply backing.preserved
  · intro other otherParcel waiting
    rcases (pending _ _).mp waiting with waiting | ⟨rfl, rfl⟩
    · exact backing.opened waiting
    · exact ⟨ends, opened⟩
  · intro other otherParcel holds
    rcases holding holds with holds | ⟨rfl, rfl⟩
    · rcases backing.held holds with ⟨held, sent⟩
      rw [outgoing _ _ _ (elsewhere held)]
      exact ⟨(holders _ _ _ (elsewhere held)).1 held, sent⟩
    · exact ⟨locked, sent⟩
  · intro other first second firstHolds secondHolds sameCls sameToken
    rcases holding firstHolds with firstHolds | ⟨rfl, rfl⟩
    · rcases holding secondHolds with secondHolds | ⟨rfl, rfl⟩
      · exact backing.once firstHolds secondHolds sameCls sameToken
      · exact absurd ⟨rfl, sameCls, sameToken⟩ (elsewhere (backing.held firstHolds).1)
    · rcases holding secondHolds with secondHolds | ⟨-, rfl⟩
      · exact absurd ⟨rfl, sameCls.symm, sameToken.symm⟩
          (elsewhere (backing.held secondHolds).1)
      · rfl
  · intro other channel otherEnds cls token open_ present
    by_cases same : other = here ∧ net.voucher other channel cls = net.cls parcel ∧
        token = net.token parcel
    · rcases same with ⟨rfl, same, rfl⟩
      rw [same]
      exact known channel otherEnds cls open_ same.symm
    · exact (holders _ _ _ same).existed open_ present
  · intro other channel cls token _ returning
    constructor
    · exact (holders _ _ _ (elsewhere returning.held)).1 returning.held
    · rcases returning.accepted with ⟨accepted, waiting, rest⟩
      rw [receipt]
      exact ⟨accepted, (pending _ _).mpr (.inl waiting), rest⟩
  · intro other channel there far cls token _ backs
    have different := elsewhere backs.held
    left
    constructor
    · exact (holders _ _ _ different).1 backs.held
    · rw [outgoing _ _ _ different]
      exact backs.sent
    · intro otherParcel holds sameCls sameToken
      rcases holding holds with holds | ⟨rfl, rfl⟩
      · exact backs.released otherParcel holds sameCls sameToken
      · exact different ⟨rfl, sameCls.symm, sameToken.symm⟩
  · rw [incoming]
    exact backing.came
  · rw [incoming]
    exact fun _ _ noted => noted

theorem redeem (backing : net.Backing before)
    (waiting : before.pending here parcel) (unreceived : before.receipt here parcel = none)
    (opened : net.peer here (net.channel parcel) = some (there, far))
    (returns : net.cls parcel = net.voucher here (net.channel parcel) source)
    (holders : net.UndisturbedBut there source (net.token parcel) before after)
    (outgoing : SameBut there source (net.token parcel) before.outgoing after.outgoing)
    (incoming : after.incoming = before.incoming)
    (pending : after.pending = before.pending)
    (receipts : Receipts here parcel true before after) : net.Backing after := by
  have unaccepted : before.receipt here parcel ≠ some true := by simp [unreceived]
  have holdsParcel : net.Holding before here parcel := ⟨waiting, .inl unaccepted⟩
  have redeemed := backing.returning_backed waiting unaccepted opened returns
  have holding : ∀ {other otherParcel}, net.Holding after other otherParcel →
      net.Holding before other otherParcel := by
    intro other otherParcel holds
    by_cases same : other = here ∧ otherParcel = parcel
    · rcases same with ⟨rfl, rfl⟩
      exact holdsParcel
    · rw [Holding, pending, receipts.2 _ _ same] at holds
      exact holds
  -- What a parcel keeps locked is not what is redeemed.
  have elsewhere : ∀ {other otherParcel}, net.Holding before other otherParcel →
      ¬(other = there ∧ net.cls otherParcel = source ∧
        net.token otherParcel = net.token parcel) := by
    intro other otherParcel holds same
    rcases same with ⟨rfl, sameCls, sameToken⟩
    exact redeemed.released otherParcel holds sameCls sameToken
  apply backing.preserved
  · rw [pending]
    exact backing.opened
  · intro other otherParcel holds
    have earlier := holding holds
    rcases backing.held earlier with ⟨held, sent⟩
    rw [outgoing _ _ _ (elsewhere earlier)]
    exact ⟨(holders _ _ _ (elsewhere earlier)).1 held, sent⟩
  · intro other first second firstHolds secondHolds
    exact backing.once (holding firstHolds) (holding secondHolds)
  · intro other channel ends cls token open_ present
    by_cases same : other = there ∧ net.voucher other channel cls = source ∧
        token = net.token parcel
    · rcases same with ⟨rfl, same, rfl⟩
      rw [same, redeemed.held]
      simp
    · exact (holders _ _ _ same).existed open_ present
  · intro other channel cls token _ returning
    rcases returning.holding with
      ⟨accepted, holds, sameCls, sameToken, sameChannel, arrived⟩
    have different := elsewhere holds
    rw [sameCls, sameToken] at different
    constructor
    · exact (holders _ _ _ different).1 returning.held
    · refine ⟨accepted, ?_, sameCls, sameToken, sameChannel, ?_⟩
      · rw [pending]
        exact holds.1
      · rw [receipts.2 _ _ ?_]
        · exact arrived
        · intro same
          rcases same with ⟨rfl, rfl⟩
          exact unaccepted arrived
  · intro other channel origin otherFar cls token open_ backs
    by_cases same : origin = there ∧ cls = source ∧ token = net.token parcel
    · -- Only the voucher that the parcel carries counted on what is redeemed.
      rcases same with ⟨rfl, rfl, rfl⟩
      right
      have sameFar : otherFar = far := by
        have sent := backs.sent
        rw [redeemed.sent] at sent
        cases sent
        rfl
      subst sameFar
      have sameEnd := (net.peer_symm open_).symm.trans (net.peer_symm opened)
      cases sameEnd
      rw [← returns]
      have different : ¬(here = origin ∧ net.cls parcel = cls ∧
          net.token parcel = net.token parcel) := by
        intro same
        exact net.peer_ne opened same.1.symm
      constructor
      · exact (holders _ _ _ different).1 (backing.held holdsParcel).1
      · refine ⟨parcel, ?_, rfl, rfl, rfl, receipts.1⟩
        rw [pending]
        exact waiting
    · left
      constructor
      · exact (holders _ _ _ same).1 backs.held
      · rw [outgoing _ _ _ same]
        exact backs.sent
      · intro otherParcel holds
        exact backs.released otherParcel (holding holds)
  · rw [incoming]
    exact backing.came
  · rw [incoming]
    exact fun _ _ noted => noted

theorem create (backing : net.Backing before)
    (waiting : before.pending here parcel) (unreceived : before.receipt here parcel = none)
    (opened : net.peer here (net.channel parcel) = some (there, far))
    (staying : ∀ source, net.cls parcel = net.voucher here (net.channel parcel) source →
      before.outgoing there source (net.token parcel) ≠ some far)
    (unused : before.holder there (net.voucher there far (net.cls parcel)) (net.token parcel) =
      none)
    (holders : net.UndisturbedBut there (net.voucher there far (net.cls parcel))
      (net.token parcel) before after)
    (outgoing : after.outgoing = before.outgoing)
    (entered : after.incoming there (net.voucher there far (net.cls parcel))
      (net.token parcel) = some far)
    (incoming : SameBut there (net.voucher there far (net.cls parcel)) (net.token parcel)
      before.incoming after.incoming)
    (pending : after.pending = before.pending)
    (receipts : Receipts here parcel true before after) : net.Backing after := by
  have unaccepted : before.receipt here parcel ≠ some true := by simp [unreceived]
  have holdsParcel : net.Holding before here parcel := ⟨waiting, .inl unaccepted⟩
  have outward : ∀ source, net.cls parcel ≠ net.voucher here (net.channel parcel) source := by
    intro source returns
    exact staying source returns
      (backing.returning_backed waiting unaccepted opened returns).sent
  have holding : ∀ {other otherParcel}, net.Holding after other otherParcel →
      net.Holding before other otherParcel ∧ ¬(other = here ∧ otherParcel = parcel) := by
    intro other otherParcel holds
    have different : ¬(other = here ∧ otherParcel = parcel) := by
      intro same
      rcases same with ⟨rfl, rfl⟩
      rcases holds.2 with unaccepted | ⟨source, returns⟩
      · exact unaccepted receipts.1
      · exact outward source returns
    rw [Holding, pending, receipts.2 _ _ different] at holds
    exact ⟨holds, different⟩
  -- What is in escrow is not the new voucher.
  have elsewhere : ∀ {other cls token}, before.holder other cls token = some .escrow →
      ¬(other = there ∧ cls = net.voucher there far (net.cls parcel) ∧
        token = net.token parcel) := by
    intro other cls token held same
    rcases same with ⟨rfl, rfl, rfl⟩
    rw [unused] at held
    cases held
  have kept : ∀ {other cls token otherFar}, net.Backs before other cls token otherFar →
      net.Backs after other cls token otherFar := by
    intro other cls token otherFar backs
    constructor
    · exact (holders _ _ _ (elsewhere backs.held)).1 backs.held
    · rw [outgoing]
      exact backs.sent
    · intro otherParcel holds
      exact backs.released otherParcel (holding holds).1
  have newOrOld : ∀ {other channel ends cls token}, net.peer other channel = some ends →
      after.holder other (net.voucher other channel cls) token ≠ none →
      (other = there ∧ channel = far ∧ cls = net.cls parcel ∧ token = net.token parcel) ∨
        (¬(other = there ∧ net.voucher other channel cls =
            net.voucher there far (net.cls parcel) ∧ token = net.token parcel) ∧
          before.holder other (net.voucher other channel cls) token ≠ none) := by
    intro other channel ends cls token open_ present
    by_cases same : other = there ∧ net.voucher other channel cls =
        net.voucher there far (net.cls parcel) ∧ token = net.token parcel
    · rcases same with ⟨rfl, same, rfl⟩
      rcases net.voucher_inj open_ (net.peer_symm opened) same with ⟨rfl, rfl⟩
      exact .inl ⟨rfl, rfl, rfl, rfl⟩
    · exact .inr ⟨same, (holders _ _ _ same).existed open_ present⟩
  constructor
  · rw [pending]
    exact backing.opened
  · intro other otherParcel holds
    rcases backing.held (holding holds).1 with ⟨held, sent⟩
    rw [outgoing]
    exact ⟨(holders _ _ _ (elsewhere held)).1 held, sent⟩
  · intro other first second firstHolds secondHolds
    exact backing.once (holding firstHolds).1 (holding secondHolds).1
  · intro other channel origin otherFar cls token open_ present
    rcases newOrOld open_ present with ⟨rfl, rfl, rfl, rfl⟩ | ⟨-, existed⟩
    · left
      cases (net.peer_symm opened).symm.trans open_
      rcases backing.held holdsParcel with ⟨held, sent⟩
      constructor
      · exact (holders _ _ _ (elsewhere held)).1 held
      · rw [outgoing]
        exact sent
      · intro otherParcel holds sameCls sameToken
        have same := backing.once (holding holds).1 holdsParcel sameCls sameToken
        exact (holding holds).2 ⟨rfl, same⟩
    · rcases backing.backed open_ existed with backs | returning
      · exact .inl (kept backs)
      · right
        constructor
        · exact (holders _ _ _ (elsewhere returning.held)).1 returning.held
        · rcases returning.accepted with
            ⟨accepted, waiting, sameCls, sameToken, sameChannel, arrived⟩
          refine ⟨accepted, ?_, sameCls, sameToken, sameChannel, ?_⟩
          · rw [pending]
            exact waiting
          · rw [receipts.2 _ _ ?_]
            · exact arrived
            · intro same
              rcases same with ⟨rfl, rfl⟩
              exact unaccepted arrived
  · intro other cls token channel came
    by_cases same : other = there ∧ cls = net.voucher there far (net.cls parcel) ∧
        token = net.token parcel
    · rcases same with ⟨rfl, rfl, rfl⟩
      rw [entered] at came
      cases came
      exact ⟨_, rfl⟩
    · rw [incoming _ _ _ same] at came
      exact backing.came came
  · intro other channel ends cls token open_ present
    rcases newOrOld open_ present with ⟨rfl, rfl, rfl, rfl⟩ | ⟨different, existed⟩
    · exact entered
    · rw [incoming _ _ _ different]
      exact backing.noted open_ existed

theorem refuse (backing : net.Backing before)
    (unreceived : before.receipt here parcel = none)
    (opened : net.peer here (net.channel parcel) = some (there, far))
    (holders : ∀ here cls token, net.Undisturbed before after here cls token)
    (outgoing : after.outgoing = before.outgoing)
    (entered : after.incoming = before.incoming ∨
      after.incoming there (net.voucher there far (net.cls parcel)) (net.token parcel) =
        some far ∧
      SameBut there (net.voucher there far (net.cls parcel)) (net.token parcel)
        before.incoming after.incoming)
    (pending : after.pending = before.pending)
    (receipts : Receipts here parcel false before after) : net.Backing after := by
  have holding : ∀ {other otherParcel}, net.Holding after other otherParcel →
      net.Holding before other otherParcel := by
    intro other otherParcel holds
    by_cases same : other = here ∧ otherParcel = parcel
    · rcases same with ⟨rfl, rfl⟩
      rw [Holding, pending] at holds
      exact ⟨holds.1, .inl (by simp [unreceived])⟩
    · rw [Holding, pending, receipts.2 _ _ same] at holds
      exact holds
  apply backing.preserved
  · rw [pending]
    exact backing.opened
  · intro other otherParcel holds
    rcases backing.held (holding holds) with ⟨held, sent⟩
    rw [outgoing]
    exact ⟨(holders _ _ _).1 held, sent⟩
  · intro other first second firstHolds secondHolds
    exact backing.once (holding firstHolds) (holding secondHolds)
  · intro other channel ends cls token open_
    exact (holders _ _ _).existed open_
  · intro other channel cls token _ returning
    constructor
    · exact (holders _ _ _).1 returning.held
    · rcases returning.accepted with
        ⟨accepted, waiting, sameCls, sameToken, sameChannel, arrived⟩
      refine ⟨accepted, ?_, sameCls, sameToken, sameChannel, ?_⟩
      · rw [pending]
        exact waiting
      · rw [receipts.2 _ _ ?_]
        · exact arrived
        · intro same
          rcases same with ⟨rfl, rfl⟩
          rw [unreceived] at arrived
          cases arrived
  · intro other channel origin otherFar cls token _ backs
    left
    constructor
    · exact (holders _ _ _).1 backs.held
    · rw [outgoing]
      exact backs.sent
    · intro otherParcel holds
      exact backs.released otherParcel (holding holds)
  · intro other cls token channel came
    rcases entered with same | ⟨entered, incoming⟩
    · rw [same] at came
      exact backing.came came
    · by_cases same : other = there ∧ cls = net.voucher there far (net.cls parcel) ∧
          token = net.token parcel
      · rcases same with ⟨rfl, rfl, rfl⟩
        rw [entered] at came
        cases came
        exact ⟨_, rfl⟩
      · rw [incoming _ _ _ same] at came
        exact backing.came came
  · intro other channel ends cls token open_ _ noted
    rcases entered with same | ⟨entered, incoming⟩
    · rw [same]
      exact noted
    · by_cases same : other = there ∧ net.voucher other channel cls =
          net.voucher there far (net.cls parcel) ∧ token = net.token parcel
      · rcases same with ⟨rfl, same, rfl⟩
        rcases net.voucher_inj open_ (net.peer_symm opened) same with ⟨rfl, rfl⟩
        exact entered
      · rw [incoming _ _ _ same]
        exact noted

/-- A parcel is settled, and what becomes of its token is nobody's concern any more. -/
theorem settled (backing : net.Backing before)
    (existed : ∀ {other channel ends cls token}, net.peer other channel = some ends →
      after.holder other (net.voucher other channel cls) token ≠ none →
      before.holder other (net.voucher other channel cls) token ≠ none)
    (holders : ∀ {other cls token}, before.holder other cls token = some .escrow →
      (other = here ∧ cls = net.cls parcel ∧ token = net.token parcel →
        ¬net.Holding before here parcel) →
      after.holder other cls token = some .escrow)
    (outgoing : ∀ {other cls token},
      (other = here ∧ cls = net.cls parcel ∧ token = net.token parcel →
        ¬net.Holding before here parcel) →
      after.outgoing other cls token = before.outgoing other cls token)
    (burned : net.Holding before here parcel → before.receipt here parcel = some true →
      after.holder here (net.cls parcel) (net.token parcel) = none)
    (settles : Settles here parcel before after) (receipt : after.receipt = before.receipt)
    (came : ∀ {here cls token channel}, after.incoming here cls token = some channel →
      ∃ source, cls = net.voucher here channel source)
    (noted : ∀ {here channel ends cls token}, net.peer here channel = some ends →
      after.holder here (net.voucher here channel cls) token ≠ none →
      before.incoming here (net.voucher here channel cls) token = some channel →
      after.incoming here (net.voucher here channel cls) token = some channel) :
    net.Backing after := by
  have holding : ∀ {other otherParcel}, net.Holding after other otherParcel →
      net.Holding before other otherParcel ∧ ¬(other = here ∧ otherParcel = parcel) := by
    intro other otherParcel holds
    rw [Holding, settles, receipt] at holds
    exact ⟨⟨holds.1.1, holds.2⟩, holds.1.2⟩
  -- Another parcel does not keep the token of this one locked.
  have elsewhere : ∀ {other otherParcel}, net.Holding before other otherParcel →
      ¬(other = here ∧ otherParcel = parcel) →
      other = here ∧ net.cls otherParcel = net.cls parcel ∧
        net.token otherParcel = net.token parcel →
      ¬net.Holding before here parcel := by
    intro other otherParcel holds different same holdsParcel
    rcases same with ⟨rfl, sameCls, sameToken⟩
    exact different ⟨rfl, backing.once holds holdsParcel sameCls sameToken⟩
  apply backing.preserved
  · intro other otherParcel waiting
    exact backing.opened ((settles _ _).mp waiting).1
  · intro other otherParcel holds
    rcases holding holds with ⟨earlier, different⟩
    rcases backing.held earlier with ⟨held, sent⟩
    rw [outgoing (elsewhere earlier different)]
    exact ⟨holders held (elsewhere earlier different), sent⟩
  · intro other first second firstHolds secondHolds
    exact backing.once (holding firstHolds).1 (holding secondHolds).1
  · exact existed
  · intro other channel cls token present returning
    rcases returning.holding with
      ⟨accepted, holds, sameCls, sameToken, sameChannel, arrived⟩
    have different : ¬(other = here ∧ accepted = parcel) := by
      intro same
      rcases same with ⟨rfl, rfl⟩
      rw [← sameCls, ← sameToken] at present
      exact present (burned holds arrived)
    have notHere := elsewhere holds different
    rw [sameCls, sameToken] at notHere
    constructor
    · exact holders returning.held notHere
    · rw [receipt]
      exact ⟨accepted, (settles _ _).mpr ⟨holds.1, different⟩, sameCls, sameToken, sameChannel,
        arrived⟩
  · intro other channel there far cls token _ backs
    have notHere : there = here ∧ cls = net.cls parcel ∧ token = net.token parcel →
        ¬net.Holding before here parcel := by
      intro same holdsParcel
      rcases same with ⟨rfl, rfl, rfl⟩
      exact backs.released parcel holdsParcel rfl rfl
    left
    constructor
    · exact holders backs.held notHere
    · rw [outgoing notHere]
      exact backs.sent
    · intro otherParcel holds
      exact backs.released otherParcel (holding holds).1
  · exact came
  · exact noted

theorem refund (backing : net.Backing before)
    (waiting : before.pending here parcel) (failed : before.receipt here parcel ≠ some true)
    (holders : net.UndisturbedBut here (net.cls parcel) (net.token parcel) before after)
    (outgoing : SameBut here (net.cls parcel) (net.token parcel) before.outgoing after.outgoing)
    (incoming : after.incoming = before.incoming)
    (settles : Settles here parcel before after) (receipt : after.receipt = before.receipt) :
    net.Backing after := by
  have holdsParcel : net.Holding before here parcel := ⟨waiting, .inl failed⟩
  refine backing.settled ?_ ?_ ?_ ?_ settles receipt ?_ ?_
  · intro other channel ends cls token open_ present
    by_cases same : other = here ∧ net.voucher other channel cls = net.cls parcel ∧
        token = net.token parcel
    · rcases same with ⟨rfl, same, rfl⟩
      rw [same, (backing.held holdsParcel).1]
      simp
    · exact (holders _ _ _ same).existed open_ present
  · intro other cls token held notHere
    exact (holders _ _ _ fun same => notHere same holdsParcel).1 held
  · intro other cls token notHere
    exact outgoing _ _ _ fun same => notHere same holdsParcel
  · intro _ arrived
    exact absurd arrived failed
  · rw [incoming]
    exact backing.came
  · rw [incoming]
    exact fun _ _ noted => noted

theorem burn (backing : net.Backing before)
    (waiting : before.pending here parcel)
    (came : before.incoming here (net.cls parcel) (net.token parcel) =
      some (net.channel parcel))
    (gone : after.holder here (net.cls parcel) (net.token parcel) = none)
    (holders : net.UndisturbedBut here (net.cls parcel) (net.token parcel) before after)
    (outgoing : after.outgoing = before.outgoing)
    (forgotten : after.incoming here (net.cls parcel) (net.token parcel) = none)
    (incoming : SameBut here (net.cls parcel) (net.token parcel) before.incoming after.incoming)
    (settles : Settles here parcel before after) (receipt : after.receipt = before.receipt) :
    net.Backing after := by
  have holdsParcel : net.Holding before here parcel := ⟨waiting, .inr (backing.came came)⟩
  refine backing.settled ?_ ?_ ?_ ?_ settles receipt ?_ ?_
  · intro other channel ends cls token open_ present
    by_cases same : other = here ∧ net.voucher other channel cls = net.cls parcel ∧
        token = net.token parcel
    · rcases same with ⟨rfl, same, rfl⟩
      rw [same] at present
      exact absurd gone present
    · exact (holders _ _ _ same).existed open_ present
  · intro other cls token held notHere
    exact (holders _ _ _ fun same => notHere same holdsParcel).1 held
  · intro other cls token _
    rw [outgoing]
  · intro _ _
    exact gone
  · intro other cls token channel entry
    by_cases same : other = here ∧ cls = net.cls parcel ∧ token = net.token parcel
    · rcases same with ⟨rfl, rfl, rfl⟩
      rw [forgotten] at entry
      cases entry
    · rw [incoming _ _ _ same] at entry
      exact backing.came entry
  · intro other channel ends cls token open_ present noted
    by_cases same : other = here ∧ net.voucher other channel cls = net.cls parcel ∧
        token = net.token parcel
    · rcases same with ⟨rfl, same, rfl⟩
      rw [same] at present
      exact absurd gone present
    · rw [incoming _ _ _ same]
      exact noted

theorem settle (backing : net.Backing before)
    (waiting : before.pending here parcel) (arrived : before.receipt here parcel = some true)
    (stays : before.incoming here (net.cls parcel) (net.token parcel) ≠
      some (net.channel parcel))
    (holders : ∀ here cls token, net.Undisturbed before after here cls token)
    (outgoing : after.outgoing = before.outgoing)
    (incoming : after.incoming = before.incoming)
    (settles : Settles here parcel before after) (receipt : after.receipt = before.receipt) :
    net.Backing after := by
  -- A voucher on its way back has come in on the channel of its parcel.
  have outward : ¬net.Holding before here parcel := by
    intro holds
    rcases holds.2 with unaccepted | ⟨source, returns⟩
    · exact unaccepted arrived
    · rcases backing.opened waiting with ⟨ends, opened⟩
      have held := (backing.held holds).1
      rw [returns] at held stays
      exact stays (backing.noted opened (by simp [held]))
  refine backing.settled ?_ ?_ ?_ ?_ settles receipt ?_ ?_
  · intro other channel ends cls token open_
    exact (holders _ _ _).existed open_
  · intro other cls token held _
    exact (holders _ _ _).1 held
  · intro other cls token _
    rw [outgoing]
  · intro holds
    exact absurd holds outward
  · rw [incoming]
    exact backing.came
  · rw [incoming]
    exact fun _ _ noted => noted

/-- Whatever happens in a network, its vouchers stay backed. -/
theorem step (backing : net.Backing before) (stepped : net.Step before after) :
    net.Backing after := by
  cases stepped with
  | idle holders outgoing incoming pending receipt =>
      exact backing.idle holders outgoing incoming pending receipt
  | send opened free known locked holders sent outgoing incoming pending receipt =>
      exact backing.send opened free known locked holders sent outgoing incoming pending receipt
  | redeem waiting unreceived opened returns holders outgoing incoming pending receipts =>
      exact backing.redeem waiting unreceived opened returns holders outgoing incoming pending
        receipts
  | create waiting unreceived opened staying unused holders outgoing entered incoming pending
      receipts =>
      exact backing.create waiting unreceived opened staying unused holders outgoing entered
        incoming pending receipts
  | refuse unreceived opened holders outgoing entered pending receipts =>
      exact backing.refuse unreceived opened holders outgoing entered pending receipts
  | refund waiting failed holders outgoing incoming settles receipt =>
      exact backing.refund waiting failed holders outgoing incoming settles receipt
  | burn waiting came gone holders outgoing forgotten incoming settles receipt =>
      exact backing.burn waiting came gone holders outgoing forgotten incoming settles receipt
  | settle waiting arrived stays holders outgoing incoming settles receipt =>
      exact backing.settle waiting arrived stays holders outgoing incoming settles receipt

/-- Nothing was sent yet, and there are no vouchers. -/
theorem start (pending : ∀ here parcel, ¬before.pending here parcel)
    (incoming : ∀ here cls token, before.incoming here cls token = none)
    (holders : ∀ {here channel ends cls token}, net.peer here channel = some ends →
      before.holder here (net.voucher here channel cls) token = none) :
    net.Backing before where
  opened := fun waiting => absurd waiting (pending _ _)
  held := fun holds => absurd holds.1 (pending _ _)
  once := fun holds => absurd holds.1 (pending _ _)
  backed := fun open_ present => absurd (holders open_) present
  came := by simp [incoming]
  noted := fun open_ present => absurd (holders open_) present

end Backing

/-! ## One place -/

/-- Somebody can use the token. -/
def Live (state : VoucherState ι χ κ τ π) (token : τ) (place : ι × κ) : Prop :=
  state.holder place.1 place.2 token = some .user

/-- What the first class stands for. -/
def StandsFor (place origin : ι × κ) : Prop :=
  ∃ channel far, net.peer place.1 channel = some (origin.1, far) ∧
    place.2 = net.voucher place.1 channel origin.2

namespace Backing

variable {net} {before : VoucherState ι χ κ τ π} {channel far : χ} {token : τ}

/-- A voucher that can be used, or is locked for others that can, is backed. -/
theorem backs_of_standsFor (backing : net.Backing before)
    {place : ι × κ} {origin : ι × κ} (opened : net.peer place.1 channel = some (origin.1, far))
    (voucher : place.2 = net.voucher place.1 channel origin.2)
    (secure : Live before token place ∨ ∃ far, net.Backs before place.1 place.2 token far) :
    net.Backs before origin.1 origin.2 token far := by
  have present : before.holder place.1 place.2 token ≠ none := by
    rcases secure with live | ⟨_, backs⟩
    · rw [live]
      simp
    · rw [backs.held]
      simp
  rw [voucher] at present
  rcases backing.backed opened present with backs | returning
  · exact backs
  · exfalso
    rcases secure with live | ⟨_, backs⟩
    · have held := returning.held
      rw [← voucher, live] at held
      cases held
    · rcases returning.holding with ⟨parcel, holds, sameCls, sameToken, -, -⟩
      exact backs.released parcel holds (sameCls.trans voucher.symm) sameToken

end Backing

section Places

variable {net} {before : VoucherState ι χ κ τ π} {token : τ} {P : ι × κ → Prop}

/-- What a place stands for is locked, over any number of channels, if it is locked over
one. -/
theorem secure_of_passed
    (passed : ∀ {place origin : ι × κ} {channel far},
      net.peer place.1 channel = some (origin.1, far) →
      place.2 = net.voucher place.1 channel origin.2 →
      (P place ∨ ∃ far, net.Backs before place.1 place.2 token far) →
      net.Backs before origin.1 origin.2 token far)
    {place origin : ι × κ} (found : P place)
    (reaches : Relation.ReflTransGen net.StandsFor place origin) :
    P origin ∨ ∃ far, net.Backs before origin.1 origin.2 token far := by
  induction reaches with
  | refl => exact .inl found
  | tail _ hop secure =>
      rcases hop with ⟨channel, far, opened, voucher⟩
      exact .inr ⟨far, passed opened voucher secure⟩

/-- A token is found in one place only, if it is not locked where it is found. -/
theorem unique_of_passed
    (unlocked : ∀ {place : ι × κ} {far}, P place →
      ¬net.Backs before place.1 place.2 token far)
    (passed : ∀ {place origin : ι × κ} {channel far},
      net.peer place.1 channel = some (origin.1, far) →
      place.2 = net.voucher place.1 channel origin.2 →
      (P place ∨ ∃ far, net.Backs before place.1 place.2 token far) →
      net.Backs before origin.1 origin.2 token far)
    {place other origin : ι × κ} (found : P place) (otherFound : P other)
    (reaches : Relation.ReflTransGen net.StandsFor place origin)
    (otherReaches : Relation.ReflTransGen net.StandsFor other origin) : place = other := by
  induction reaches with
  | refl =>
      cases otherReaches with
      | refl => rfl
      | tail way hop =>
          rcases hop with ⟨channel, far, opened, voucher⟩
          exact absurd (passed opened voucher (secure_of_passed passed otherFound way))
            (unlocked found)
  | tail way hop ih =>
      rcases hop with ⟨channel, far, opened, voucher⟩
      have backs := passed opened voucher (secure_of_passed passed found way)
      cases otherReaches with
      | refl => exact absurd backs (unlocked otherFound)
      | tail otherWay otherHop =>
          rcases otherHop with ⟨otherChannel, otherFar, otherOpened, otherVoucher⟩
          have otherBacks := passed otherOpened otherVoucher
            (secure_of_passed passed otherFound otherWay)
          have sameFar : otherFar = far := by
            have sent := otherBacks.sent
            rw [backs.sent] at sent
            cases sent
            rfl
          subst sameFar
          have sameEnd := (net.peer_symm otherOpened).symm.trans (net.peer_symm opened)
          apply ih
          rename_i middle _ otherMiddle
          simp only [Option.some.injEq, Prod.mk.injEq] at sameEnd
          have same : otherMiddle = middle := by
            apply Prod.ext sameEnd.1
            rw [otherVoucher, voucher, sameEnd.1, sameEnd.2]
          rw [← same]
          exact otherWay

end Places

namespace Backing

variable {net} {before : VoucherState ι χ κ τ π} {token : τ}

/-- What a live voucher stands for is locked for it, over any number of channels. -/
theorem secure_of_reaches (backing : net.Backing before) {place origin : ι × κ}
    (live : Live before token place)
    (reaches : Relation.ReflTransGen net.StandsFor place origin) :
    Live before token origin ∨ ∃ far, net.Backs before origin.1 origin.2 token far :=
  secure_of_passed (fun opened voucher => backing.backs_of_standsFor opened voucher) live
    reaches

/-- Of a token and all that stands for it, at most one can be used. -/
theorem live_unique (backing : net.Backing before) {place other origin : ι × κ}
    (live : Live before token place) (otherLive : Live before token other)
    (reaches : Relation.ReflTransGen net.StandsFor place origin)
    (otherReaches : Relation.ReflTransGen net.StandsFor other origin) : place = other := by
  -- A live token is not locked.
  have unlocked : ∀ {place : ι × κ} {far}, Live before token place →
      ¬net.Backs before place.1 place.2 token far := by
    intro place far live backs
    have held := backs.held
    rw [live] at held
    cases held
  exact unique_of_passed unlocked
    (fun opened voucher => backing.backs_of_standsFor opened voucher) live otherLive reaches
    otherReaches

end Backing

end VoucherNet

end Ics721.Library
