import Ics721.Library.Conserved

/-!
# Vouchers copy what they stand for

What a token contains stays what it is for as long as the token is there.  A parcel carries a
copy of it, and a voucher that is issued contains what its parcel carries.  Then a voucher
contains what the token contains that it stands for, over any number of channels, and so does
every parcel on the road.
-/

namespace Ics721.Library

namespace VoucherNet

variable {ι χ κ τ π γ : Type} (net : VoucherNet ι χ κ τ π) (carried : π → Option γ)

/-! ## Contents -/

/-- What a step does to the contents of tokens: they are written when a voucher is issued, and
read when a parcel is sent. -/
structure Copying (before after : VoucherState ι χ κ τ π) (content later : ι → κ → τ → Option γ) :
    Prop where
  present : ∀ {here cls token}, later here cls token = none ↔ after.holder here cls token = none
  kept : ∀ {here cls token old new}, content here cls token = some old →
    later here cls token = some new → new = old
  sent : ∀ {here parcel}, after.pending here parcel → ¬before.pending here parcel →
    later here (net.cls parcel) (net.token parcel) = carried parcel
  issued : ∀ {here there parcel far}, before.receipt here parcel = none →
    after.receipt here parcel = some true →
    net.peer here (net.channel parcel) = some (there, far) →
    before.holder there (net.voucher there far (net.cls parcel)) (net.token parcel) = none →
    after.holder there (net.voucher there far (net.cls parcel)) (net.token parcel) ≠ none →
    later there (net.voucher there far (net.cls parcel)) (net.token parcel) = carried parcel

/-- Parcels carry what their tokens contain, and so do the vouchers that were not given back. -/
structure Copied (state : VoucherState ι χ κ τ π) (content : ι → κ → τ → Option γ) : Prop where
  present : ∀ {here cls token}, content here cls token = none ↔ state.holder here cls token = none
  parcels : ∀ {here parcel}, net.Holding state here parcel →
    content here (net.cls parcel) (net.token parcel) = carried parcel
  vouchers : ∀ {here channel there far cls token}, net.peer here channel = some (there, far) →
    state.holder here (net.voucher here channel cls) token ≠ none →
    ¬net.Returning state here (net.voucher here channel cls) token channel →
    content here (net.voucher here channel cls) token = content there cls token

variable {net} {carried} {before after : VoucherState ι χ κ τ π}
variable {content later : ι → κ → τ → Option γ} {here there : ι} {parcel : π}
variable {channel far : χ} {cls : κ} {token : τ}

/-- The content of a token that was there and is there still. -/
theorem Copying.same (copying : net.Copying carried before after content later)
    (copied : net.Copied carried before content) (present : before.holder here cls token ≠ none)
    (still : after.holder here cls token ≠ none) :
    later here cls token = content here cls token := by
  rcases Option.ne_none_iff_exists'.mp (mt copied.present.mp present) with ⟨old, read⟩
  rcases Option.ne_none_iff_exists'.mp (mt copying.present.mp still) with ⟨new, readLater⟩
  rw [read, readLater, copying.kept read readLater]

/-! ## Steps -/

/-- A receipt is final. -/
theorem Step.receipt_kept (stepped : net.Step before after)
    (arrived : before.receipt here parcel = some true) :
    after.receipt here parcel = some true := by
  have delivered : ∀ {origin other accepted}, before.receipt origin other = none →
      Receipts origin other accepted before after → after.receipt here parcel = some true := by
    intro origin other accepted unreceived receipts
    rw [receipts.2 here parcel ?_]
    · exact arrived
    · rintro ⟨rfl, rfl⟩
      rw [arrived] at unreceived
      cases unreceived
  cases stepped with
  | idle _ _ _ _ receipt => rw [receipt, arrived]
  | send _ _ _ _ _ _ _ _ _ receipt => rw [receipt, arrived]
  | redeem _ unreceived _ _ _ _ _ _ receipts => exact delivered unreceived receipts
  | create _ unreceived _ _ _ _ _ _ _ _ receipts => exact delivered unreceived receipts
  | refuse unreceived _ _ _ _ _ receipts => exact delivered unreceived receipts
  | refund _ _ _ _ _ _ receipt => rw [receipt, arrived]
  | burn _ _ _ _ _ _ _ _ receipt => rw [receipt, arrived]
  | settle _ _ _ _ _ _ _ receipt => rw [receipt, arrived]

/-- A parcel that was sent before and holds its token held it before. -/
theorem Step.holding_before (stepped : net.Step before after)
    (holds : net.Holding after here parcel) (pending : before.pending here parcel) :
    net.Holding before here parcel := by
  refine ⟨pending, holds.2.imp_left ?_⟩
  intro failed arrived
  exact failed (stepped.receipt_kept arrived)

/-- A voucher that appears was issued for a parcel. -/
theorem Step.appeared {ends : ι × χ} (backing : net.Backing before)
    (stepped : net.Step before after) (opened : net.peer here channel = some ends)
    (absent : before.holder here (net.voucher here channel cls) token = none)
    (present : after.holder here (net.voucher here channel cls) token ≠ none) :
    ∃ parcel, before.pending ends.1 parcel ∧ before.receipt ends.1 parcel = none ∧
      after.receipt ends.1 parcel = some true ∧ net.channel parcel = ends.2 ∧
      net.cls parcel = cls ∧ net.token parcel = token := by
  have untouched : ¬net.Undisturbed before after here (net.voucher here channel cls) token :=
    fun undisturbed => present (undisturbed.2 channel ends cls opened rfl absent)
  have site : ∀ {other otherCls otherToken},
      net.UndisturbedBut other otherCls otherToken before after →
      here = other ∧ net.voucher here channel cls = otherCls ∧ token = otherToken := by
    intro other otherCls otherToken undisturbed
    by_contra different
    exact untouched (undisturbed _ _ _ different)
  -- Only a creation is about a voucher that is not there.
  cases stepped with
  | idle holders => exact absurd (holders _ _ _) untouched
  | send _ _ known _ holders =>
      rcases site holders with ⟨rfl, same, rfl⟩
      rw [same] at absent
      exact absurd absent (known channel ends cls opened same.symm)
  | redeem waiting unreceived sentOver returns holders =>
      rcases site holders with ⟨rfl, same, rfl⟩
      have backs := backing.returning_backed waiting (by simp [unreceived]) sentOver returns
      rw [same, backs.held] at absent
      cases absent
  | create waiting unreceived sentOver _ _ holders _ _ _ _ receipts =>
      rcases site holders with ⟨rfl, same, rfl⟩
      have back := net.peer_symm sentOver
      rcases net.voucher_inj opened back same with ⟨rfl, rfl⟩
      rw [back] at opened
      cases opened
      exact ⟨_, waiting, unreceived, receipts.1, rfl, rfl, rfl⟩
  | refuse _ _ holders => exact absurd (holders _ _ _) untouched
  | refund waiting failed holders =>
      rcases site holders with ⟨rfl, same, rfl⟩
      rw [same, (backing.held ⟨waiting, .inl failed⟩).1] at absent
      cases absent
  | burn _ _ gone holders =>
      rcases site holders with ⟨rfl, same, rfl⟩
      rw [same] at present
      exact absurd gone present
  | settle _ _ _ holders => exact absurd (holders _ _ _) untouched

/-- A voucher that was given back is back until it is destroyed. -/
theorem Returning.step (backing : net.Backing before) (backingAfter : net.Backing after)
    (stepped : net.Step before after)
    (returning : net.Returning before here (net.voucher here channel cls) token channel)
    (present : after.holder here (net.voucher here channel cls) token ≠ none) :
    net.Returning after here (net.voucher here channel cls) token channel := by
  rcases returning.holding with ⟨parcel, holds, sameCls, sameToken, sameChannel, arrived⟩
  have returns : net.cls parcel = net.voucher here (net.channel parcel) cls := by
    rw [sameCls, sameChannel]
  have pending : after.pending here parcel := by
    by_contra settled
    have gone := stepped.destroyed backing holds.1 arrived returns settled
    rw [sameCls, sameToken] at gone
    exact present gone
  have held := (backingAfter.held ⟨pending, .inr ⟨cls, returns⟩⟩).1
  rw [sameCls, sameToken] at held
  exact ⟨held, parcel, pending, sameCls, sameToken, sameChannel, stepped.receipt_kept arrived⟩

/-- What is copied once is copied for good. -/
theorem Copied.step (copied : net.Copied carried before content) (backing : net.Backing before)
    (backingAfter : net.Backing after) (stepped : net.Step before after)
    (copying : net.Copying carried before after content later) :
    net.Copied carried after later where
  present := copying.present
  parcels := by
    intro here parcel holds
    by_cases pending : before.pending here parcel
    · have earlier := stepped.holding_before holds pending
      have held := (backing.held earlier).1
      have heldAfter := (backingAfter.held holds).1
      rw [copying.same copied (by simp [held]) (by simp [heldAfter]), copied.parcels earlier]
    · exact copying.sent holds.1 pending
  vouchers := by
    intro here channel there far cls token opened present out
    have backs : net.Backs after there cls token far := by
      rcases backingAfter.backed opened present with backs | returning
      · exact backs
      · exact absurd returning out
    have locked : after.holder there cls token ≠ none := by simp [backs.held]
    by_cases absent : before.holder here (net.voucher here channel cls) token = none
    · -- The voucher is new.
      rcases stepped.appeared backing opened absent present with
        ⟨parcel, pending, unreceived, arrived, rfl, rfl, rfl⟩
      have holds : net.Holding before there parcel := ⟨pending, .inl (by simp [unreceived])⟩
      have held := (backing.held holds).1
      rw [copying.issued unreceived arrived (net.peer_symm opened) absent present,
        copying.same copied (by simp [held]) locked, copied.parcels holds]
    · have outBefore : ¬net.Returning before here (net.voucher here channel cls) token
          channel := fun returning => out (returning.step backing backingAfter stepped present)
      have backsBefore : net.Backs before there cls token far := by
        rcases backing.backed opened absent with backs | returning
        · exact backs
        · exact absurd returning outBefore
      rw [copying.same copied absent present,
        copying.same copied (by simp [backsBefore.held]) locked,
        copied.vouchers opened absent outBefore]

/-! ## Over any number of channels -/

/-- What was not given back contains what it stands for. -/
theorem Copied.of_standsFor (copied : net.Copied carried before content)
    {place origin : ι × κ} (present : before.holder place.1 place.2 token ≠ none)
    (out : net.Out before token place) (stands : net.StandsFor place origin) :
    content place.1 place.2 token = content origin.1 origin.2 token := by
  rcases stands with ⟨channel, far, opened, voucher⟩
  have out := out channel _ origin.2 opened voucher
  rw [voucher] at present out ⊢
  exact copied.vouchers opened present out

/-- What can be used or is on the road was not given back. -/
theorem Located.isOut (backing : net.Backing before) {place : ι × κ}
    (located : net.Located before token place) : net.Out before token place := by
  intro channel ends source opened voucher returning
  rcases located with live | ⟨parcel, pending, failed, sameCls, sameToken⟩
  · have held := returning.held
    rw [live] at held
    cases held
  · rw [voucher] at returning
    rcases returning.holding with ⟨other, holding, otherCls, otherToken, -, accepted⟩
    have same : parcel = other := by
      apply backing.once ⟨pending, .inl failed⟩ holding
      · rw [sameCls, otherCls, voucher]
      · rw [sameToken, otherToken]
    rw [same] at failed
    exact failed accepted

theorem Located.present (backing : net.Backing before) {place : ι × κ}
    (located : net.Located before token place) : before.holder place.1 place.2 token ≠ none := by
  rcases located with live | ⟨parcel, pending, failed, sameCls, sameToken⟩
  · rw [live]
    simp
  · have held := (backing.held ⟨pending, .inl failed⟩).1
    rw [sameCls, sameToken] at held
    simp [held]

/-- A token that is locked and held by no parcel was not given back. -/
theorem Backs.isOut {place : ι × κ} (backs : net.Backs before place.1 place.2 token far) :
    net.Out before token place := by
  intro channel ends source opened voucher returning
  rw [voucher] at returning backs
  rcases returning.holding with ⟨parcel, holds, sameCls, sameToken, -, -⟩
  exact backs.released parcel holds sameCls sameToken

/-- A token that can be used or is on the road contains what it stands for, over any number of
channels. -/
theorem Copied.of_reaches (copied : net.Copied carried before content)
    (backing : net.Backing before) {place origin : ι × κ}
    (located : net.Located before token place)
    (reaches : Relation.ReflTransGen net.StandsFor place origin) :
    content place.1 place.2 token = content origin.1 origin.2 token := by
  induction reaches with
  | refl => rfl
  | tail way stands ih =>
      rw [ih]
      rcases secure_of_passed (fun opened voucher => backing.backs_of_located opened voucher)
        located way with found | ⟨far, backs⟩
      · exact copied.of_standsFor (found.present backing) (found.isOut backing) stands
      · exact copied.of_standsFor (by simp [backs.held]) backs.isOut stands

/-- Before anything is sent there is nothing to copy. -/
theorem Copied.start (pending : ∀ here parcel, ¬before.pending here parcel)
    (present : ∀ here cls token, content here cls token = none ↔
      before.holder here cls token = none)
    (holders : ∀ here channel ends cls token, net.peer here channel = some ends →
      before.holder here (net.voucher here channel cls) token = none) :
    net.Copied carried before content where
  present := present _ _ _
  parcels holds := absurd holds.1 (pending _ _)
  vouchers opened present_ := absurd (holders _ _ _ _ _ opened) present_

end VoucherNet

end Ics721.Library
