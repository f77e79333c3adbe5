import Mathlib.Init

/-!
# Networks that lock tokens and issue vouchers

Chains are joined by channels.  A token that is sent over a channel is locked where it
was, and a voucher for it is issued at the other end; sending the voucher back over the
channel it came on releases what it stands for.  Parcels travel in any order, may be
refused, and whether a parcel arrived is learned later than its arrival has effects.
-/

namespace Ics721.Library

/-- Channels between chains, the classes of vouchers and the contents of parcels.
`voucher here channel cls` is the class on `here` of what stands for tokens of class `cls`
that arrived over `channel`. -/
structure VoucherNet (ι χ κ τ π : Type) where
  peer : ι → χ → Option (ι × χ)
  peer_symm : ∀ {here channel there far}, peer here channel = some (there, far) →
    peer there far = some (here, channel)
  peer_ne : ∀ {here channel there far}, peer here channel = some (there, far) → there ≠ here
  voucher : ι → χ → κ → κ
  voucher_inj : ∀ {here channel other ends otherEnds cls otherCls},
    peer here channel = some ends → peer here other = some otherEnds →
    voucher here channel cls = voucher here other otherCls → channel = other ∧ cls = otherCls
  channel : π → χ
  cls : π → κ
  token : π → τ

/-- Who holds a token. -/
inductive Holder where
  | escrow
  | user
  deriving DecidableEq, Repr

/-- The state of a network.  `pending` are the parcels a chain has sent and not settled,
`receipt` says of each of them whether it arrived and was accepted. -/
structure VoucherState (ι χ κ τ π : Type) where
  holder : ι → κ → τ → Option Holder
  outgoing : ι → κ → τ → Option χ
  incoming : ι → κ → τ → Option χ
  pending : ι → π → Prop
  receipt : ι → π → Option Bool

namespace VoucherNet

variable {ι χ κ τ π : Type} (net : VoucherNet ι χ κ τ π)

/-! ## Steps -/

/-- A token that a step is not about: it stays in escrow if it is there, and no voucher
appears. -/
def Undisturbed (before after : VoucherState ι χ κ τ π) (here : ι) (cls : κ) (token : τ) :
    Prop :=
  (before.holder here cls token = some .escrow → after.holder here cls token = some .escrow) ∧
    ∀ channel ends source, net.peer here channel = some ends →
      cls = net.voucher here channel source → before.holder here cls token = none →
      after.holder here cls token = none

/-- Two maps agree except at one token. -/
def SameBut {β : Type} (here : ι) (cls : κ) (token : τ) (before after : ι → κ → τ → β) : Prop :=
  ∀ other otherCls otherToken, ¬(other = here ∧ otherCls = cls ∧ otherToken = token) →
    after other otherCls otherToken = before other otherCls otherToken

/-- All tokens but one are undisturbed. -/
def UndisturbedBut (here : ι) (cls : κ) (token : τ) (before after : VoucherState ι χ κ τ π) :
    Prop :=
  ∀ other otherCls otherToken, ¬(other = here ∧ otherCls = cls ∧ otherToken = token) →
    net.Undisturbed before after other otherCls otherToken

/-- One more receipt. -/
def Receipts (here : ι) (parcel : π) (accepted : Bool)
    (before after : VoucherState ι χ κ τ π) : Prop :=
  after.receipt here parcel = some accepted ∧
    ∀ other otherParcel, ¬(other = here ∧ otherParcel = parcel) →
      after.receipt other otherParcel = before.receipt other otherParcel

/-- One pending parcel less. -/
def Settles (here : ι) (parcel : π) (before after : VoucherState ι χ κ τ π) : Prop :=
  ∀ other otherParcel, after.pending other otherParcel ↔
    before.pending other otherParcel ∧ ¬(other = here ∧ otherParcel = parcel)

/-- What can happen in a network. -/
inductive Step (before after : VoucherState ι χ κ τ π) : Prop where
  | idle (holders : ∀ here cls token, net.Undisturbed before after here cls token)
      (outgoing : after.outgoing = before.outgoing)
      (incoming : after.incoming = before.incoming)
      (pending : after.pending = before.pending) (receipt : after.receipt = before.receipt)
  | send {here : ι} {parcel : π} {ends : ι × χ}
      (opened : net.peer here (net.channel parcel) = some ends)
      (free : before.holder here (net.cls parcel) (net.token parcel) ≠ some .escrow)
      (known : ∀ channel ends source, net.peer here channel = some ends →
        net.cls parcel = net.voucher here channel source →
        before.holder here (net.cls parcel) (net.token parcel) ≠ none)
      (locked : after.holder here (net.cls parcel) (net.token parcel) = some .escrow)
      (holders : net.UndisturbedBut here (net.cls parcel) (net.token parcel) before after)
      (sent : after.outgoing here (net.cls parcel) (net.token parcel) =
        some (net.channel parcel))
      (outgoing : SameBut here (net.cls parcel) (net.token parcel) before.outgoing
        after.outgoing)
      (incoming : after.incoming = before.incoming)
      (pending : ∀ other otherParcel, after.pending other otherParcel ↔
        before.pending other otherParcel ∨ (other = here ∧ otherParcel = parcel))
      (receipt : after.receipt = before.receipt)
  | redeem {here there : ι} {parcel : π} {far : χ} {source : κ}
      (waiting : before.pending here parcel) (unreceived : before.receipt here parcel = none)
      (opened : net.peer here (net.channel parcel) = some (there, far))
      (returns : net.cls parcel = net.voucher here (net.channel parcel) source)
      (holders : net.UndisturbedBut there source (net.token parcel) before after)
      (outgoing : SameBut there source (net.token parcel) before.outgoing after.outgoing)
      (incoming : after.incoming = before.incoming)
      (pending : after.pending = before.pending) (receipts : Receipts here parcel true before after)
  | create {here there : ι} {parcel : π} {far : χ}
      (waiting : before.pending here parcel) (unreceived : before.receipt here parcel = none)
      (opened : net.peer here (net.channel parcel) = some (there, far))
      (staying : ∀ source, net.cls parcel = net.voucher here (net.channel parcel) source →
        before.outgoing there source (net.token parcel) ≠ some far)
      (unused : before.holder there (net.voucher there far (net.cls parcel))
        (net.token parcel) = none)
      (holders : net.UndisturbedBut there (net.voucher there far (net.cls parcel))
        (net.token parcel) before after)
      (outgoing : after.outgoing = before.outgoing)
      (entered : after.incoming there (net.voucher there far (net.cls parcel))
        (net.token parcel) = some far)
      (incoming : SameBut there (net.voucher there far (net.cls parcel)) (net.token parcel)
        before.incoming after.incoming)
      (pending : after.pending = before.pending) (receipts : Receipts here parcel true before after)
  | refuse {here there : ι} {parcel : π} {far : χ}
      (unreceived : before.receipt here parcel = none)
      (opened : net.peer here (net.channel parcel) = some (there, far))
      (holders : ∀ here cls token, net.Undisturbed before after here cls token)
      (outgoing : after.outgoing = before.outgoing)
      (entered : after.incoming = before.incoming ∨
        after.incoming there (net.voucher there far (net.cls parcel)) (net.token parcel) =
          some far ∧
        SameBut there (net.voucher there far (net.cls parcel)) (net.token parcel)
          before.incoming after.incoming)
      (pending : after.pending = before.pending)
      (receipts : Receipts here parcel false before after)
  | refund {here : ι} {parcel : π}
      (waiting : before.pending here parcel) (failed : before.receipt here parcel ≠ some true)
      (holders : net.UndisturbedBut here (net.cls parcel) (net.token parcel) before after)
      (outgoing : SameBut here (net.cls parcel) (net.token parcel) before.outgoing
        after.outgoing)
      (incoming : after.incoming = before.incoming)
      (settles : Settles here parcel before after) (receipt : after.receipt = before.receipt)
  | burn {here : ι} {parcel : π} (waiting : before.pending here parcel)
      (came : before.incoming here (net.cls parcel) (net.token parcel) =
        some (net.channel parcel))
      (gone : after.holder here (net.cls parcel) (net.token parcel) = none)
      (holders : net.UndisturbedBut here (net.cls parcel) (net.token parcel) before after)
      (outgoing : after.outgoing = before.outgoing)
      (forgotten : after.incoming here (net.cls parcel) (net.token parcel) = none)
      (incoming : SameBut here (net.cls parcel) (net.token parcel) before.incoming
        after.incoming)
      (settles : Settles here parcel before after) (receipt : after.receipt = before.receipt)
  | settle {here : ι} {parcel : π}
      (waiting : before.pending here parcel) (arrived : before.receipt here parcel = some true)
      (stays : before.incoming here (net.cls parcel) (net.token parcel) ≠
        some (net.channel parcel))
      (holders : ∀ here cls token, net.Undisturbed before after here cls token)
      (outgoing : after.outgoing = before.outgoing)
      (incoming : after.incoming = before.incoming)
      (settles : Settles here parcel before after) (receipt : after.receipt = before.receipt)

end VoucherNet

end Ics721.Library
