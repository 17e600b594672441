import BillDesk.Bill.Basic
import BillDesk.Currency

/-!
# The balance

Sums of the bills in which the local peer is involved. Each bill counts once, for the first role
that the peer has on it in the order drawee, drawer, payee or endorsee. Sums stop at the largest
amount instead of wrapping around.

Results: `toNat_addCapped` (the capped sum is the exact sum, or the largest amount).
-/

namespace BillDesk

/-- The sum of two amounts, or the largest amount when the sum exceeds it. -/
def addCapped (a b : UInt64) : UInt64 :=
  if a.toNat + b.toNat < UInt64.size then a + b else UInt64.ofNat (UInt64.size - 1)

theorem toNat_addCapped (a b : UInt64) :
    (addCapped a b).toNat = min (UInt64.size - 1) (a.toNat + b.toNat) := by
  unfold addCapped
  split
  · rename_i h
    rw [UInt64.toNat_add]
    simp only [UInt64.size] at h ⊢
    omega
  · rename_i h
    simp only [UInt64.size] at h ⊢
    simp
    omega

structure Balance where
  /-- Bills that the peer holds. -/
  held : UInt64 := 0
  /-- Bills that the peer has to pay. -/
  owed : UInt64 := 0
  /-- Bills that the peer has drawn. -/
  drawn : UInt64 := 0
  currency : String := Currency.sat
  deriving DecidableEq

namespace Balance

/-- The balance with the sums of one more bill. -/
def add (peer : PeerId) (t : Balance) (b : Bill) : Balance :=
  if b.hasRole .drawee peer then { t with owed := addCapped t.owed b.amount }
  else if b.hasRole .drawer peer then { t with drawn := addCapped t.drawn b.amount }
  else if b.hasRole .payee peer || b.hasRole .endorsee peer then
    { t with held := addCapped t.held b.amount }
  else t

/-- The balance of a list of bills, in the currency of the last one. -/
def ofBills (bills : List Bill) (peer : PeerId) : Balance :=
  let sums := bills.foldl (add peer) {}
  { sums with currency := (bills.getLast?.map Bill.currency).getD sums.currency }

open Json in
def write (t : Balance) : Value := .record [
  ("bill", Codec.write t.held),
  ("iou", Codec.write t.owed),
  ("endorsed", Codec.write t.drawn),
  ("currency", Codec.write t.currency)]

end Balance

end BillDesk
