import BillDesk.Balance
import BillDesk.Portfolio
import Mathlib.Algebra.Order.BigOperators.Group.List
import Mathlib.Algebra.Order.Ring.Nat

/-!
# The sums of a balance

Each bill falls into one of four classes for a peer: it is owed, drawn or held, or it does not
count. The first role that the peer has on it decides, in the order drawee, drawer, payee, endorsee.
The sums are added up bill by bill and stop at the largest amount. That is the same as adding up
exactly and stopping once at the end, so it makes no difference where the sums overflow, or in which
order the bills come.

Results:
1. `share?_eq_some_owed_iff`, `share?_eq_some_drawn_iff`, `share?_eq_some_held_iff` and
   `share?_eq_none_iff`: the four classes by the roles of the peer.
2. `toNat_cappedTotal`: a capped sum is the exact one, or the largest amount.
3. `sum_ofBills`: each sum of a balance is the capped sum of its class.
4. `sums_are_exact_up_to_cap`: what follows for reordered, joined and longer lists.
-/

namespace BillDesk

/-! ## Capped sums -/

/-- The amounts added up one after the other, stopping at the largest amount. -/
def cappedTotal (amounts : List UInt64) : UInt64 := amounts.foldl addCapped 0

theorem toNat_foldl_addCapped (a : UInt64) (amounts : List UInt64) :
    (amounts.foldl addCapped a).toNat =
      min (UInt64.size - 1) (a.toNat + (amounts.map UInt64.toNat).sum) := by
  induction amounts generalizing a with
  | nil =>
    have hlt : a.toNat < UInt64.size := a.toNat_lt
    rw [List.foldl_nil, List.map_nil, List.sum_nil]
    omega
  | cons b amounts ih =>
    rw [List.foldl_cons, ih, toNat_addCapped, List.map_cons, List.sum_cons]
    omega

theorem toNat_cappedTotal (amounts : List UInt64) :
    (cappedTotal amounts).toNat = min (UInt64.size - 1) (amounts.map UInt64.toNat).sum := by
  rw [cappedTotal, toNat_foldl_addCapped, UInt64.toNat_zero, Nat.zero_add]

theorem cappedTotal_eq_of_perm {xs ys : List UInt64} (h : xs.Perm ys) :
    cappedTotal xs = cappedTotal ys := by
  rw [← UInt64.toNat_inj, toNat_cappedTotal, toNat_cappedTotal, (h.map UInt64.toNat).sum_eq]

theorem cappedTotal_append (xs ys : List UInt64) :
    cappedTotal (xs ++ ys) = addCapped (cappedTotal xs) (cappedTotal ys) := by
  rw [← UInt64.toNat_inj, toNat_addCapped, toNat_cappedTotal, toNat_cappedTotal, toNat_cappedTotal,
    List.map_append, List.sum_append]
  omega

theorem cappedTotal_le_of_sublist {xs ys : List UInt64} (h : xs.Sublist ys) :
    cappedTotal xs ≤ cappedTotal ys := by
  have hsum := (h.map UInt64.toNat).sum_le_sum (by simp)
  rw [UInt64.le_iff_toNat_le, toNat_cappedTotal, toNat_cappedTotal]
  omega

/-! ## What a bill counts as -/

/-- What a bill counts as in a balance. -/
inductive Share where
  | owed
  | drawn
  | held
  deriving DecidableEq

/-- The roles that make a bill count, the first one deciding, and what it counts as by them. -/
def Share.ranking : List (Role × Share) :=
  [(.drawee, .owed), (.drawer, .drawn), (.payee, .held), (.endorsee, .held)]

namespace Bill

variable {b : Bill} {peer : PeerId}

/-- What the bill counts as for the peer, by the first role that the peer has on it. -/
def share? (b : Bill) (peer : PeerId) : Option Share :=
  (Share.ranking.find? fun p => b.hasRole p.1 peer).map Prod.snd

theorem share?_eq_ite (b : Bill) (peer : PeerId) :
    b.share? peer =
      if b.hasRole .drawee peer then some .owed
      else if b.hasRole .drawer peer then some .drawn
      else if b.hasRole .payee peer || b.hasRole .endorsee peer then some .held
      else none := by
  unfold share? Share.ranking
  simp only [List.find?_cons, List.find?_nil]
  cases b.hasRole .drawee peer <;> cases b.hasRole .drawer peer <;>
    cases b.hasRole .payee peer <;> cases b.hasRole .endorsee peer <;> rfl

theorem share?_eq_some_owed_iff :
    b.share? peer = some .owed ↔ b.hasRole .drawee peer = true := by
  grind [share?_eq_ite]

theorem share?_eq_some_drawn_iff :
    b.share? peer = some .drawn ↔
      b.hasRole .drawee peer = false ∧ b.hasRole .drawer peer = true := by
  grind [share?_eq_ite]

theorem share?_eq_some_held_iff :
    b.share? peer = some .held ↔
      b.hasRole .drawee peer = false ∧ b.hasRole .drawer peer = false ∧
        (b.hasRole .payee peer = true ∨ b.hasRole .endorsee peer = true) := by
  grind [share?_eq_ite]

theorem share?_eq_none_iff :
    b.share? peer = none ↔
      b.hasRole .drawee peer = false ∧ b.hasRole .drawer peer = false ∧
        b.hasRole .payee peer = false ∧ b.hasRole .endorsee peer = false := by
  grind [share?_eq_ite]

end Bill

/-! ## The sums -/

namespace Balance

variable {bills : List Bill} {peer : PeerId} {x : Share}

/-- The sum of the bills that count as the given share. -/
def sum (t : Balance) : Share → UInt64
  | .owed => t.owed
  | .drawn => t.drawn
  | .held => t.held

/-- The bills of the list that count as the given share. -/
def counted (bills : List Bill) (peer : PeerId) (x : Share) : List Bill :=
  bills.filter fun b => b.share? peer = some x

theorem sum_add (t : Balance) (b : Bill) :
    (add peer t b).sum x =
      if b.share? peer = some x then addCapped (t.sum x) b.amount else t.sum x := by
  rw [Bill.share?_eq_ite, add]
  cases x <;> grind [sum]

theorem sum_foldl_add (t : Balance) :
    (bills.foldl (add peer) t).sum x =
      ((counted bills peer x).map Bill.amount).foldl addCapped (t.sum x) := by
  induction bills generalizing t with
  | nil => rfl
  | cons b bills ih =>
    rw [List.foldl_cons, ih, sum_add, counted, counted, List.filter_cons]
    by_cases h : b.share? peer = some x <;> simp [h]

theorem sum_ofBills (bills : List Bill) (peer : PeerId) (x : Share) :
    (ofBills bills peer).sum x = cappedTotal ((counted bills peer x).map Bill.amount) := by
  have hstart : ({} : Balance).sum x = 0 := by cases x <;> rfl
  rw [cappedTotal, ← hstart, ← sum_foldl_add]
  cases x <;> rfl

theorem toNat_sum_ofBills :
    ((ofBills bills peer).sum x).toNat =
      min (UInt64.size - 1) ((counted bills peer x).map fun b => b.amount.toNat).sum := by
  rw [sum_ofBills, toNat_cappedTotal, List.map_map]
  rfl

theorem sum_ofBills_eq_of_perm {others : List Bill} (h : others.Perm bills) :
    (ofBills others peer).sum x = (ofBills bills peer).sum x := by
  rw [sum_ofBills, sum_ofBills]
  exact cappedTotal_eq_of_perm ((h.filter _).map _)

theorem sum_ofBills_append (front back : List Bill) :
    (ofBills (front ++ back) peer).sum x =
      addCapped ((ofBills front peer).sum x) ((ofBills back peer).sum x) := by
  rw [sum_ofBills, sum_ofBills, sum_ofBills, ← cappedTotal_append, ← List.map_append, counted,
    List.filter_append]
  rfl

theorem sum_ofBills_le_insert (front back : List Bill) (b : Bill) :
    (ofBills (front ++ back) peer).sum x ≤ (ofBills (front ++ b :: back) peer).sum x := by
  have hsub : (front ++ back).Sublist (front ++ b :: back) :=
    (List.sublist_cons_self b back).append_left front
  rw [sum_ofBills, sum_ofBills]
  exact cappedTotal_le_of_sublist ((hsub.filter _).map _)

theorem counted_owed : counted bills peer .owed = Portfolio.select bills peer .drawee := by
  refine List.filter_congr fun b _ => ?_
  rw [Portfolio.Filter.keeps, Bool.eq_iff_iff, decide_eq_true_iff, Bill.share?_eq_some_owed_iff]

theorem currency_ofBills_concat (b : Bill) :
    (ofBills (bills ++ [b]) peer).currency = b.currency := by
  simp [ofBills]

/-- A bill counts as owed, drawn or held by the first role that the peer has on it, or not at all,
and each sum is the exact sum of its share, or the largest amount. So the order of the bills makes
no difference, the sums of joined lists are the capped sums of the parts, one more bill lowers no
sum, and what is owed is the capped sum of the bills that the filter for drawees keeps. The currency
is the one of the last bill, if there is any. -/
theorem sums_are_exact_up_to_cap (bills : List Bill) (peer : PeerId) :
    (∀ b : Bill,
        (b.share? peer = some .owed ↔ b.hasRole .drawee peer = true) ∧
        (b.share? peer = some .drawn ↔
          b.hasRole .drawee peer = false ∧ b.hasRole .drawer peer = true) ∧
        (b.share? peer = some .held ↔
          b.hasRole .drawee peer = false ∧ b.hasRole .drawer peer = false ∧
            (b.hasRole .payee peer = true ∨ b.hasRole .endorsee peer = true)) ∧
        (b.share? peer = none ↔
          b.hasRole .drawee peer = false ∧ b.hasRole .drawer peer = false ∧
            b.hasRole .payee peer = false ∧ b.hasRole .endorsee peer = false)) ∧
      (∀ x, ((ofBills bills peer).sum x).toNat =
        min (UInt64.size - 1) ((counted bills peer x).map fun b => b.amount.toNat).sum) ∧
      (∀ x others, others.Perm bills →
        (ofBills others peer).sum x = (ofBills bills peer).sum x) ∧
      (∀ x, (ofBills (Portfolio.newestFirst bills) peer).sum x = (ofBills bills peer).sum x) ∧
      (∀ x back, (ofBills (bills ++ back) peer).sum x =
        addCapped ((ofBills bills peer).sum x) ((ofBills back peer).sum x)) ∧
      (∀ x back b,
        (ofBills (bills ++ back) peer).sum x ≤ (ofBills (bills ++ b :: back) peer).sum x) ∧
      (ofBills bills peer).owed =
        cappedTotal ((Portfolio.select bills peer .drawee).map Bill.amount) ∧
      (ofBills [] peer).currency = Currency.sat ∧
      ∀ b, (ofBills (bills ++ [b]) peer).currency = b.currency := by
  refine ⟨fun b => ⟨Bill.share?_eq_some_owed_iff, Bill.share?_eq_some_drawn_iff,
    Bill.share?_eq_some_held_iff, Bill.share?_eq_none_iff⟩, fun _ => toNat_sum_ofBills,
    fun _ _ => sum_ofBills_eq_of_perm,
    fun _ => sum_ofBills_eq_of_perm (Portfolio.newestFirst_perm bills),
    fun _ => sum_ofBills_append bills, fun _ => sum_ofBills_le_insert bills, ?_, rfl,
    fun _ => currency_ofBills_concat _⟩
  rw [← counted_owed]
  exact sum_ofBills bills peer .owed

/-- A bill over the amount that the node "node" has to pay. -/
def payable (amount : UInt64) : Bill := { exampleBill with amount }

/-- Two bills whose sum overflows are listed in the other order, and the sum is the same. -/
theorem sums_are_exact_up_to_cap_overflow :
    [payable 5, payable 18446744073709551615].Perm
        [payable 18446744073709551615, payable 5] ∧
      (ofBills [payable 5, payable 18446744073709551615] ⟨"node"⟩).owed =
        (ofBills [payable 18446744073709551615, payable 5] ⟨"node"⟩).owed ∧
      (ofBills [payable 18446744073709551615, payable 5] ⟨"node"⟩).owed =
        18446744073709551615 := by
  have hperm : [payable 5, payable 18446744073709551615].Perm
      [payable 18446744073709551615, payable 5] := .swap _ _ _
  have hsums := sums_are_exact_up_to_cap [payable 18446744073709551615, payable 5] ⟨"node"⟩
  exact ⟨hperm, hsums.2.2.1 .owed _ hperm, by decide⟩

end Balance

end BillDesk
