import BillDesk.Portfolio
import BillDesk.Proofs.Date.Calendar
import Mathlib.Order.WithBot

/-!
# Bills listed newest first

A list of bills is put in order by comparing two bills at a time, by the days on which they were
issued. The text of a day says little about its order: years may have five digits or a sign, and a
month or a day need not be padded. So the days are compared in the calendar, the other way round,
and a bill whose day of issue cannot be read comes after every bill whose day can. All of this is
one order, that of the days of issue with one more below them for the bills without.

Results:
1. `issueOrder_eq_cmp`: comparing two bills is comparing their days of issue.
2. `issueOrder_self`, `swap_issueOrder`, `issueOrder_trans` and `issueOrder_eq_eq_iff`: the
   comparison is a total preorder, in which bills of one day are equal.
3. `newestFirst_eq_self_iff`: the lists that stay as they are are those in order.
4. `filter_newestFirst`: bills of one day, and bills without, keep their order.
5. `newestFirst_newestFirst`: sorting twice is sorting once.
-/

namespace BillDesk

/-- The day of issue, or less than any day where it cannot be read. -/
def Bill.issued (b : Bill) : WithBot Date := b.issueDate?

namespace Portfolio

variable {a b c : Bill} {bills : List Bill}

/-! ## Two bills -/

/-- How two bills stand in the list: the newer one first, and one whose date cannot be read last. -/
def issueOrder (a b : Bill) : Ordering :=
  match a.issueDate?, b.issueDate? with
  | some x, some y => y.compare x
  | some _, none => .lt
  | none, some _ => .gt
  | none, none => .eq

theorem issueOrder_eq_cmp (a b : Bill) : issueOrder a b = cmp b.issued a.issued := by
  rw [issueOrder, Bill.issued, Bill.issued]
  rcases a.issueDate? with _ | x <;> rcases b.issueDate? with _ | y
  · exact (cmp_self_eq_eq _).symm
  · exact ((cmp_eq_gt_iff _ _).2 (WithBot.bot_lt_coe y)).symm
  · exact ((cmp_eq_lt_iff _ _).2 (WithBot.bot_lt_coe x)).symm
  · exact (Date.compare_eq_cmp y x).trans (WithBot.coe_strictMono.cmp_map_eq y x).symm

theorem issueOrder_self (a : Bill) : issueOrder a a = .eq := by
  rw [issueOrder_eq_cmp, cmp_self_eq_eq]

theorem swap_issueOrder (a b : Bill) : (issueOrder a b).swap = issueOrder b a := by
  rw [issueOrder_eq_cmp, issueOrder_eq_cmp, cmp_swap]

theorem issueOrder_ne_gt_iff : issueOrder a b ≠ .gt ↔ b.issued ≤ a.issued := by
  rw [issueOrder_eq_cmp, Ne, cmp_eq_gt_iff, not_lt]

theorem issueOrder_trans (hab : issueOrder a b ≠ .gt) (hbc : issueOrder b c ≠ .gt) :
    issueOrder a c ≠ .gt := by
  rw [issueOrder_ne_gt_iff] at hab hbc ⊢
  exact hbc.trans hab

theorem issueOrder_eq_eq_iff : issueOrder a b = .eq ↔ a.issueDate? = b.issueDate? := by
  rw [issueOrder_eq_cmp, cmp_eq_eq_iff, eq_comm]
  rfl

/-- A bill may stand before another unless the comparison says that it comes after. -/
theorem mayPrecede_iff : mayPrecede a b = true ↔ issueOrder a b ≠ .gt := by
  rw [mayPrecede, issueOrder]
  rcases a.issueDate? with _ | x <;> rcases b.issueDate? with _ | y
  · simp
  · simp
  · simp
  · simp only [bne_iff_ne, ← Date.swap_compare x y, Ne, Ordering.swap_eq_gt]

theorem mayPrecede_iff_issued_le : mayPrecede a b = true ↔ b.issued ≤ a.issued :=
  mayPrecede_iff.trans issueOrder_ne_gt_iff

/-! ## The list -/

/-- The bills whose day of issue can be read come first, and no bill comes before a newer one. -/
structure IsNewestFirst (bills : List Bill) : Prop where
  datedFirst : bills.Pairwise fun a b => b.issueDate?.isSome → a.issueDate?.isSome
  descending : bills.Pairwise fun a b =>
    ∀ x y, a.issueDate? = some x → b.issueDate? = some y → y ≤ x

theorem issued_le_iff :
    b.issued ≤ a.issued ↔ (b.issueDate?.isSome → a.issueDate?.isSome) ∧
      ∀ x y, a.issueDate? = some x → b.issueDate? = some y → y ≤ x := by
  rw [Bill.issued, Bill.issued]
  rcases a.issueDate? with _ | x <;> rcases b.issueDate? with _ | y
  · exact iff_of_true le_rfl (by simp)
  · exact iff_of_false (WithBot.bot_lt_coe y).not_ge (by simp)
  · exact iff_of_true (WithBot.bot_lt_coe x).le (by simp)
  · exact WithBot.coe_le_coe.trans (by simp)

theorem isNewestFirst_iff :
    IsNewestFirst bills ↔ bills.Pairwise fun a b => mayPrecede a b = true := by
  simp only [mayPrecede_iff_issued_le, issued_le_iff, List.pairwise_and_iff]
  exact ⟨fun h => ⟨h.datedFirst, h.descending⟩, fun h => ⟨h.1, h.2⟩⟩

theorem mayPrecede_trans (a b c : Bill) (hab : mayPrecede a b = true)
    (hbc : mayPrecede b c = true) : mayPrecede a c = true :=
  mayPrecede_iff.2 (issueOrder_trans (mayPrecede_iff.1 hab) (mayPrecede_iff.1 hbc))

theorem mayPrecede_total (a b : Bill) : (mayPrecede a b || mayPrecede b a) = true := by
  rw [Bool.or_eq_true, mayPrecede_iff_issued_le, mayPrecede_iff_issued_le]
  exact le_total _ _

theorem isNewestFirst_newestFirst (bills : List Bill) : IsNewestFirst (newestFirst bills) :=
  isNewestFirst_iff.2 (List.pairwise_mergeSort mayPrecede_trans mayPrecede_total bills)

/-- A list stays as it is exactly when it is in order. -/
theorem newestFirst_eq_self_iff : newestFirst bills = bills ↔ IsNewestFirst bills := by
  constructor
  · intro h
    rw [← h]
    exact isNewestFirst_newestFirst bills
  · intro h
    exact List.mergeSort_of_pairwise (isNewestFirst_iff.1 h)

theorem newestFirst_newestFirst (bills : List Bill) :
    newestFirst (newestFirst bills) = newestFirst bills :=
  newestFirst_eq_self_iff.2 (isNewestFirst_newestFirst bills)

/-- The bills with one date, or those without, stand among themselves as before. -/
theorem filter_newestFirst (date? : Option Date) (bills : List Bill) :
    (newestFirst bills).filter (fun b => b.issueDate? = date?) =
      bills.filter fun b => b.issueDate? = date? := by
  have hpairwise : (bills.filter fun b => b.issueDate? = date?).Pairwise
      fun a b => mayPrecede a b = true := by
    refine List.pairwise_of_forall_mem_list fun a ha b hb => ?_
    have hsame : a.issueDate? = b.issueDate? :=
      (of_decide_eq_true (List.mem_filter.1 ha).2).trans
        (of_decide_eq_true (List.mem_filter.1 hb).2).symm
    rw [mayPrecede_iff, issueOrder_eq_eq_iff.2 hsame]
    decide
  -- Sorting keeps them in this order, and it loses and adds none of them.
  have hsublist := (List.sublist_mergeSort mayPrecede_trans mayPrecede_total hpairwise
    List.filter_sublist).filter fun b => decide (b.issueDate? = date?)
  rw [List.filter_filter] at hsublist
  simp only [Bool.and_self] at hsublist
  exact (hsublist.eq_of_length ((newestFirst_perm bills).filter _).length_eq.symm).symm

end Portfolio

end BillDesk
