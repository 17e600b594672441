import BillDesk.Date.Basic
import Mathlib.Data.Prod.Lex
import Mathlib.Order.Compare

/-!
# Days in the order of the calendar

Days stand in the order of the calendar: by the year, within a year by the month, and within a month
by the day. Two days are in order one way or the other, and in both only if they are the same.

Results:
1. `ofParts?_eq_some_iff` and `ofParts?_eq_none_iff`: which parts make a day, and of which date.
2. `LinearOrder Date`: the order of the calendar.
3. `compare_eq_lt_iff`, `compare_eq_gt_iff` and `compare_ne_gt_iff`: comparing two dates tells how
   they stand in it.
4. `compare_eq_cmp`: it is the comparison that comes with the order.
-/

namespace BillDesk.Date

/-! ## Days and their parts -/

theorem ofParts?_eq_some_iff {year : Int} {month day : Nat} {d : Date} :
    ofParts? year month day = some d ↔ d.year = year ∧ d.month = month ∧ d.day = day := by
  rw [ofParts?]
  split
  · next h =>
    constructor
    · rintro ⟨⟩
      exact ⟨rfl, rfl, rfl⟩
    · rintro ⟨rfl, rfl, rfl⟩
      rfl
  · next h =>
    constructor
    · rintro ⟨⟩
    · rintro ⟨rfl, rfl, rfl⟩
      exact absurd d.inCalendar h

theorem ofParts?_eq_none_iff {year : Int} {month day : Nat} :
    ofParts? year month day = none ↔ ¬InCalendar year month day := by
  rw [ofParts?]
  split <;> simp_all

/-- Every month has days. -/
theorem daysInMonth_pos (year : Int) (month : Nat) : 1 ≤ daysInMonth year month := by
  unfold daysInMonth
  split
  · split <;> decide
  all_goals decide

theorem daysInMonth_le (year : Int) (month : Nat) : daysInMonth year month ≤ 31 := by
  unfold daysInMonth
  split
  · split <;> decide
  all_goals decide

/-! ## The order of days -/

/-- Where a day stands in the calendar. -/
def position (d : Date) : Int ×ₗ Nat ×ₗ Nat := toLex (d.year, toLex (d.month, d.day))

theorem position_injective : Function.Injective position := by
  intro a b h
  have hparts : a.year = b.year ∧ a.month = b.month ∧ a.day = b.day := by
    simpa [position] using h
  exact ext_key (by simp [key, hparts])

/-- Earlier days are less. -/
instance : LinearOrder Date := LinearOrder.lift' position position_injective

theorem lt_iff {a b : Date} :
    a < b ↔ a.year < b.year ∨ a.year = b.year ∧
      (a.month < b.month ∨ a.month = b.month ∧ a.day < b.day) := by
  show position a < position b ↔ _
  simp only [position, Prod.Lex.toLex_lt_toLex]

theorem compare_eq_lt_iff {a b : Date} : a.compare b = .lt ↔ a < b := by
  simp only [compare, Ordering.then_eq_lt, lt_iff, compare_lt_iff_lt, compare_eq_iff_eq]

/-- The other way round, the comparison says the opposite. -/
theorem swap_compare (a b : Date) : (a.compare b).swap = b.compare a := by
  simp only [compare, Ordering.swap_then, ← Std.OrientedOrd.eq_swap]

theorem compare_eq_gt_iff {a b : Date} : a.compare b = .gt ↔ b < a := by
  rw [← compare_eq_lt_iff, ← swap_compare b a, Ordering.swap_eq_gt]

theorem compare_ne_gt_iff {a b : Date} : a.compare b ≠ .gt ↔ a ≤ b := by
  rw [Ne, compare_eq_gt_iff, not_lt]

theorem compare_eq_cmp (a b : Date) : a.compare b = cmp a b := by
  rcases lt_trichotomy a b with h | rfl | h
  · rw [compare_eq_lt_iff.2 h, (cmp_eq_lt_iff a b).2 h]
  · rw [compare_eq_iff.2 rfl, cmp_self_eq_eq]
  · rw [compare_eq_gt_iff.2 h, (cmp_eq_gt_iff a b).2 h]

end BillDesk.Date
