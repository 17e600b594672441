import BillDesk.Date.Text
import BillDesk.Text.Digits
import Mathlib.Algebra.Group.Nat.Defs

/-!
# Numbers as digits

The digits that a number is written with denote the number again. There is at least one of them, and
a zero in front is the only one.

Results:
1. `digitsValue_repr` and `digitsValue_zeroPadded`: what is written denotes the number.
2. `eq_zero_of_head?_repr`: only zero is written with a zero in front.
3. `spanDigits_of_ends`: digits are read up to where they end.
-/

namespace BillDesk.Text

theorem isDigit_iff {c : Char} : isDigit c = true ↔ 48 ≤ c.toNat ∧ c.toNat ≤ 57 := by
  simp only [isDigit, Bool.and_eq_true, decide_eq_true_eq]
  exact Iff.rfl

theorem isBlankChar_of_isDigit {c : Char} (h : isDigit c = true) : isBlankChar c = false := by
  obtain ⟨hlow, hhigh⟩ := isDigit_iff.1 h
  simp only [isBlankChar, Bool.or_eq_false_iff, Bool.and_eq_false_iff, decide_eq_false_iff_not]
  omega

theorem isDigit_of_mem_repr {n : Nat} {c : Char} (h : c ∈ (Nat.repr n).toList) :
    isDigit c = true := by
  rw [Nat.toList_repr] at h
  have hdigit := Nat.isDigit_of_mem_toDigits (by decide) (by decide) h
  simp only [Char.isDigit, Bool.and_eq_true, decide_eq_true_eq] at hdigit
  simp only [isDigit, Bool.and_eq_true, decide_eq_true_eq]
  exact hdigit

theorem repr_ne_nil (n : Nat) : (Nat.repr n).toList ≠ [] := by
  rw [Nat.toList_repr]
  exact Nat.toDigits_ne_nil

theorem digitsValue_eq_ofDigitChars (ds : List Char) :
    digitsValue ds = Nat.ofDigitChars 10 ds 0 := by
  rw [digitsValue, Nat.ofDigitChars_eq_foldl]
  congr 1
  funext n d
  rw [Nat.mul_comm]
  rfl

@[simp]
theorem digitsValue_repr (n : Nat) : digitsValue (Nat.repr n).toList = n := by
  rw [digitsValue_eq_ofDigitChars, Nat.toList_repr, Nat.ofDigitChars_ten_toDigits]

/-- Only zero is written with a zero in front. -/
theorem eq_zero_of_head?_repr {n : Nat} (h : (Nat.repr n).toList.head? = some '0') : n = 0 := by
  induction n using Nat.strongRecOn with
  | ind n ih =>
    rw [Nat.toList_repr] at h
    by_cases hsmall : n < 10
    · have hdigit : ∀ m < 10, Nat.digitChar m = '0' → m = 0 := by decide
      rw [Nat.toDigits_of_lt_base hsmall] at h
      exact hdigit n hsmall (Option.some.inj h)
    · rw [Nat.toDigits_of_base_le (by decide) (by omega), ← Nat.toList_repr, List.head?_append] at h
      rcases Option.or_eq_some_iff.1 h with h | ⟨hnone, _⟩
      · have hzero := ih (n / 10) (by omega) h
        omega
      · exact absurd (List.head?_eq_none_iff.1 hnone) (repr_ne_nil _)

/-- Zeros in front do not count. -/
@[simp]
theorem digitsValue_zeroPadded (width n : Nat) : digitsValue (Date.zeroPadded width n) = n := by
  rw [Date.zeroPadded, digitsValue_eq_ofDigitChars, Nat.ofDigitChars_append,
    Nat.ofDigitChars_replicate_zero, Nat.mul_zero, Nat.toList_repr, Nat.ofDigitChars_ten_toDigits]

theorem isDigit_of_mem_zeroPadded {width n : Nat} {c : Char} (h : c ∈ Date.zeroPadded width n) :
    isDigit c = true := by
  rcases List.mem_append.1 h with h | h
  · rw [(List.mem_replicate.1 h).2]
    rfl
  · exact isDigit_of_mem_repr h

/-- A number that fits into the width takes just that width. -/
theorem length_zeroPadded {width n : Nat} (hwidth : 0 < width) (h : n < 10 ^ width) :
    (Date.zeroPadded width n).length = width := by
  have hrepr : (Nat.repr n).toList.length ≤ width := by
    rw [Nat.toList_repr]
    exact (Nat.length_toDigits_le_iff (by decide) hwidth).2 h
  simp only [Date.zeroPadded, List.length_append, List.length_replicate]
  omega

theorem zeroPadded_ne_nil (width n : Nat) : Date.zeroPadded width n ≠ [] := by
  simp [Date.zeroPadded]

/-- Digits are read as far as they go. -/
theorem spanDigits_of_ends {ds rest : List Char} (hds : ∀ c ∈ ds, isDigit c = true)
    (hrest : ∀ c ∈ rest.head?, isDigit c = false) : spanDigits (ds ++ rest) = (ds, rest) := by
  have htake : rest.takeWhile isDigit = [] := by
    cases rest with
    | nil => rfl
    | cons c rest => rw [List.takeWhile_cons_of_neg (by simp [hrest c rfl])]
  have hdrop : rest.dropWhile isDigit = rest := by
    cases rest with
    | nil => rfl
    | cons c rest => rw [List.dropWhile_cons_of_neg (by simp [hrest c rfl])]
  rw [spanDigits, List.takeWhile_append_of_pos hds, List.dropWhile_append_of_pos hds, htake, hdrop,
    List.append_nil]

end BillDesk.Text
