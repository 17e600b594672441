import BillDesk.Proofs.Date.Spelling

/-!
# Reading dates back

A date is read back from its text. A year of up to four digits is written with four, and a longer
one has a sign, so the text spells the date.

Results:
1. `spellsYear_yearChars` and `spellsPart_zeroPadded`: the parts of a text spell those of the date.
2. `read?_text`: the date is read back.
3. `read?_trim` and `read?_of_isBlank`: white space around a text makes no difference, and is no
   date by itself.
-/

namespace BillDesk.Date

open Text

/-- The year of a date as it is written. -/
def yearChars (year : Int) : List Char := yearSign year ++ zeroPadded 4 year.natAbs

theorem spellsNumber_zeroPadded (width n : Nat) : SpellsNumber (zeroPadded width n) n where
  digits _ := isDigit_of_mem_zeroPadded
  nonempty := zeroPadded_ne_nil width n
  value := digitsValue_zeroPadded width n

theorem spellsYear_yearChars (year : Int) : SpellsYear (yearChars year) year := by
  have hnumber := spellsNumber_zeroPadded 4 year.natAbs
  by_cases hnegative : year < 0
  · have hminus : SpellsYear ('-' :: zeroPadded 4 year.natAbs) (-(year.natAbs : Int)) :=
      .minus hnumber
    rw [show -(year.natAbs : Int) = year by omega] at hminus
    rwa [yearChars, yearSign, if_pos hnegative, List.singleton_append]
  have hyear : (year.natAbs : Int) = year := by omega
  by_cases hlarge : 9999 < year
  · have hplus : SpellsYear ('+' :: zeroPadded 4 year.natAbs) (year.natAbs : Int) := .plus hnumber
    rw [hyear] at hplus
    rwa [yearChars, yearSign, if_neg hnegative, if_pos hlarge, List.singleton_append]
  · have hlength : (zeroPadded 4 year.natAbs).length = 4 :=
      length_zeroPadded (by decide) (by omega)
    have hplain : SpellsYear (zeroPadded 4 year.natAbs) (year.natAbs : Int) :=
      .plain hnumber hlength.le
    rw [hyear] at hplain
    rwa [yearChars, yearSign, if_neg hnegative, if_neg hlarge, List.nil_append]

theorem spellsPart_zeroPadded {n : Nat} (h : n < 100) : SpellsPart (zeroPadded 2 n) n := by
  have hlength : (zeroPadded 2 n).length = 2 := length_zeroPadded (by decide) h
  have hpart : SpellsPart ([] ++ zeroPadded 2 n) n :=
    .intro allBlank_nil (spellsNumber_zeroPadded 2 n) hlength.le
  rwa [List.nil_append] at hpart

theorem spells_text (d : Date) : Spells d.text.toList d := by
  obtain ⟨_, ⟨_, hmonth⟩, ⟨_, hday⟩⟩ := d.inCalendar
  have hdays := daysInMonth_le d.year d.month
  have htrimmed : SpellsTrimmed (yearChars d.year ++
      '-' :: (zeroPadded 2 d.month ++ '-' :: zeroPadded 2 d.day)) d :=
    .intro (spellsYear_yearChars d.year) (spellsPart_zeroPadded (show d.month < 100 by omega))
      (spellsPart_zeroPadded (show d.day < 100 by omega))
  have hspells := Spells.intro allBlank_nil allBlank_nil htrimmed
  rw [List.nil_append, List.append_nil] at hspells
  rwa [text, String.toList_ofList]

/-- A date is read back from its text. -/
theorem read?_text (d : Date) : read? d.text = some d := read?_eq_some_iff.2 (spells_text d)

/-! ## Texts with white space around them -/

theorem read?_trim (s : String) : read? (trim s) = read? s := by
  rw [read?, read?, trim, String.toList_ofList, trimChars_trimChars]

theorem read?_of_isBlank {s : String} (h : isBlank s = true) : read? s = none := by
  rw [← read?_trim, isBlank_iff.1 h]
  rfl

theorem isBlank_of_read? {s : String} {d : Date} (h : read? s = some d) : isBlank s = false := by
  rw [← Bool.not_eq_true]
  intro hblank
  rw [read?_of_isBlank hblank] at h
  cases h

end BillDesk.Date
