import BillDesk.Proofs.Date.Calendar
import BillDesk.Proofs.Text.Digits
import BillDesk.Proofs.Text.Trimming

/-!
# Which texts spell a date

A date is spelled with a year, a month and a day between hyphens. A year without a sign has one to
four digits, and one with a sign has any number of them. A month and a day have one or two, with
white space before them, and white space may stand around the whole.

Results:
1. `readDigits_of_ends` and `exists_of_readDigits`: which digits are read up to a limit.
2. `readYear_of_spells`, `exists_of_readYear` and those for `readPart`: the parts of a spelling are
   what is read, and what is read is spelled.
3. `read?_eq_some_iff`: a text is read as a date exactly when it spells it.
4. `spells_unique`: no text spells two dates.
-/

namespace BillDesk.Date

open Text

/-! ## Spellings -/

/-- Digits alone, at least one, that denote the number. -/
structure SpellsNumber (ds : List Char) (n : Nat) : Prop where
  digits : ∀ c ∈ ds, isDigit c = true
  nonempty : ds ≠ []
  value : digitsValue ds = n

inductive SpellsYear : List Char → Int → Prop
  | plain {ds : List Char} {n : Nat} (h : SpellsNumber ds n) (hlength : ds.length ≤ 4) :
      SpellsYear ds n
  | plus {ds : List Char} {n : Nat} (h : SpellsNumber ds n) : SpellsYear ('+' :: ds) n
  | minus {ds : List Char} {n : Nat} (h : SpellsNumber ds n) : SpellsYear ('-' :: ds) (-n)

/-- A month or a day. -/
inductive SpellsPart : List Char → Nat → Prop
  | intro {gap ds : List Char} {n : Nat} (hgap : AllBlank gap) (h : SpellsNumber ds n)
      (hlength : ds.length ≤ 2) : SpellsPart (gap ++ ds) n

/-- A date without the white space around it. -/
inductive SpellsTrimmed : List Char → Date → Prop
  | intro {year month day : List Char} {d : Date} (hyear : SpellsYear year d.year)
      (hmonth : SpellsPart month d.month) (hday : SpellsPart day d.day) :
      SpellsTrimmed (year ++ '-' :: (month ++ '-' :: day)) d

inductive Spells : List Char → Date → Prop
  | intro {before cs after : List Char} {d : Date} (hbefore : AllBlank before)
      (hafter : AllBlank after) (h : SpellsTrimmed cs d) : Spells (before ++ cs ++ after) d

/-! ## Numbers -/

section Numbers

variable {limit n : Nat} {ds rest cs : List Char}

/-- What follows does not begin with a digit. -/
def EndsDigits (rest : List Char) : Prop := ∀ c ∈ rest.head?, isDigit c = false

theorem endsDigits_nil : EndsDigits [] := by simp [EndsDigits]

theorem endsDigits_hyphen (rest : List Char) : EndsDigits ('-' :: rest) := by
  rintro c hc
  cases hc
  rfl

theorem readDigits_of_ends (h : SpellsNumber ds n) (hlimit : ds.length ≤ limit)
    (hrest : EndsDigits rest) : readDigits limit (ds ++ rest) = some (n, rest) := by
  have hspan : ((ds ++ rest).take limit).takeWhile isDigit = ds := by
    have hhead : ∀ c ∈ (rest.take (limit - ds.length)).head?, isDigit c = false := by
      intro c hc
      rw [List.head?_take] at hc
      split at hc
      · cases hc
      · exact hrest c hc
    rw [List.take_append, List.take_of_length_le hlimit]
    exact congrArg Prod.fst (spanDigits_of_ends h.digits hhead)
  rw [readDigits, hspan, if_neg (by simp [h.nonempty]), List.drop_left, h.value]

/-- What is read are digits that stand at the front. -/
theorem exists_of_readDigits (h : readDigits limit cs = some (n, rest)) :
    ∃ ds, cs = ds ++ rest ∧ SpellsNumber ds n ∧ ds.length ≤ limit := by
  have hfront : (cs.take limit).takeWhile isDigit <+: cs :=
    (List.takeWhile_prefix _).trans (List.take_prefix _ _)
  have hlength : ((cs.take limit).takeWhile isDigit).length ≤ limit :=
    (List.takeWhile_prefix _).length_le.trans (List.length_take_le _ _)
  rw [readDigits] at h
  split at h
  · cases h
  next hne =>
  cases h
  refine ⟨_, (List.prefix_iff_eq_append.1 hfront).symm,
    ⟨fun c hc => List.mem_takeWhile_imp hc, by simpa using hne, rfl⟩, hlength⟩

/-- The first character and those after it. -/
theorem SpellsNumber.exists_cons (h : SpellsNumber ds n) :
    ∃ c cs, ds = c :: cs ∧ isDigit c = true := by
  obtain ⟨c, cs, rfl⟩ := List.exists_cons_of_ne_nil h.nonempty
  exact ⟨c, cs, rfl, h.digits c (List.mem_cons_self ..)⟩

end Numbers

/-! ## Parts -/

section Parts

variable {cs rest : List Char}

theorem readYear_of_digit {c : Char} (h : isDigit c = true) (cs : List Char) :
    readYear (c :: cs) = (readDigits 4 (c :: cs)).map fun p => ((p.1 : Int), p.2) := by
  unfold readYear
  split
  case h_3 => rfl
  all_goals
    injection ‹c :: cs = _› with hc _
    subst hc
    exact absurd h (by decide)

theorem readYear_of_spells {year : Int} (h : SpellsYear cs year) (hrest : EndsDigits rest) :
    readYear (cs ++ rest) = some (year, rest) := by
  cases h with
  | @plain _ n h hlength =>
    have hread := readDigits_of_ends h hlength hrest
    obtain ⟨c, cs, rfl, hdigit⟩ := h.exists_cons
    rw [List.cons_append] at hread ⊢
    rw [readYear_of_digit hdigit, hread, Option.map_some]
  | @plus ds n h =>
    have hlimit : ds.length ≤ (ds ++ rest).length := by simp
    rw [List.cons_append, readYear, readDigits_of_ends h hlimit hrest, Option.map_some]
  | @minus ds n h =>
    have hlimit : ds.length ≤ (ds ++ rest).length := by simp
    rw [List.cons_append, readYear, readDigits_of_ends h hlimit hrest, Option.map_some]

theorem exists_of_readYear {year : Int} (h : readYear cs = some (year, rest)) :
    ∃ front, cs = front ++ rest ∧ SpellsYear front year := by
  unfold readYear at h
  split at h
  all_goals
    obtain ⟨⟨n, after⟩, hread, heq⟩ := Option.map_eq_some_iff.1 h
    obtain ⟨rfl, rfl⟩ := Prod.mk.inj heq
    obtain ⟨ds, hds, hnumber, hlength⟩ := exists_of_readDigits hread
    subst hds
  · exact ⟨'-' :: ds, rfl, .minus hnumber⟩
  · exact ⟨'+' :: ds, rfl, .plus hnumber⟩
  · exact ⟨ds, rfl, .plain hnumber hlength⟩

theorem readPart_of_spells {n : Nat} (h : SpellsPart cs n) (hrest : EndsDigits rest) :
    readPart ('-' :: (cs ++ rest)) = some (n, rest) := by
  obtain ⟨hgap, h, hlength⟩ := h
  next ds =>
  have hstop : ∀ c ∈ (ds ++ rest).head?, isBlankChar c = false := by
    obtain ⟨c, cs, rfl, hdigit⟩ := h.exists_cons
    rintro _ ⟨⟩
    exact isBlankChar_of_isDigit hdigit
  rw [readPart, List.append_assoc, List.dropWhile_append_of_pos hgap, dropWhile_of_head? hstop]
  exact readDigits_of_ends h hlength hrest

theorem exists_of_readPart {n : Nat} (h : readPart cs = some (n, rest)) :
    ∃ part, cs = '-' :: (part ++ rest) ∧ SpellsPart part n := by
  unfold readPart at h
  split at h
  · next r =>
    obtain ⟨ds, hds, hnumber, hlength⟩ := exists_of_readDigits h
    have hgap : AllBlank (r.takeWhile isBlankChar) := fun c hc => List.mem_takeWhile_imp hc
    refine ⟨r.takeWhile isBlankChar ++ ds, ?_, .intro hgap hnumber hlength⟩
    rw [List.append_assoc, ← hds, List.takeWhile_append_dropWhile]
  · cases h

end Parts

/-! ## Whole texts -/

/-- A year begins with a digit or a sign. -/
theorem SpellsYear.not_blank_first {cs : List Char} {year : Int} (h : SpellsYear cs year)
    (rest : List Char) : ∀ c ∈ (cs ++ rest).head?, isBlankChar c = false := by
  cases h with
  | plain h _ =>
    obtain ⟨c, cs, rfl, hdigit⟩ := h.exists_cons
    rintro _ ⟨⟩
    exact isBlankChar_of_isDigit hdigit
  | plus _ =>
    rintro _ ⟨⟩
    rfl
  | minus _ =>
    rintro _ ⟨⟩
    rfl

/-- A day ends with a digit. -/
theorem SpellsPart.not_blank_last {cs : List Char} {n : Nat} (h : SpellsPart cs n)
    (front : List Char) : ∀ c ∈ (front ++ cs).getLast?, isBlankChar c = false := by
  obtain ⟨_, h, _⟩ := h
  intro c hc
  have hlast := List.getLast?_eq_some_getLast h.nonempty
  rw [← List.append_assoc, List.getLast?_append, hlast, Option.some_or] at hc
  exact isBlankChar_of_isDigit (h.digits c (List.mem_of_mem_getLast? (hlast.trans hc)))

theorem SpellsTrimmed.ne_nil {cs : List Char} {d : Date} (h : SpellsTrimmed cs d) : cs ≠ [] := by
  obtain ⟨_, _, _⟩ := h
  simp

theorem SpellsTrimmed.trimChars_eq {cs : List Char} {d : Date} (h : SpellsTrimmed cs d) :
    trimChars cs = cs := by
  cases h with
  | @intro year month day _ hyear _ hday =>
    have hlast := hday.not_blank_last (year ++ '-' :: (month ++ ['-']))
    simp only [List.append_assoc, List.cons_append, List.nil_append] at hlast
    exact trimChars_of_ends (hyear.not_blank_first _) hlast

/-- A text is read as a date exactly when it spells it. -/
theorem read?_eq_some_iff {s : String} {d : Date} : read? s = some d ↔ Spells s.toList d := by
  constructor
  · intro h
    obtain ⟨⟨year, afterYear⟩, hreadYear, hafterYear⟩ := Option.bind_eq_some_iff.1 h
    obtain ⟨⟨month, afterMonth⟩, hreadMonth, hafterMonth⟩ := Option.bind_eq_some_iff.1 hafterYear
    obtain ⟨⟨day, rest⟩, hreadDay, hend⟩ := Option.bind_eq_some_iff.1 hafterMonth
    change (if rest.isEmpty then ofParts? year month day else none) = some d at hend
    obtain ⟨yearChars, htrimmed, hyear⟩ := exists_of_readYear hreadYear
    obtain ⟨monthChars, rfl, hmonth⟩ := exists_of_readPart hreadMonth
    obtain ⟨dayChars, rfl, hday⟩ := exists_of_readPart hreadDay
    split at hend
    · next hempty =>
      obtain rfl : rest = [] := List.isEmpty_iff.1 hempty
      obtain ⟨rfl, rfl, rfl⟩ := ofParts?_eq_some_iff.1 hend
      obtain ⟨before, after, hbefore, hafter, hs⟩ := exists_trimChars s.toList
      rw [hs, htrimmed, List.append_nil]
      exact .intro hbefore hafter (.intro hyear hmonth hday)
    · cases hend
  · intro h
    generalize hs : s.toList = cs at h
    obtain ⟨hbefore, hafter, h⟩ := h
    have htrim := trimChars_append hbefore hafter h.trimChars_eq h.ne_nil
    obtain ⟨hyear, hmonth, hday⟩ := h
    have hreadDay := readPart_of_spells hday endsDigits_nil
    rw [List.append_nil] at hreadDay
    rw [read?, hs, htrim]
    simp only [readYear_of_spells hyear (endsDigits_hyphen _),
      readPart_of_spells hmonth (endsDigits_hyphen _), hreadDay, Option.bind_eq_bind,
      Option.bind_some]
    exact dif_pos d.inCalendar

/-- No text spells two dates. -/
theorem spells_unique {cs : List Char} {d e : Date} (h : Spells cs d) (h' : Spells cs e) :
    d = e := by
  rw [← String.toList_ofList (l := cs), ← read?_eq_some_iff] at h h'
  exact Option.some.inj (h.symm.trans h')

end BillDesk.Date
