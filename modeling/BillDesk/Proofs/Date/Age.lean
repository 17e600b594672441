import BillDesk.Proofs.Date.Calendar

/-!
# Ages and anniversaries

An age counts the anniversaries that have come. Someone born on 29 February has the anniversary on
1 March in a common year, so an anniversary exists in every year of the calendar.

Results:
1. `ageOn_eq_iff`: an age is the one number of years that fits between two days.
2. `le_ageOn_iff`: an age is reached on its anniversary.
3. `ageOn_mono` and `ageOn_antitone`: nobody becomes younger, and who is born later is not older.
4. `fitsInt32_ageOn`: ages, and what they are counted from, are integers of 32 bits.
-/

namespace BillDesk.Date

variable {birth birth' day day' : Date}

/-- The day on which so many years are full. -/
def anniversary? (birth : Date) (years : Nat) : Option Date :=
  let year := birth.year + years
  if birth.month = 2 ∧ birth.day = 29 ∧ isLeapYear year = false then ofParts? year 3 1
  else ofParts? year birth.month birth.day

/-- The day and month of a birthday, in a year that need not have it. -/
def birthdayPosition (birth : Date) (year : Int) : Int ×ₗ Nat ×ₗ Nat :=
  toLex (year, toLex (birth.month, birth.day))

theorem birthdayAhead_iff :
    birthdayAhead birth day = true ↔
      day.month < birth.month ∨ day.month = birth.month ∧ day.day < birth.day := by
  simp only [birthdayAhead, Bool.or_eq_true, Bool.and_eq_true, decide_eq_true_eq]

/-- So many years are full when the birthday has come in the year in which they are. -/
theorem le_ageOn_iff_position {years : Int} :
    years ≤ ageOn birth day ↔ birthdayPosition birth (birth.year + years) ≤ position day := by
  rw [← not_lt (b := birthdayPosition _ _), ageOn, birthdayPosition, position]
  simp only [Prod.Lex.toLex_lt_toLex]
  by_cases hahead : birthdayAhead birth day = true
  · rw [if_pos hahead]
    rw [birthdayAhead_iff] at hahead
    omega
  · rw [if_neg hahead]
    rw [birthdayAhead_iff] at hahead
    omega

/-- The age is the one number of years that are full when the next one is not. -/
theorem ageOn_eq_iff {years : Int} :
    years = ageOn birth day ↔ birthdayPosition birth (birth.year + years) ≤ position day ∧
      position day < birthdayPosition birth (birth.year + years + 1) := by
  rw [← not_le, Int.add_assoc, ← le_ageOn_iff_position, ← le_ageOn_iff_position]
  omega

/-! ## Anniversaries -/

/-- Only the length of February hangs on the year. -/
theorem daysInMonth_eq_of_ne {month : Nat} (h : month ≠ 2) (year year' : Int) :
    daysInMonth year month = daysInMonth year' month := by
  unfold daysInMonth
  split <;> first | rfl | exact absurd rfl h

/-- A birthday is a day of every year that is not a common one without its 29 February. -/
theorem day_le_daysInMonth {year : Int}
    (h : ¬(birth.month = 2 ∧ birth.day = 29 ∧ isLeapYear year = false)) :
    birth.day ≤ daysInMonth year birth.month := by
  have hday := birth.inCalendar.2.2.2
  by_cases hmonth : birth.month = 2
  · rw [hmonth, daysInMonth] at hday ⊢
    split at hday <;> split <;> simp_all <;> omega
  · rwa [daysInMonth_eq_of_ne hmonth year birth.year]

/-- In a common year no day of February is behind the 28th. -/
theorem day_le_of_february (hyear : isLeapYear day.year = false) (hmonth : day.month = 2) :
    day.day ≤ 28 := by
  have hday := day.inCalendar.2.2.2
  rwa [hmonth, daysInMonth, hyear, if_neg Bool.false_ne_true] at hday

/-- Every year of the calendar from the birth on has an anniversary, which is the first day on which
the birthday has come. -/
theorem exists_anniversary? {years : Nat} (h : birth.year + years ≤ 262142) :
    ∃ a, anniversary? birth years = some a ∧
      ∀ d : Date, a ≤ d ↔ birthdayPosition birth (birth.year + years) ≤ position d := by
  obtain ⟨⟨hfirst, _⟩, hmonths, ⟨hday, _⟩⟩ := birth.inCalendar
  have hyears : -262143 ≤ birth.year + years ∧ birth.year + years ≤ 262142 := by omega
  simp only [anniversary?]
  split
  · next hcommon =>
    obtain ⟨hmonth, hday, hcommon⟩ := hcommon
    have hmarch : InCalendar (birth.year + years) 3 1 := 
      ⟨hyears, by decide, le_rfl, daysInMonth_pos _ _⟩
    refine ⟨⟨_, 3, 1, hmarch⟩, dif_pos hmarch, fun d => ?_⟩
    -- Nothing of that year lies between the birthday and the first of March.
    have hfebruary : d.year = birth.year + years → d.month = 2 → d.day ≤ 28 :=
      fun hyear => day_le_of_february (hyear ▸ hcommon)
    have hpositive := d.inCalendar.2.2.1
    rw [← not_lt, ← not_lt, lt_iff, birthdayPosition, position]
    simp only [Prod.Lex.toLex_lt_toLex, hmonth, hday]
    omega
  · next hexists =>
    have hbirthday : InCalendar (birth.year + years) birth.month birth.day :=
      ⟨hyears, hmonths, hday, day_le_daysInMonth hexists⟩
    exact ⟨⟨_, _, _, hbirthday⟩, dif_pos hbirthday, fun _ => Iff.rfl⟩

theorem year_le_of_anniversary? {years : Nat} {a : Date} (h : anniversary? birth years = some a) :
    birth.year + years ≤ 262142 := by
  have hyear : a.year = birth.year + years := by
    simp only [anniversary?] at h
    split at h <;> exact (ofParts?_eq_some_iff.1 h).1
  rw [← hyear]
  exact a.inCalendar.1.2

/-- An age is reached on its anniversary. -/
theorem le_ageOn_iff {years : Nat} :
    years ≤ ageOn birth day ↔ ∃ a, anniversary? birth years = some a ∧ a ≤ day := by
  rw [le_ageOn_iff_position]
  constructor
  · intro h
    have hyear : birth.year + years ≤ day.year := by
      rw [← not_lt, birthdayPosition, position, Prod.Lex.toLex_lt_toLex] at h
      simp only at h
      omega
    obtain ⟨a, ha, hfirst⟩ := exists_anniversary? (hyear.trans day.inCalendar.1.2)
    exact ⟨a, ha, (hfirst day).2 h⟩
  · rintro ⟨a, ha, hle⟩
    obtain ⟨a', ha', hfirst⟩ := exists_anniversary? (year_le_of_anniversary? ha)
    cases ha.symm.trans ha'
    exact (hfirst day).1 hle

/-! ## Ages over time -/

theorem birthdayPosition_mono (h : birth ≤ birth') (years : Int) :
    birthdayPosition birth (birth.year + years) ≤
      birthdayPosition birth' (birth'.year + years) := by
  rw [← not_lt, lt_iff] at h
  rw [← not_lt, birthdayPosition, birthdayPosition]
  simp only [Prod.Lex.toLex_lt_toLex]
  omega

/-- Nobody becomes younger. -/
theorem ageOn_mono (h : day ≤ day') : ageOn birth day ≤ ageOn birth day' :=
  le_ageOn_iff_position.2 ((le_ageOn_iff_position.1 le_rfl).trans h)

/-- Who is born later is not older. -/
theorem ageOn_antitone (h : birth ≤ birth') : ageOn birth' day ≤ ageOn birth day :=
  le_ageOn_iff_position.2 ((birthdayPosition_mono h _).trans (le_ageOn_iff_position.1 le_rfl))

/-! ## Ages as integers of 32 bits -/

/-- The integer is one of 32 bits. -/
def FitsInt32 (i : Int) : Prop := Int32.minValue.toInt ≤ i ∧ i ≤ Int32.maxValue.toInt

/-- Neither an age nor anything that it is counted from is out of range. -/
theorem fitsInt32_ageOn (birth day : Date) :
    (FitsInt32 birth.year ∧ FitsInt32 day.year) ∧
      FitsInt32 (day.year - birth.year) ∧ FitsInt32 (ageOn birth day) := by
  obtain ⟨⟨_, _⟩, _⟩ := birth.inCalendar
  obtain ⟨⟨_, _⟩, _⟩ := day.inCalendar
  have hmin : Int32.minValue.toInt = -2147483648 := rfl
  have hmax : Int32.maxValue.toInt = 2147483647 := rfl
  simp only [FitsInt32, hmin, hmax, ageOn]
  split <;> omega

end BillDesk.Date
