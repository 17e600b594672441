import BillDesk.Proofs.Date.Text
import BillDesk.Proofs.Ledger.WireFormat

/-!
# The days as they follow each other

After a day comes the next one of its month, or the first of the next month, or the first of
January. One day is before another in the order of dates exactly when it takes a number of such
steps to get from the one to the other. So the order is that of the calendar, which is not looked at
in it.

Results:
1. `lt_of_next?` and `le_of_next?`: the next day is later, and nothing lies between.
2. `lt_iff_exists_later?`: the order counts days.
3. `dates_are_canonical`: a date is kept as its one text.
-/

namespace BillDesk.Date

/-- The day after, unless the calendar ends. -/
def next? (d : Date) : Option Date :=
  (ofParts? d.year d.month (d.day + 1)).or
    ((ofParts? d.year (d.month + 1) 1).or (ofParts? (d.year + 1) 1 1))

/-- The day so many days later. -/
def later? : Nat → Date → Option Date
  | 0, d => some d
  | n + 1, d => (next? d).bind (later? n)

/-- The three ways in which a day follows. -/
inductive Follows (a b : Date) : Prop
  | day (hyear : b.year = a.year) (hmonth : b.month = a.month) (hday : b.day = a.day + 1)
  | month (hend : a.day = daysInMonth a.year a.month) (hyear : b.year = a.year)
      (hmonth : b.month = a.month + 1) (hday : b.day = 1)
  | year (hend : a.day = daysInMonth a.year a.month) (hmonths : a.month = 12)
      (hyear : b.year = a.year + 1) (hmonth : b.month = 1) (hday : b.day = 1)

/-- Within a month that is given, no day is after the last one. -/
theorem day_le_of_same_month {a c : Date} (hyear : c.year = a.year) (hmonth : c.month = a.month) :
    c.day ≤ daysInMonth a.year a.month := by
  rw [← hyear, ← hmonth]
  exact c.inCalendar.2.2.2

theorem follows_of_next? {a b : Date} (h : next? a = some b) : Follows a b := by
  obtain ⟨hyears, hmonths, hdays⟩ := a.inCalendar
  have hfirst := daysInMonth_pos a.year (a.month + 1)
  rcases Option.or_eq_some_iff.1 h with h | ⟨hday, h⟩
  · obtain ⟨hyear, hmonth, hday⟩ := ofParts?_eq_some_iff.1 h
    exact .day hyear hmonth hday
  rw [ofParts?_eq_none_iff, InCalendar] at hday
  have hend : a.day = daysInMonth a.year a.month := by omega
  rcases Option.or_eq_some_iff.1 h with h | ⟨hmonth, h⟩
  · obtain ⟨hyear, hmonth, hday⟩ := ofParts?_eq_some_iff.1 h
    exact .month hend hyear hmonth hday
  rw [ofParts?_eq_none_iff, InCalendar] at hmonth
  obtain ⟨hyear, hmonth', hday'⟩ := ofParts?_eq_some_iff.1 h
  exact .year hend (by omega) hyear hmonth' hday'

theorem lt_of_next? {a b : Date} (h : next? a = some b) : a < b := by
  rw [lt_iff]
  cases follows_of_next? h <;> omega

/-- No day lies between one day and the next. -/
theorem le_of_next? {a b c : Date} (h : next? a = some b) (hac : a < c) : b ≤ c := by
  obtain ⟨_, hmonths, hdays⟩ := c.inCalendar
  have hsame : c.year = a.year → c.month = a.month → c.day ≤ daysInMonth a.year a.month :=
    day_le_of_same_month
  rw [lt_iff] at hac
  rw [← not_lt, lt_iff]
  cases follows_of_next? h <;> omega

/-- The calendar ends with its last day only. -/
theorem exists_next? {a b : Date} (h : a < b) : ∃ c, next? a = some c := by
  obtain ⟨⟨_, hlast⟩, ⟨_, hmonths⟩, _⟩ := b.inCalendar
  obtain ⟨hyears, hmonth, hdays⟩ := a.inCalendar
  have hsame : b.year = a.year → b.month = a.month → b.day ≤ daysInMonth a.year a.month :=
    day_le_of_same_month
  have hfirst := daysInMonth_pos a.year (a.month + 1)
  have hjanuary := daysInMonth_pos (a.year + 1) 1
  rw [← Option.isSome_iff_exists, Option.isSome_iff_ne_none]
  intro hnone
  simp only [next?, Option.or_eq_none_iff, ofParts?_eq_none_iff, InCalendar] at hnone
  rw [lt_iff] at h
  omega

/-- A count that grows with every day. -/
def serial (d : Date) : Int := (d.year * 12 + d.month) * 31 + d.day

theorem serial_lt_serial {a b : Date} (h : a < b) : serial a < serial b := by
  obtain ⟨_, _, _, _⟩ := a.inCalendar
  obtain ⟨_, _, _, _⟩ := b.inCalendar
  have ha := daysInMonth_le a.year a.month
  rw [lt_iff] at h
  unfold serial
  omega

theorem lt_of_later? {n : Nat} {a b : Date} (h : later? (n + 1) a = some b) : a < b := by
  induction n generalizing a with
  | zero =>
    obtain ⟨c, hnext, hc⟩ := Option.bind_eq_some_iff.1 h
    cases hc
    exact lt_of_next? hnext
  | succ n ih =>
    obtain ⟨c, hnext, hlater⟩ := Option.bind_eq_some_iff.1 h
    exact (lt_of_next? hnext).trans (ih hlater)

/-- Going on day by day, every later day is reached. -/
theorem exists_later?_of_lt {a b : Date} (h : a < b) : ∃ n, later? (n + 1) a = some b := by
  obtain ⟨c, hnext⟩ := exists_next? h
  rcases (le_of_next? hnext h).eq_or_lt with rfl | hlt
  · exact ⟨0, by rw [later?, hnext, Option.bind_some, later?]⟩
  · have hac := serial_lt_serial (lt_of_next? hnext)
    have hcb := serial_lt_serial hlt
    obtain ⟨n, hlater⟩ := exists_later?_of_lt hlt
    exact ⟨n + 1, by rw [later?, hnext, Option.bind_some, hlater]⟩
termination_by (serial b - serial a).toNat
decreasing_by omega

/-- One day is before another exactly when the other comes some days later. -/
theorem lt_iff_exists_later? {a b : Date} : a < b ↔ ∃ n, later? (n + 1) a = some b :=
  ⟨exists_later?_of_lt, fun ⟨_, h⟩ => lt_of_later? h⟩

/-! ## Dates that are kept as texts -/

/-- Two dates that are kept as texts are compared by the days that the texts are read as. There is
no answer if one of them is none. -/
def compareTexts? (t t' : String) : Option Ordering := do
  return (← read? t).compare (← read? t')

theorem compareTexts?_text (a b : Date) : compareTexts? a.text b.text = some (a.compare b) := by
  rw [compareTexts?, read?_text, read?_text]
  rfl

theorem text_injective : Function.Injective text := by
  intro a b h
  have hread := read?_text a
  rw [h, read?_text] at hread
  exact (Option.some.inj hread).symm

/-- Two texts that are read as dates spell the same day exactly when the dates are the same. -/
theorem eq_iff_exists_spells {s s' : String} {d d' : Date} (h : read? s = some d)
    (h' : read? s' = some d') : d = d' ↔ ∃ day, Spells s.toList day ∧ Spells s'.toList day := by
  rw [read?_eq_some_iff] at h h'
  constructor
  · rintro rfl
    exact ⟨d, h, h'⟩
  · rintro ⟨day, hday, hday'⟩
    rw [spells_unique h hday, spells_unique h' hday']

/-- Whatever way a date is spelled in, it is kept as one text. The text is read back as the very day
that was spelled, alone and as JSON. Two dates have the same text exactly when they compare as equal
and when the same day was spelled for both. Otherwise the one is less that comes first as the days
go by, so dates are totally ordered. -/
theorem dates_are_canonical {s s' : String} {d d' : Date} (h : read? s = some d)
    (h' : read? s' = some d') :
    (Spells s.toList d ∧ ∀ day, Spells s.toList day → day = d) ∧
      (read? d.text = some d ∧
        Json.decode? Date (Json.read? (Json.compact (Json.Codec.write d))) = some d) ∧
      compareTexts? d.text d'.text = some (d.compare d') ∧
      (d.text = d'.text ↔ d.compare d' = .eq) ∧
      (d.text = d'.text ↔ ∃ day, Spells s.toList day ∧ Spells s'.toList day) ∧
      (d.compare d' = .lt ↔ ∃ n, later? (n + 1) d = some d') ∧
      (d.compare d' = .gt ↔ ∃ n, later? (n + 1) d' = some d) ∧
      (d.compare d').swap = d'.compare d ∧
      ∀ d'' : Date, d.compare d' ≠ .gt → d'.compare d'' ≠ .gt → d.compare d'' ≠ .gt := by
  have hspells := read?_eq_some_iff.1 h
  refine ⟨⟨hspells, fun _ hday => spells_unique hday hspells⟩,
    ⟨read?_text d, Json.decode?_compact d⟩, compareTexts?_text d d', ?_, ?_, ?_, ?_,
    swap_compare d d', fun d'' => ?_⟩
  · rw [text_injective.eq_iff, compare_eq_iff]
  · rw [text_injective.eq_iff, eq_iff_exists_spells h h']
  · rw [compare_eq_lt_iff, lt_iff_exists_later?]
  · rw [compare_eq_gt_iff, lt_iff_exists_later?]
  · simp only [compare_ne_gt_iff]
    exact le_trans

/-- The last day of a February before the year zero, and a day of a year with a sign. -/
theorem dates_are_canonical_leapDay :
    let leapDay : Date := ⟨-4, 2, 29, by decide⟩
    let newYear : Date := ⟨-3, 1, 1, by decide⟩
    read? " -4-\u20032-29" = some leapDay ∧ read? "-00003-1-01" = some newYear ∧
      leapDay.text = "-0004-02-29" ∧ compareTexts? "-0004-02-29" "-0003-01-01" = some .lt ∧
      ∃ n, later? (n + 1) leapDay = some newYear := by
  intro leapDay newYear
  have hleapDay : read? " -4-\u20032-29" = some leapDay := by decide +kernel
  have hnewYear : read? "-00003-1-01" = some newYear := by decide +kernel
  obtain ⟨_, _, hcompare, _, _, hlt, _⟩ := dates_are_canonical hleapDay hnewYear
  have hless : leapDay.compare newYear = .lt := by decide
  have htext : leapDay.text = "-0004-02-29" := by decide +kernel
  have htext' : newYear.text = "-0003-01-01" := by decide +kernel
  rw [htext, htext', hless] at hcompare
  exact ⟨hleapDay, hnewYear, htext, hcompare, hlt.1 hless⟩

end BillDesk.Date
