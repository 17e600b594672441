/-!
# Calendar dates

A date is a day of the proleptic Gregorian calendar from 1 January -262143 to 31 December 262142,
so every value of `Date` is a day that exists. Dates are ordered by year, month and day, and the age
on a reference day counts the birthdays that have passed.

Results: `ext_key` (year, month and day determine the date), `compare_eq_iff` (two dates compare as
equal exactly when they are the same date).
-/

namespace BillDesk

def isLeapYear (year : Int) : Bool :=
  year % 4 = 0 && (year % 100 ≠ 0 || year % 400 = 0)

def daysInMonth (year : Int) : Nat → Nat
  | 2 => if isLeapYear year then 29 else 28
  | 4 | 6 | 9 | 11 => 30
  | _ => 31

/-- The day exists, and its year is one that the calendar covers. -/
def InCalendar (year : Int) (month day : Nat) : Prop :=
  (-262143 ≤ year ∧ year ≤ 262142) ∧ (1 ≤ month ∧ month ≤ 12) ∧
    (1 ≤ day ∧ day ≤ daysInMonth year month)

instance (year : Int) (month day : Nat) : Decidable (InCalendar year month day) := by
  unfold InCalendar
  infer_instance

structure Date where
  year : Int
  month : Nat
  day : Nat
  inCalendar : InCalendar year month day
  deriving DecidableEq

namespace Date

def ofParts? (year : Int) (month day : Nat) : Option Date :=
  if h : InCalendar year month day then some ⟨year, month, day, h⟩ else none

/-- What dates are ordered by. -/
def key (d : Date) : Int × Nat × Nat := (d.year, d.month, d.day)

/-- Earlier days are less. -/
def compare (a b : Date) : Ordering :=
  (Ord.compare a.year b.year).then
    ((Ord.compare a.month b.month).then (Ord.compare a.day b.day))

/-- The birthday of `birth` has not come yet in the year of `reference`. A birthday on 29 February
comes on 1 March in a common year. -/
def birthdayAhead (birth reference : Date) : Bool :=
  reference.month < birth.month || (reference.month = birth.month && reference.day < birth.day)

/-- Full years from the birth to the reference day, negative when the birth lies ahead. -/
def ageOn (birth reference : Date) : Int :=
  reference.year - birth.year - (if birthdayAhead birth reference then 1 else 0)

theorem ext_key {a b : Date} (h : a.key = b.key) : a = b := by
  cases a
  cases b
  simp_all [key]

theorem compare_eq_iff {a b : Date} : a.compare b = .eq ↔ a = b := by
  constructor
  · intro h
    simp only [compare, Ordering.then_eq_eq, Std.LawfulEqCmp.compare_eq_iff_eq] at h
    exact ext_key (by simp [key, h])
  · rintro rfl
    simp [compare]

end Date

end BillDesk
