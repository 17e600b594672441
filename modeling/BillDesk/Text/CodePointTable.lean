import BillDesk.Text.Digits

/-!
# Tables of code points

A property of characters is written down as a text of entries with blanks or line ends between them.
An entry begins with the code points that it is about, in hexadecimal: one of them, or the first and
the last with a hyphen between them. After a colon follows what holds of them. Entries ascend, so
that the one about a code point is found by halving the table.

Result: `mem_of_find?` (what is found for a code point is about this code point).
-/

namespace BillDesk.Text

/-- Code points in a row that share a property. -/
structure Stretch (α : Type) where
  first : Nat
  last : Nat
  value : α

/-- Stretches in ascending order. -/
abbrev CodePointTable (α : Type) := Array (Stretch α)

namespace CodePointTable

variable {α : Type}

/-! ## Looking up -/

/-- The stretch around `n` among those from place `low` up to place `high`. -/
def findBetween (t : CodePointTable α) (n low high : Nat) : Option (Stretch α) :=
  if low < high then
    let middle := (low + high) / 2
    match t[middle]? with
    | none => none
    | some s =>
        if n < s.first then findBetween t n low middle
        else if s.last < n then findBetween t n (middle + 1) high
        else some s
  else none
termination_by high - low

def find? (t : CodePointTable α) (n : Nat) : Option (Stretch α) := findBetween t n 0 t.size

def valueAt? (t : CodePointTable α) (n : Nat) : Option α := (t.find? n).map Stretch.value

def contains (t : CodePointTable α) (n : Nat) : Bool := (t.find? n).isSome

theorem mem_of_findBetween {t : CodePointTable α} {n low high : Nat} {s : Stretch α}
    (found : t.findBetween n low high = some s) : s.first ≤ n ∧ n ≤ s.last := by
  fun_induction findBetween t n low high with
  | case1 => simp at found
  | case2 _ _ _ _ _ _ _ ih => exact ih found
  | case3 _ _ _ _ _ _ _ _ ih => exact ih found
  | case4 _ _ _ _ s' _ notBelow notAbove =>
      obtain rfl := Option.some.inj found
      exact ⟨by omega, by omega⟩
  | case5 => simp at found

theorem mem_of_find? {t : CodePointTable α} {n : Nat} {s : Stretch α}
    (found : t.find? n = some s) : s.first ≤ n ∧ n ≤ s.last :=
  mem_of_findBetween found

/-! ## Reading -/

def readCodePoint (s : String) : Nat :=
  s.toList.foldl (fun n c => n * 16 + (hexDigitValue? c).getD 0) 0

/-- The entries of a text: the code points of each, and what follows its colon. -/
def entries (text : String) : List (String × String) :=
  let words := ((text.splitOn "\n").flatMap fun line => line.splitOn " ").filter (· != "")
  words.map fun word =>
    match word.splitOn ":" with
    | [points, value] => (points, value)
    | _ => (word, "")

def ofEntry (value : String → α) (points v : String) : Stretch α :=
  match points.splitOn "-" with
  | [first, last] => ⟨readCodePoint first, readCodePoint last, value v⟩
  | _ => ⟨readCodePoint points, readCodePoint points, value v⟩

/-- The table that a text describes, whose values are read by `value`. -/
def ofText (value : String → α) (text : String) : CodePointTable α :=
  ((entries text).map fun (points, v) => ofEntry value points v).toArray

/-- The table of a property that has no values. -/
def ofStretches (text : String) : CodePointTable Unit := ofText (fun _ => ()) text

/-- Sequences of characters for single code points. An entry has one for its code point and, after
commas, those for the code points that follow. Plus signs join the characters of a sequence. -/
def readSequences (text : String) : List (Nat × List Char) :=
  (entries text).flatMap fun (points, v) =>
    (v.splitOn ",").mapIdx fun i sequence =>
      (readCodePoint points + i,
        (sequence.splitOn "+").map fun point => Char.ofNat (readCodePoint point))

/-- The table of values for single code points. -/
def ofPoints (values : List (Nat × α)) : CodePointTable α :=
  (values.map fun (n, value) => ⟨n, n, value⟩).toArray

end CodePointTable

end BillDesk.Text
