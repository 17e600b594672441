/-!
# Blank text

Forms and ledger answers are compared after the white space around them is taken off.
White space is the Unicode property `White_Space`, so a no-break space or an ideographic space
counts, and a zero-width space does not.

Results: `isBlankChar_of_isWhitespace` (the class extends the ASCII one), `isBlank_iff` (a text is
blank exactly when nothing is left of it after trimming).
-/

namespace BillDesk.Text

/-- The characters of the Unicode property `White_Space`. -/
def isBlankChar (c : Char) : Bool :=
  let n := c.toNat
  (9 ≤ n && n ≤ 13) || n = 0x20 || n = 0x85 || n = 0xA0 || n = 0x1680 ||
    (0x2000 ≤ n && n ≤ 0x200A) || n = 0x2028 || n = 0x2029 || n = 0x202F || n = 0x205F ||
    n = 0x3000

/-- The characters without the white space before the first and after the last other one. -/
def trimChars (cs : List Char) : List Char :=
  ((cs.dropWhile isBlankChar).reverse.dropWhile isBlankChar).reverse

/-- The text without the white space around it. -/
def trim (s : String) : String := String.ofList (trimChars s.toList)

/-- Nothing but white space. -/
def isBlank (s : String) : Bool := (trim s).isEmpty

theorem isBlankChar_of_isWhitespace {c : Char} (h : c.isWhitespace = true) :
    isBlankChar c = true := by
  simp only [Char.isWhitespace, Bool.or_eq_true, decide_eq_true_eq] at h
  rcases h with ((h | h) | h) | h <;> subst h <;> decide

theorem isBlank_iff {s : String} : isBlank s = true ↔ trim s = "" := by
  simp [isBlank]

end BillDesk.Text
