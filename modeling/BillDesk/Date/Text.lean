import BillDesk.Date.Basic
import BillDesk.Text.Blank
import BillDesk.Text.Digits
import BillDesk.Json.Codec

/-!
# Dates as text

A date is written `YYYY-MM-DD`: the year with at least four digits, and with a sign when it is
negative or has more than four digits.

Reading is more liberal. The white space around the text and before each number is passed over, the
month and the day may have one digit, and the year has one to four digits, or any number of them
after a sign.
-/

namespace BillDesk.Date

/-! ## Writing -/

/-- Decimal digits, with zeros in front up to the width. -/
def zeroPadded (width n : Nat) : List Char :=
  let digits := (Nat.repr n).toList
  List.replicate (width - digits.length) '0' ++ digits

/-- The sign of a year that is written with one. -/
def yearSign (year : Int) : List Char :=
  if year < 0 then ['-'] else if 9999 < year then ['+'] else []

def chars (d : Date) : List Char :=
  yearSign d.year ++ zeroPadded 4 d.year.natAbs ++
    '-' :: (zeroPadded 2 d.month ++ '-' :: zeroPadded 2 d.day)

def text (d : Date) : String := String.ofList d.chars

/-! ## Reading -/

/-- A number of one to `limit` digits at the front, as many as there are. -/
def readDigits (limit : Nat) (cs : List Char) : Option (Nat × List Char) :=
  let ds := (cs.take limit).takeWhile Text.isDigit
  if ds.isEmpty then none else some (Text.digitsValue ds, cs.drop ds.length)

/-- A year: up to four digits, or a sign and digits without limit. -/
def readYear : List Char → Option (Int × List Char)
  | '-' :: r => (readDigits r.length r).map fun (n, rest) => (-(n : Int), rest)
  | '+' :: r => (readDigits r.length r).map fun (n, rest) => ((n : Int), rest)
  | r => (readDigits 4 r).map fun (n, rest) => ((n : Int), rest)

/-- A hyphen, white space, and a number of one or two digits. -/
def readPart : List Char → Option (Nat × List Char)
  | '-' :: r => readDigits 2 (r.dropWhile Text.isBlankChar)
  | _ => none

/-- The date that the text denotes, if it denotes one. -/
def read? (s : String) : Option Date := do
  let (year, afterYear) ← readYear (Text.trimChars s.toList)
  let (month, afterMonth) ← readPart afterYear
  let (day, rest) ← readPart afterMonth
  if rest.isEmpty then ofParts? year month day else none

instance : Json.Codec Date where
  write d := .text d.text
  read? v := (Json.Codec.read? (α := String) v).bind read?

end BillDesk.Date
