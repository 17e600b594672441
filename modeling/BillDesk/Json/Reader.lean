import BillDesk.Json.Value
import BillDesk.Text.Digits

/-!
# Reading JSON

A reader takes the characters that remain and gives the value together with what follows it. The
grammar is that of JSON itself: no trailing comma, no leading zero, no raw control character in a
string, white space of four characters only. Nesting is not limited.

`Json.read?` takes a whole text, so nothing but white space may follow the value.
-/

namespace BillDesk.Json

/-- The four characters that may stand between tokens. -/
def isSpace (c : Char) : Bool := c = ' ' || c = '\n' || c = '\t' || c = '\r'

def skipSpace (cs : List Char) : List Char := cs.dropWhile isSpace

/-! ## Strings -/

/-- The number that the four digits of an escape denote. -/
def hexUnit (a b c d : Char) : Option Nat := do
  let high := (← Text.hexDigitValue? a) * 16 + (← Text.hexDigitValue? b)
  let low := (← Text.hexDigitValue? c) * 16 + (← Text.hexDigitValue? d)
  return high * 256 + low

/-- The character that a two-character escape stands for. -/
def shortEscape : Char → Option Char
  | '"' => some '"'
  | '\\' => some '\\'
  | '/' => some '/'
  | 'b' => some '\x08'
  | 'f' => some '\x0c'
  | 'n' => some '\n'
  | 'r' => some '\r'
  | 't' => some '\t'
  | _ => none

/-- The units of a string literal up to its closing quote: a code point for each character and
short escape, a UTF-16 unit for each `\u` escape. -/
def readUnits : List Char → Option (List Nat × List Char)
  | [] => none
  | '"' :: r => some ([], r)
  | '\\' :: 'u' :: a :: b :: c :: d :: r => do
      let u ← hexUnit a b c d
      let (us, rest) ← readUnits r
      return (u :: us, rest)
  | '\\' :: e :: r => do
      let c ← shortEscape e
      let (us, rest) ← readUnits r
      return (c.toNat :: us, rest)
  | c :: r =>
      if c.toNat < 32 || c = '\\' then none
      else do
        let (us, rest) ← readUnits r
        return (c.toNat :: us, rest)

def isHighSurrogate (u : Nat) : Bool := 0xD800 ≤ u && u < 0xDC00

def isLowSurrogate (u : Nat) : Bool := 0xDC00 ≤ u && u < 0xE000

/-- The characters that the units denote, surrogates taken in pairs; nothing if one stands alone. -/
def joinUnits : List Nat → Option (List Char)
  | [] => some []
  | [u] => if isHighSurrogate u || isLowSurrogate u then none else some [Char.ofNat u]
  | u :: v :: r =>
      if isHighSurrogate u then
        if isLowSurrogate v then
          (joinUnits r).map (Char.ofNat (0x10000 + (u - 0xD800) * 0x400 + (v - 0xDC00)) :: ·)
        else none
      else if isLowSurrogate u then none
      else (joinUnits (v :: r)).map (Char.ofNat u :: ·)

/-- A string literal after its opening quote. -/
def readText (cs : List Char) : Option (Text × List Char) :=
  (readUnits cs).map fun (us, rest) => ((joinUnits us).map String.ofList, rest)

/-! ## Numbers -/

/-- An optional fraction: a point and at least one digit. -/
def readFraction : List Char → Option (List Char × List Char)
  | '.' :: r =>
      let (ds, rest) := Text.spanDigits r
      if ds.isEmpty then none else some ('.' :: ds, rest)
  | r => some ([], r)

/-- The digits of an exponent, after its letter and sign. -/
def readExponentDigits (lead r : List Char) : Option (List Char × List Char) :=
  let (ds, rest) := Text.spanDigits r
  if ds.isEmpty then none else some (lead ++ ds, rest)

/-- An optional exponent: a letter, an optional sign and at least one digit. -/
def readExponent : List Char → Option (List Char × List Char)
  | 'e' :: '+' :: r => readExponentDigits ['e', '+'] r
  | 'e' :: '-' :: r => readExponentDigits ['e', '-'] r
  | 'e' :: r => readExponentDigits ['e'] r
  | 'E' :: '+' :: r => readExponentDigits ['E', '+'] r
  | 'E' :: '-' :: r => readExponentDigits ['E', '-'] r
  | 'E' :: r => readExponentDigits ['E'] r
  | r => some ([], r)

/-- A number after its sign. A zero in front is the whole integer part. -/
def readMagnitude (negative : Bool) (cs : List Char) : Option (Value × List Char) := do
  let (ds, afterDigits) := Text.spanDigits cs
  if ds.isEmpty || (ds.head? = some '0' && ds.length ≠ 1) then none
  else
    let (fraction, afterFraction) ← readFraction afterDigits
    let (exponent, rest) ← readExponent afterFraction
    if fraction.isEmpty && exponent.isEmpty then
      return (.integer negative (Text.digitsValue ds), rest)
    else
      let sign := if negative then ['-'] else []
      return (.decimal (String.ofList (sign ++ ds ++ fraction ++ exponent)), rest)

def readNumber : List Char → Option (Value × List Char)
  | '-' :: r => readMagnitude true r
  | r => readMagnitude false r

/-! ## Values -/

mutual

/-- The value at the front. Each nested value and each further element takes from the fuel. -/
def readValue : Nat → List Char → Option (Value × List Char)
  | 0, _ => none
  | fuel + 1, cs =>
      match skipSpace cs with
      | 'n' :: 'u' :: 'l' :: 'l' :: r => some (.null, r)
      | 't' :: 'r' :: 'u' :: 'e' :: r => some (.bool true, r)
      | 'f' :: 'a' :: 'l' :: 's' :: 'e' :: r => some (.bool false, r)
      | '"' :: r => (readText r).map fun (t, rest) => (.string t, rest)
      | '[' :: r =>
          match skipSpace r with
          | ']' :: rest => some (.array [], rest)
          | r => (readElements fuel r).map fun (vs, rest) => (.array vs, rest)
      | '{' :: r =>
          match skipSpace r with
          | '}' :: rest => some (.object [], rest)
          | r => (readMembers fuel r).map fun (ms, rest) => (.object ms, rest)
      | r => readNumber r

/-- The elements up to the closing bracket, at least one. -/
def readElements : Nat → List Char → Option (List Value × List Char)
  | 0, _ => none
  | fuel + 1, cs => do
      let (v, afterValue) ← readValue fuel cs
      match skipSpace afterValue with
      | ',' :: r => do
          let (vs, rest) ← readElements fuel r
          return (v :: vs, rest)
      | ']' :: rest => return ([v], rest)
      | _ => none

/-- The members up to the closing brace, at least one. -/
def readMembers : Nat → List Char → Option (List (Text × Value) × List Char)
  | 0, _ => none
  | fuel + 1, cs =>
      match skipSpace cs with
      | '"' :: r => do
          let (key, afterKey) ← readText r
          match skipSpace afterKey with
          | ':' :: r => do
              let (v, afterValue) ← readValue fuel r
              match skipSpace afterValue with
              | ',' :: r => do
                  let (ms, rest) ← readMembers fuel r
                  return ((key, v) :: ms, rest)
              | '}' :: rest => return ([(key, v)], rest)
              | _ => none
          | _ => none
      | _ => none

end

/-- The value that the whole text denotes. Every step of the reader takes a character for at most
two units of fuel, so the fuel never decides. -/
def read? (s : String) : Option Value := do
  let cs := s.toList
  let (v, rest) ← readValue (2 * cs.length + 2) cs
  if (skipSpace rest).isEmpty then some v else none

end BillDesk.Json
