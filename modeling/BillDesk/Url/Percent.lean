import BillDesk.Text.Digits

/-!
# Percent-encoding

A character that has no place in a part of a URL is written as the bytes of its UTF-8 encoding, each
as `%` and two upper-case hexadecimal digits. Which characters these are depends on the part, so
each part has its set. Everything outside of printable ASCII is in all of them.
-/

namespace BillDesk.Url

/-! ## Sets -/

/-- Control characters, and everything that is not ASCII. -/
def inControlSet (c : Char) : Bool := c.toNat < 0x20 || 0x7E < c.toNat

def inFragmentSet (c : Char) : Bool := inControlSet c || [' ', '"', '<', '>', '\x60'].contains c

def inQuerySet (c : Char) : Bool := inControlSet c || [' ', '"', '#', '<', '>'].contains c

/-- The query of a special URL. -/
def inSpecialQuerySet (c : Char) : Bool := inQuerySet c || c == '\''

def inPathSet (c : Char) : Bool := inFragmentSet c || ['#', '?', '{', '}'].contains c

def inUserinfoSet (c : Char) : Bool :=
  inPathSet c || ['/', ':', ';', '=', '@', '[', '\\', ']', '^', '|'].contains c

/-- A single segment that is appended to a path. -/
def inSegmentSet (c : Char) : Bool := inPathSet c || c == '/' || c == '%'

/-- A single segment that is appended to the path of a special URL, where a backslash divides
segments too. -/
def inSpecialSegmentSet (c : Char) : Bool := inSegmentSet c || c == '\\'

/-! ## Encoding -/

def upperHexDigit (n : Nat) : Char := Char.ofNat (if n < 10 then 48 + n else 55 + n)

def encodeByte (b : UInt8) : List Char :=
  ['%', upperHexDigit (b.toNat / 16), upperHexDigit (b.toNat % 16)]

def encodeChar (set : Char → Bool) (c : Char) : List Char :=
  if set c then (String.utf8EncodeChar c).flatMap encodeByte else [c]

def percentEncode (set : Char → Bool) (cs : List Char) : List Char := cs.flatMap (encodeChar set)

/-! ## Decoding -/

/-- The byte that two hexadecimal digits denote. -/
def hexByte? (a b : Char) : Option UInt8 := do
  return UInt8.ofNat ((← Text.hexDigitValue? a) * 16 + (← Text.hexDigitValue? b))

/-- The bytes that the characters denote. A percent sign without two digits stands for itself. -/
def percentDecode : List Char → List UInt8
  | [] => []
  | '%' :: a :: b :: r =>
      match hexByte? a b with
      | some byte => byte :: percentDecode r
      | none => String.utf8EncodeChar '%' ++ percentDecode (a :: b :: r)
  | c :: r => String.utf8EncodeChar c ++ percentDecode r

end BillDesk.Url
