import BillDesk.Json.Value

/-!
# Writing JSON

Two layouts of one value: `compact` puts nothing between the tokens, `pretty` puts each element and
member on a line of its own, indented by two spaces, and leaves an empty array or object closed up.

Within a string only the quote, the backslash and the characters below U+0020 are escaped, the
latter by their short escape where JSON has one.
-/

namespace BillDesk.Json

/-- The hexadecimal digit of a number below sixteen, in lower case. -/
def hexDigit (n : Nat) : Char := Char.ofNat (if n < 10 then 48 + n else 87 + n)

/-- One character inside a string literal. -/
def escapeChar (c : Char) : List Char :=
  if c = '"' then ['\\', '"']
  else if c = '\\' then ['\\', '\\']
  else if c = '\x08' then ['\\', 'b']
  else if c = '\x0c' then ['\\', 'f']
  else if c = '\n' then ['\\', 'n']
  else if c = '\r' then ['\\', 'r']
  else if c = '\t' then ['\\', 't']
  else if c.toNat < 32 then
    ['\\', 'u', '0', '0', hexDigit (c.toNat / 16), hexDigit (c.toNat % 16)]
  else [c]

/-- A string literal. A literal that denotes no text is written as one lone surrogate. -/
def quote : Text → List Char
  | some s => '"' :: (s.toList.flatMap escapeChar ++ ['"'])
  | none => ['"', '\\', 'u', 'd', '8', '0', '0', '"']

/-- The values that are written in one piece. -/
def scalar : Value → List Char
  | .null => "null".toList
  | .bool b => (toString b).toList
  | .integer negative magnitude =>
      (if negative then ['-'] else []) ++ (Nat.repr magnitude).toList
  | .decimal lexeme => lexeme.toList
  | .string t => quote t
  | .array _ => []
  | .object _ => []

mutual

def compactChars : Value → List Char
  | .array [] => ['[', ']']
  | .array (v :: vs) => '[' :: (compactChars v ++ compactElements vs)
  | .object [] => ['{', '}']
  | .object ((k, v) :: ms) => '{' :: (quote k ++ ':' :: (compactChars v ++ compactMembers ms))
  | v => scalar v

/-- What follows the first element of an array. -/
def compactElements : List Value → List Char
  | [] => [']']
  | v :: vs => ',' :: (compactChars v ++ compactElements vs)

/-- What follows the first member of an object. -/
def compactMembers : List (Text × Value) → List Char
  | [] => ['}']
  | (k, v) :: ms => ',' :: (quote k ++ ':' :: (compactChars v ++ compactMembers ms))

end

/-- A new line at the given depth. -/
def newLine (depth : Nat) : List Char := '\n' :: List.replicate (2 * depth) ' '

mutual

def prettyChars (depth : Nat) : Value → List Char
  | .array [] => ['[', ']']
  | .array (v :: vs) =>
      '[' :: (newLine (depth + 1) ++ (prettyChars (depth + 1) v ++ prettyElements depth vs))
  | .object [] => ['{', '}']
  | .object ((k, v) :: ms) =>
      '{' :: (newLine (depth + 1) ++
        (quote k ++ ':' :: ' ' :: (prettyChars (depth + 1) v ++ prettyMembers depth ms)))
  | v => scalar v

/-- What follows the first element of an array that stands at `depth`. -/
def prettyElements (depth : Nat) : List Value → List Char
  | [] => newLine depth ++ [']']
  | v :: vs =>
      ',' :: (newLine (depth + 1) ++ (prettyChars (depth + 1) v ++ prettyElements depth vs))

/-- What follows the first member of an object that stands at `depth`. -/
def prettyMembers (depth : Nat) : List (Text × Value) → List Char
  | [] => newLine depth ++ ['}']
  | (k, v) :: ms =>
      ',' :: (newLine (depth + 1) ++
        (quote k ++ ':' :: ' ' :: (prettyChars (depth + 1) v ++ prettyMembers depth ms)))

end

/-- The value on one line, without spaces. -/
def compact (v : Value) : String := String.ofList (compactChars v)

/-- The value spread over lines. -/
def pretty (v : Value) : String := String.ofList (prettyChars 0 v)

end BillDesk.Json
