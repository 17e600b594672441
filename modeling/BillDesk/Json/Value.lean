/-!
# JSON values

A JSON text as the ledger and the command line exchange it. A value keeps what the acceptance of a
record looks at: the members of an object in order with repetitions, and whether a number is
written as an integer.

A string literal may escape half of a surrogate pair. Such a literal is well-formed but denotes no
text, so a string is an `Option String`, and `none` stands for every such literal.
-/

namespace BillDesk.Json

/-- What a string literal denotes: a text, or nothing when half of a surrogate pair stands alone. -/
abbrev Text := Option String

inductive Value where
  | null
  | bool (b : Bool)
  /-- A number written without fraction and exponent; `-0` is `integer true 0`. -/
  | integer (negative : Bool) (magnitude : Nat)
  /-- A number with a fraction or an exponent, as it is written. -/
  | decimal (lexeme : String)
  | string (text : Text)
  | array (elements : List Value)
  | object (members : List (Text × Value))
  deriving Inhabited

namespace Value

def text (s : String) : Value := .string (some s)

def nat (n : Nat) : Value := .integer false n

def int (i : Int) : Value := .integer (i < 0) i.natAbs

/-- An optional value is written as `null` when it is absent. -/
def optional {α : Type} (write : α → Value) : Option α → Value
  | none => .null
  | some a => write a

def list {α : Type} (write : α → Value) (xs : List α) : Value := .array (xs.map write)

/-- An object with the given members, in this order. -/
def record (members : List (String × Value)) : Value :=
  .object (members.map fun m => (some m.1, m.2))

end Value

end BillDesk.Json
