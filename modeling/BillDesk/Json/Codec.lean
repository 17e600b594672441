import BillDesk.Json.Value

/-!
# Types with a JSON form

`Codec α` says how a value of `α` is written and which JSON values are accepted for it. Nothing is
coerced: a text is not a number, a number is not a flag, and an amount has to be written as an
integer within its range.

A record is accepted in two forms. As an object its members may stand in any order and unknown ones
are passed over, but no known member may be given twice. As an array it lists its members in their
declared order, and may end early. In both forms a member that is left out is an error unless it has
a default.
-/

namespace BillDesk.Json

class Codec (α : Type) where
  write : α → Value
  read? : Value → Option α

namespace Codec

instance : Codec String where
  write := .text
  read?
    | .string (some s) => some s
    | _ => none

instance : Codec Bool where
  write := .bool
  read?
    | .bool b => some b
    | _ => none

/-- A number below 2^64 without a sign. -/
instance : Codec UInt64 where
  write n := .nat n.toNat
  read?
    | .integer false n => if n < UInt64.size then some (UInt64.ofNat n) else none
    | _ => none

/-- A number from -2^63 to 2^63 - 1. The negative zero is no integer. -/
instance : Codec Int64 where
  write n := .int n.toInt
  read?
    | .integer false n => if n < 0x8000000000000000 then some (Int64.ofNat n) else none
    | .integer true n => if 0 < n ∧ n ≤ 0x8000000000000000 then some (Int64.ofInt (-n)) else none
    | _ => none

instance {α : Type} [Codec α] : Codec (Option α) where
  write := .optional write
  read?
    | .null => some none
    | v => (read? v).map some

instance {α : Type} [Codec α] : Codec (List α) where
  write := .list write
  read?
    | .array vs => vs.mapM read?
    | _ => none

end Codec

/-- The members given for a record, by name. -/
abbrev Row := List (String × Value)

/-- No name of the row occurs twice. -/
def Row.distinct : Row → Bool
  | [] => true
  | m :: ms => !(ms.map Prod.fst).contains m.1 && Row.distinct ms

/-- The members of an object that belong to the fields. Every name has to denote a text, and no
field may be given twice. -/
def memberRow (fields : List String) (members : List (Text × Value)) : Option Row := do
  let named ← members.mapM fun m => m.1.map fun name => (name, m.2)
  let row := named.filter fun m => fields.contains m.1
  if Row.distinct row then some row else none

/-- The row of a record with the given fields in declared order. -/
def Value.row? (fields : List String) : Value → Option Row
  | .object members => memberRow fields members
  | .array elements =>
      if elements.length ≤ fields.length then some (fields.zip elements) else none
  | _ => none

namespace Row

def required {α : Type} [Codec α] (row : Row) (name : String) : Option α :=
  (row.lookup name).bind Codec.read?

def withDefault {α : Type} [Codec α] (row : Row) (name : String) (default : α) : Option α :=
  match row.lookup name with
  | none => some default
  | some v => Codec.read? v

end Row

/-- A value of an enumeration is its name, or an object whose only member is that name with
`null`. -/
def readName? {α : Type} (named : String → Option α) : Value → Option α
  | .string (some s) => named s
  | .object [(some s, .null)] => named s
  | _ => none

/-- The value that a text denotes for a type. -/
def decode? (α : Type) [Codec α] (v : Option Value) : Option α := v.bind Codec.read?

end BillDesk.Json
