import BillDesk.Json.Reader

/-!
# The grammar of JSON

Which characters spell which value, as a relation that knows nothing of how a text is read. White
space may stand around values, names, commas and colons. A string is spelled unit by unit, and a
number by its whole part, an optional fraction and an optional exponent.

`IsText s v`: the whole text `s` spells the value `v`, with white space around it.
-/

namespace BillDesk.Json

/-- White space may stand between two tokens. -/
def IsGap (cs : List Char) : Prop := ∀ c ∈ cs, isSpace c = true

/-! ## Strings -/

/-- A character stands for itself, or is escaped in one of two ways. -/
inductive SpellsUnit : List Char → Nat → Prop
  | raw {c : Char} (hquote : c ≠ '"') (hbackslash : c ≠ '\\') (hcontrol : 32 ≤ c.toNat) :
      SpellsUnit [c] c.toNat
  | short {e c : Char} (h : shortEscape e = some c) : SpellsUnit ['\\', e] c.toNat
  | hex {a b c d : Char} {u : Nat} (h : hexUnit a b c d = some u) :
      SpellsUnit ['\\', 'u', a, b, c, d] u

inductive SpellsUnits : List Char → List Nat → Prop
  | nil : SpellsUnits [] []
  | cons {cs ds : List Char} {u : Nat} {us : List Nat} (h : SpellsUnit cs u)
      (hrest : SpellsUnits ds us) : SpellsUnits (cs ++ ds) (u :: us)

/-- A string literal with its quotes. It denotes the text of its units, if they make one. -/
inductive SpellsText : List Char → Text → Prop
  | intro {cs : List Char} {us : List Nat} (h : SpellsUnits cs us) :
      SpellsText ('"' :: (cs ++ ['"'])) ((joinUnits us).map String.ofList)

/-! ## Numbers -/

/-- Digits alone, at least one. -/
structure IsDigits (ds : List Char) : Prop where
  digits : ∀ c ∈ ds, Text.isDigit c = true
  nonempty : ds ≠ []

/-- The whole part of a number. A zero in front is all of it. -/
structure IsWhole (ds : List Char) : Prop extends IsDigits ds where
  alone : ds.head? = some '0' → ds.length = 1

inductive IsFraction : List Char → Prop
  | none : IsFraction []
  | point {ds : List Char} (h : IsDigits ds) : IsFraction ('.' :: ds)

inductive IsExponent : List Char → Prop
  | none : IsExponent []
  | letter {e : Char} {sign ds : List Char} (he : e = 'e' ∨ e = 'E')
      (hsign : sign = [] ∨ sign = ['+'] ∨ sign = ['-']) (h : IsDigits ds) :
      IsExponent (e :: (sign ++ ds))

def signChars (negative : Bool) : List Char := if negative then ['-'] else []

/-- An integer has neither fraction nor exponent. Another number is kept as it is written. -/
inductive SpellsNumber : List Char → Value → Prop
  | integer (negative : Bool) {ds : List Char} (h : IsWhole ds) :
      SpellsNumber (signChars negative ++ ds) (.integer negative (Text.digitsValue ds))
  | decimal (negative : Bool) {ds fraction exponent : List Char} (h : IsWhole ds)
      (hfraction : IsFraction fraction) (hexponent : IsExponent exponent)
      (hne : fraction ++ exponent ≠ []) :
      SpellsNumber (signChars negative ++ (ds ++ (fraction ++ exponent)))
        (.decimal (String.ofList (signChars negative ++ (ds ++ (fraction ++ exponent)))))

/-! ## Values -/

/-- What characters may spell: a value, a name with its value, the elements of an array between its
brackets, or the members of an object between its braces. -/
inductive Part where
  | value (v : Value)
  | member (name : Text) (v : Value)
  | elements (vs : List Value)
  | members (ms : List (Text × Value))

inductive Spells : List Char → Part → Prop
  | null : Spells ['n', 'u', 'l', 'l'] (.value .null)
  | true : Spells ['t', 'r', 'u', 'e'] (.value (.bool true))
  | false : Spells ['f', 'a', 'l', 's', 'e'] (.value (.bool false))
  | number {cs : List Char} {v : Value} (h : SpellsNumber cs v) : Spells cs (.value v)
  | string {cs : List Char} {t : Text} (h : SpellsText cs t) : Spells cs (.value (.string t))
  | emptyArray {gap : List Char} (hgap : IsGap gap) :
      Spells ('[' :: (gap ++ [']'])) (.value (.array []))
  | array {cs : List Char} {vs : List Value} (h : Spells cs (.elements vs)) :
      Spells ('[' :: (cs ++ [']'])) (.value (.array vs))
  | emptyObject {gap : List Char} (hgap : IsGap gap) :
      Spells ('{' :: (gap ++ ['}'])) (.value (.object []))
  | object {cs : List Char} {ms : List (Text × Value)} (h : Spells cs (.members ms)) :
      Spells ('{' :: (cs ++ ['}'])) (.value (.object ms))
  | lastElement {before cs after : List Char} {v : Value} (hbefore : IsGap before)
      (h : Spells cs (.value v)) (hafter : IsGap after) :
      Spells (before ++ (cs ++ after)) (.elements [v])
  | element {before cs after ds : List Char} {v : Value} {vs : List Value}
      (hbefore : IsGap before) (h : Spells cs (.value v)) (hafter : IsGap after)
      (hrest : Spells ds (.elements vs)) :
      Spells (before ++ (cs ++ (after ++ ',' :: ds))) (.elements (v :: vs))
  | named {key before after cs : List Char} {name : Text} {v : Value} (hkey : SpellsText key name)
      (hbefore : IsGap before) (hafter : IsGap after) (h : Spells cs (.value v)) :
      Spells (key ++ (before ++ ':' :: (after ++ cs))) (.member name v)
  | lastMember {before cs after : List Char} {name : Text} {v : Value} (hbefore : IsGap before)
      (h : Spells cs (.member name v)) (hafter : IsGap after) :
      Spells (before ++ (cs ++ after)) (.members [(name, v)])
  | member {before cs after ds : List Char} {name : Text} {v : Value} {ms : List (Text × Value)}
      (hbefore : IsGap before) (h : Spells cs (.member name v)) (hafter : IsGap after)
      (hrest : Spells ds (.members ms)) :
      Spells (before ++ (cs ++ (after ++ ',' :: ds))) (.members ((name, v) :: ms))

/-- The whole text spells the value, with white space around it. -/
def IsText (s : String) (v : Value) : Prop :=
  ∃ before cs after, IsGap before ∧ Spells cs (.value v) ∧ IsGap after ∧
    s.toList = before ++ (cs ++ after)

end BillDesk.Json
