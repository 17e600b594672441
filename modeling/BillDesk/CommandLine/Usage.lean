import BillDesk.Text.Digits

/-!
# Argument values

What the arguments of one level of a command line gave, and why arguments are refused. A value is
kept as it was typed and read by the kind of its argument.

Results: `readAmount?_digits` (digits alone are read as the number that they denote).
-/

namespace BillDesk.CommandLine

/-- Why the arguments name no command to run. -/
inductive UsageError where
  /-- Help was asked for. -/
  | help
  /-- The version was asked for. -/
  | version
  /-- A command was left out and nothing else was said: help is shown. -/
  | helpForMissingCommand
  | missingCommand
  | unknownCommand
  | unknownArgument
  | missingArgument
  /-- An argument that is given once was given twice. -/
  | repeatedArgument
  /-- An argument that takes no value was given one. -/
  | unexpectedValue
  /-- A value is missing, or is none of those that the argument admits. -/
  | invalidValue
  /-- A value is no number of the argument's range. -/
  | unreadableValue
  deriving DecidableEq

/-- Help and the version were wanted; everything else is misuse. -/
def UsageError.exitCode : UsageError → UInt8
  | .help | .version => 0
  | _ => 2

/-- The text without a plus sign in front. -/
def dropPlus : List Char → List Char
  | '+' :: cs => cs
  | cs => cs

/-- An amount is written with digits, after a plus sign if one likes, and is below 2^64. -/
def readAmount? (s : String) : Option UInt64 := do
  let n ← Text.readNat? (dropPlus s.toList)
  if n < UInt64.size then return UInt64.ofNat n else none

theorem dropPlus_of_readNat? {cs : List Char} {n : Nat} (h : Text.readNat? cs = some n) :
    dropPlus cs = cs := by
  unfold dropPlus
  split
  next r =>
    have hplus : Text.readNat? ('+' :: r) = none := by simp [Text.readNat?, Text.isDigit]
    rw [hplus] at h
    cases h
  next => rfl

theorem readAmount?_digits {s : String} {n : Nat} (h : Text.readNat? s.toList = some n)
    (hn : n < UInt64.size) : readAmount? s = some (UInt64.ofNat n) := by
  unfold readAmount?
  rw [dropPlus_of_readNat? h, h]
  exact if_pos hn

/-- How the value of an argument is read. -/
inductive ValueKind where
  | text
  | amount
  | oneOf (names : List String)

/-- A value that its kind does not admit is an error. -/
def ValueKind.check : ValueKind → String → Except UsageError Unit
  | .text, _ => .ok ()
  | .amount, v => if (readAmount? v).isSome then .ok () else .error .unreadableValue
  | .oneOf names, v => if names.contains v then .ok () else .error .invalidValue

/-- The arguments given at one level, each with its value. A flag has an empty one. -/
abbrev Given := List (String × String)

namespace Given

def has (g : Given) (name : String) : Bool := (g.lookup name).isSome

def text? (g : Given) (name : String) : Option String := g.lookup name

def text (g : Given) (name : String) : Except UsageError String :=
  match g.lookup name with
  | some v => .ok v
  | none => .error .missingArgument

def textOr (g : Given) (name default : String) : String := (g.lookup name).getD default

def amount (g : Given) (name : String) : Except UsageError UInt64 := do
  match readAmount? (← g.text name) with
  | some n => return n
  | none => throw .unreadableValue

def amountOr (g : Given) (name : String) (default : UInt64) : Except UsageError UInt64 :=
  if g.has name then g.amount name else .ok default

/-- One of several named choices. -/
def choiceOr {α : Type} (g : Given) (name : String) (named : String → Option α) (default : α) :
    Except UsageError α :=
  match g.lookup name with
  | none => .ok default
  | some v =>
      match named v with
      | some a => .ok a
      | none => .error .invalidValue

end Given

end BillDesk.CommandLine
