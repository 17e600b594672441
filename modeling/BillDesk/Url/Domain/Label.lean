import BillDesk.Url.Domain.Composition
import BillDesk.Url.Domain.Joining
import BillDesk.Url.Domain.Mapping
import BillDesk.Url.Punycode

/-!
# Labels of domain names

A domain name consists of labels with dots between them. A label with characters beyond ASCII is
written in Punycode after `xn--`. One that is typed so has to be as it would be written: it stands
for a label that is mapped and composed already, and that is not ASCII.

Result: `normalized?_of_ascii` (of ASCII text only the capitals change).
-/

namespace BillDesk.Url.Domain

/-- Characters that no domain name has. -/
def isForbidden (c : Char) : Bool :=
  c.toNat ≤ 0x20 || c.toNat = 0x7F ||
    ['#', '%', '/', ':', '<', '>', '?', '@', '[', '\\', ']', '^', '|'].contains c

/-- How many characters a label beyond ASCII has at most. -/
def lengthLimit : Nat := 1000

/-- How many characters of Punycode are read at most. -/
def spellingLimit : Nat := 2000

/-- The characters mapped and composed, if all of them can stand in a domain name. -/
def normalized? (cs : List Char) : Option (List Char) :=
  (cs.mapM mapChar).map fun images => composed images.flatten

/-- The characters are mapped and composed already. -/
def isNormalized (cs : List Char) : Bool :=
  (cs.all fun c => mapChar c == some [c]) && composed cs == cs

theorem toLower_of_ascii {c : Char} (h : c.toNat < 128) : c.toLower.toNat < 128 := by
  have all : ∀ n, n < 128 → (Char.ofNat n).toLower.toNat < 128 := by decide
  simpa [Char.ofNat_toNat] using all c.toNat h

theorem normalized?_of_ascii {cs : List Char} (h : ∀ c ∈ cs, c.toNat < 128) :
    normalized? cs = some (cs.map Char.toLower) := by
  have images : cs.mapM mapChar = some (cs.map fun c => [c.toLower]) := by
    induction cs with
    | nil => rfl
    | cons c r ih =>
        have first := mapChar_of_ascii (h c (by simp))
        have others := ih fun d hd => h d (by simp [hd])
        simp [List.mapM_cons, first, others]
  have flat : ∀ l : List Char, (l.map fun c => [c.toLower]).flatten = l.map Char.toLower := by
    intro l
    induction l with
    | nil => rfl
    | cons c r ih => simp [ih]
  have small : ∀ d ∈ cs.map Char.toLower, d.toNat < 128 := by
    intro d hd
    obtain ⟨c, hc, rfl⟩ := List.mem_map.1 hd
    exact toLower_of_ascii (h c hc)
  rw [normalized?, images, Option.map_some, flat, composed_of_ascii small]

/-- A label of a domain name. -/
structure Label where
  /-- The characters that it stands for. -/
  letters : List Char
  /-- How it is written. -/
  ascii : List Char
  deriving DecidableEq

/-- A label can have these letters. -/
def isLabel (letters : List Char) : Bool :=
  !letters.any isForbidden && !letters.head?.any isMark && joinersFit [] letters &&
    (letters.all Punycode.isAscii || letters.length ≤ lengthLimit)

/-- The letters that are spelled after `xn--`. -/
def spelled? (cs : List Char) : Option (List Char) :=
  if cs.isEmpty || cs.getLast? == some '-' || spellingLimit < cs.length then none
  else (Punycode.decode? cs).filter isNormalized

/-- The label that is typed with these characters, which are mapped and composed. -/
def Label.read? (cs : List Char) : Option Label :=
  match cs with
  | 'x' :: 'n' :: '-' :: '-' :: spelling =>
      ((spelled? spelling).filter isLabel).map fun letters => ⟨letters, cs⟩
  | _ =>
      if !isLabel cs then none
      else if cs.all Punycode.isAscii then some ⟨cs, cs⟩
      else some ⟨cs, "xn--".toList ++ Punycode.encode cs⟩

end BillDesk.Url.Domain
