import BillDesk.Url.Domain.Direction
import BillDesk.Url.Domain.Label
import BillDesk.Url.Error

/-!
# Domain names

A domain name is written in ASCII. Its characters are mapped and composed, it is divided at the
dots, and each label is written for itself, in Punycode where it has other characters.
-/

namespace BillDesk.Url

/-- Splits at each occurrence of a character. -/
def splitAt (sep : Char) : List Char → List (List Char)
  | [] => [[]]
  | c :: r =>
      if c = sep then [] :: splitAt sep r
      else
        match splitAt sep r with
        | [] => [[c]]
        | part :: parts => (c :: part) :: parts

/-- The labels of a domain name, if all of them are labels and fit together. -/
def domainLabels? (cs : List Char) : Option (List Domain.Label) := do
  let name ← Domain.normalized? cs
  let labels ← (splitAt '.' name).mapM Domain.Label.read?
  if Domain.directionsFit (labels.map Domain.Label.letters) then some labels else none

/-- The domain name in ASCII. -/
def asciiDomain (cs : List Char) : Except Error (List Char) :=
  match domainLabels? cs with
  | none => .error .invalidDomain
  | some labels => .ok (['.'].intercalate (labels.map Domain.Label.ascii))

end BillDesk.Url
