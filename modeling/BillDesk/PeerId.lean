import BillDesk.FormError
import BillDesk.Json.Codec
import BillDesk.Text.Blank

/-!
# Peer ids

A peer id names a node. It is opaque: peers are told apart by comparing their ids, and an empty id,
as the ledger sends it for a party that was never filled in, is nobody's.

Results: `sameNode_iff` (two ids match exactly when they are equal and not empty).
-/

namespace BillDesk

structure PeerId where
  text : String
  deriving DecidableEq, Inhabited

namespace PeerId

/-- An id as it is typed, without the white space around it. Ids of the ledger are kept as sent. -/
def ofInput (s : String) : PeerId := ⟨Text.trim s⟩

def isEmpty (p : PeerId) : Bool := p.text.isEmpty

/-- An id that has to be typed. -/
def ofRequiredInput (s : String) : Except FormError PeerId :=
  if (ofInput s).isEmpty then .error (.missing .peerId) else .ok (ofInput s)

/-- Both ids name the same node. -/
def sameNode (a b : PeerId) : Bool := !a.isEmpty && !b.isEmpty && a.text == b.text

theorem sameNode_iff {a b : PeerId} : a.sameNode b = true ↔ a = b ∧ a.isEmpty = false := by
  cases a with
  | mk s =>
    cases b with
    | mk t =>
      simp only [sameNode, isEmpty, Bool.and_eq_true, Bool.not_eq_true', beq_iff_eq, mk.injEq]
      constructor
      · rintro ⟨⟨h, _⟩, rfl⟩
        exact ⟨rfl, h⟩
      · rintro ⟨rfl, h⟩
        exact ⟨⟨h, h⟩, rfl⟩

instance : Json.Codec PeerId where
  write p := .text p.text
  read? v := (Json.Codec.read? v).map PeerId.mk

end PeerId

end BillDesk
