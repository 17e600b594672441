import BillDesk.PeerId

/-!
# Parties

A party is named on a bill by value, with the peer that stands behind it. A party whose peer id is
empty is a placeholder: the role was never filled.
-/

namespace BillDesk

structure Party where
  name : String
  peerId : PeerId
  company : String := ""
  postalAddress : String := ""
  email : String := ""
  deriving DecidableEq, Inhabited

namespace Party

/-- Nobody stands behind the party. -/
def isPlaceholder (p : Party) : Bool := p.peerId.isEmpty

open Json in
instance : Codec Party where
  write p := .record [
    ("name", Codec.write p.name),
    ("peer_id", Codec.write p.peerId),
    ("company", Codec.write p.company),
    ("postal_address", Codec.write p.postalAddress),
    ("email", Codec.write p.email)]
  read? v := do
    let row ← v.row? ["name", "peer_id", "company", "postal_address", "email"]
    return {
      name := ← row.required "name"
      peerId := ← row.required "peer_id"
      company := ← row.withDefault "company" ""
      postalAddress := ← row.withDefault "postal_address" ""
      email := ← row.withDefault "email" "" }

end Party

end BillDesk
