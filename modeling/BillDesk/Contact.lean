import BillDesk.FormError
import BillDesk.PeerId

/-!
# The contact book

Contacts are found by their name, without the white space around it. A change is checked against the
contacts that are loaded, so a duplicate or an unknown name is refused before anything is sent.
-/

namespace BillDesk

structure Contact where
  name : String
  peerId : PeerId
  deriving DecidableEq

namespace Contact

open Json in
instance : Codec Contact where
  write c := .record [("name", Codec.write c.name), ("peer_id", Codec.write c.peerId)]
  read? v := do
    let row ← v.row? ["name", "peer_id"]
    return { name := ← row.required "name", peerId := ← row.required "peer_id" }

/-- The first contact of that name. -/
def find? (book : List Contact) (name : String) : Option Contact :=
  book.find? fun c => Text.trim c.name == Text.trim name

def checkFields (name : String) (peer : PeerId) : Check := do
  refuseIf (Text.isBlank name) (.missing .name)
  refuseIf peer.isEmpty (.missing .peerId)

/-- A new contact is complete and its name is not taken. -/
def checkNew (book : List Contact) (name : String) (peer : PeerId) : Check := do
  checkFields name peer
  refuseIf (find? book name).isSome (.contactExists (Text.trim name))

/-- A changed contact exists, is complete, and does not take the name of another one. -/
def checkChange (book : List Contact) (oldName name : String) (peer : PeerId) : Check := do
  refuseIf (find? book oldName).isNone (.contactUnknown (Text.trim oldName))
  checkFields name peer
  refuseIf (Text.trim name != Text.trim oldName && (find? book name).isSome)
    (.contactExists (Text.trim name))

/-- A contact to be removed is named and exists. -/
def checkRemoval (book : List Contact) (name : String) : Check := do
  refuseIf (Text.isBlank name) (.missing .name)
  refuseIf (find? book name).isNone (.contactUnknown (Text.trim name))

end Contact

end BillDesk
