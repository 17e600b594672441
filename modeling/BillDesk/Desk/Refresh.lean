import BillDesk.Desk.State
import BillDesk.Portfolio
import BillDesk.Service.Snapshot

/-!
# Refreshing

What happened decides what has to be fetched again. Each resource is fetched by one query, and its
answer is written to the desk: the value if there is one, otherwise an error notice. The open bill
alone has no notice, it is shown as unavailable.
-/

namespace BillDesk

/-- A part of the desk that is fetched from the ledger. -/
inductive Resource where
  | identity
  | peerId
  | contacts
  | bills
  | openBill (name : String)
  deriving DecidableEq

namespace Resource

@[reducible]
def query : Resource → Query
  | .identity => .identity
  | .peerId => .peerId
  | .contacts => .contacts
  | .bills => .bills
  | .openBill name => .bill name

/-- The desk after an answer that failed. -/
def report (d : Desk) (what : String) (e : LedgerError) : Desk :=
  d.notify .error (what ++ ": " ++ (ServiceError.ledger e).message)

/-- The desk after the answer to the query for a resource. -/
def record (d : Desk) : (r : Resource) → Except LedgerError r.query.Answer → Desk
  | .identity, .ok i => d.setIdentity i
  | .identity, .error e => report d "Could not load identity" e
  | .peerId, .ok p => d.setPeer p
  | .peerId, .error e => report d "Could not load peer id" e
  | .contacts, .ok cs => d.setContacts cs
  | .contacts, .error e => report d "Could not load contacts" e
  | .bills, .ok bs => d.setBills (Portfolio.newestFirst bs)
  | .bills, .error e => report d "Could not load bills" e
  | .openBill name, answer => (d.setSnapshot name (Bill.Snapshot.ofAnswer answer)).2

end Resource

/-- A reason for fetching again. -/
inductive Occasion where
  | startup
  | identityChanged
  | contactsChanged
  | billIssued
  | billActionSucceeded (bill : String)
  | billOpened (bill : String)
  deriving DecidableEq

/-- What an occasion makes out of date, in the order in which it is fetched. -/
def Occasion.resources : Occasion → List Resource
  | .startup => [.identity, .peerId, .contacts, .bills]
  | .identityChanged => [.identity]
  | .contactsChanged => [.contacts]
  | .billIssued => [.bills]
  | .billActionSucceeded bill => [.identity, .bills, .openBill bill]
  | .billOpened bill => [.openBill bill]

/-- A resource with the answer to its query. -/
structure Arrival where
  resource : Resource
  answer : Except LedgerError resource.query.Answer

/-- The desk after answers have arrived, in the order of their arrival. -/
def Desk.recordAll (d : Desk) (arrivals : List Arrival) : Desk :=
  arrivals.foldl (fun d a => a.resource.record d a.answer) d

end BillDesk
