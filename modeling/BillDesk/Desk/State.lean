import BillDesk.Balance
import BillDesk.Bill.Eligibility
import BillDesk.Bill.Instruction
import BillDesk.Contact
import BillDesk.Identity
import BillDesk.Notice

/-!
# The desk

Everything that the views show: the identity, the local peer, contacts and bills as they were last
fetched, the balance, the page, the bill that is open and the notices. Each operation changes one
part. The balance is no part of its own: it follows the bills and the peer.

Results: `setSnapshot_fst_iff` (a snapshot is taken exactly when its bill is the open one),
`setSnapshot_of_not_open` (a late snapshot changes nothing).
-/

namespace BillDesk

inductive Page where
  /-- Shown until an identity exists. -/
  | identity
  | home
  | bills
  | contacts
  | issueBill
  | bill (name : String)
  | repay (instruction : Bill.Instruction)
  | buy (instruction : Bill.Instruction)
  deriving DecidableEq

/-- The bill that the user looks at, under the name that it was opened by. -/
structure OpenBill where
  name : String
  snapshot : Bill.Snapshot
  deriving DecidableEq

structure Desk where
  identity? : Option Identity := none
  peer? : Option PeerId := none
  contacts : List Contact := []
  bills : List Bill := []
  balance : Balance := {}
  page : Page := .identity
  openBill? : Option OpenBill := none
  board : NoticeBoard := {}
  deriving DecidableEq

namespace Desk

/-! ## Views -/

def identityCreated (d : Desk) : Bool := d.identity?.any Identity.isCreated

/-- Without an identity there is nothing to do but to create one. -/
def startPage (d : Desk) : Page := if d.identityCreated then .home else .identity

def openSnapshot (d : Desk) : Bill.Snapshot := (d.openBill?.map OpenBill.snapshot).getD .loading

/-- What the local peer may do about the open bill. -/
def eligibility (d : Desk) : Bill.Eligibility :=
  match d.openBill? with
  | some o => o.snapshot.eligibility d.peer?
  | none => .notYetLoaded

/-! ## Operations -/

/-- The balance of the bills for the local peer, once it is known. -/
def rebalance (d : Desk) : Desk :=
  { d with balance := (d.peer?.map (Balance.ofBills d.bills)).getD {} }

def setIdentity (d : Desk) (i : Identity) : Desk := { d with identity? := some i }

def setPeer (d : Desk) (p : PeerId) : Desk := { d with peer? := some p }.rebalance

def setContacts (d : Desk) (cs : List Contact) : Desk := { d with contacts := cs }

def setBills (d : Desk) (bs : List Bill) : Desk := { d with bills := bs }.rebalance

/-- Shows a bill, as loading until its snapshot arrives. -/
def openBill (d : Desk) (name : String) : Desk := { d with openBill? := some ⟨name, .loading⟩ }

/-- Takes the snapshot of the open bill, and tells whether it was taken. A snapshot that comes late,
for a bill that is not open any more, is dropped. -/
def setSnapshot (d : Desk) (name : String) (s : Bill.Snapshot) : Bool × Desk :=
  match d.openBill? with
  | some o => if o.name = name then (true, { d with openBill? := some ⟨name, s⟩ }) else (false, d)
  | none => (false, d)

def closeBill (d : Desk) : Desk := { d with openBill? := none }

def navigate (d : Desk) (p : Page) : Desk := { d with page := p }

def notify (d : Desk) (kind : NoticeKind) (text : String) : Desk :=
  { d with board := d.board.push kind text }

def dismiss (d : Desk) (id : Nat) : Bool × Desk :=
  let (found, board) := d.board.dismiss id
  (found, { d with board })

theorem setSnapshot_fst_iff {d : Desk} {name : String} {s : Bill.Snapshot} :
    (d.setSnapshot name s).1 = true ↔ d.openBill?.map OpenBill.name = some name := by
  unfold setSnapshot
  split
  · split <;> simp_all
  · simp_all

theorem setSnapshot_of_not_open {d : Desk} {name : String} {s : Bill.Snapshot}
    (h : (d.setSnapshot name s).1 = false) : (d.setSnapshot name s).2 = d := by
  revert h
  unfold setSnapshot
  split
  · split <;> simp
  · simp

end Desk

end BillDesk
