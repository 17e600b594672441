import BillDesk.Bill.Instruction
import BillDesk.Bill.Request
import BillDesk.Service.Error

/-!
# What is sent to the ledger

Each change goes through a decision before it is sent: the form is checked, and what passes becomes
the one order that the ledger is told. Names are sent without the white space around them, except on
the issue form, which is sent as it was filled in.

An action on a bill is decided by the snapshot that the user sees: it has to be loaded, the form has
to fit it, and the action has to be eligible, in this order. Paying and buying send no order, they
give an instruction.
-/

namespace BillDesk

/-- What becomes of an action on a bill. -/
inductive Dispatch where
  | send (order : Order)
  | pay (instruction : Bill.Instruction)
  deriving DecidableEq

namespace Bill.Request

/-- The instruction for an action that is settled outside of the ledger. -/
def instructed (b : Bill) (a : Action) (i? : Option Instruction) : Except BillError Dispatch :=
  match i? with
  | some i => .ok (.pay i)
  | none => .error (.noPaymentData b.name a)

/-- What an eligible request turns into. -/
def settle (r : Request) (b : Bill) : Except BillError Dispatch :=
  match r with
  | pay => instructed b .pay b.paymentInstruction?
  | buy => instructed b .buy b.buyInstruction?
  | accept => .ok (.send (.accept b.name))
  | endorse endorsee => .ok (.send (.endorse b.name (Text.trim endorsee)))
  | sell buyer amount => .ok (.send (.sell b.name (Text.trim buyer) amount))
  | requestToAccept => .ok (.send (.requestToAccept b.name))
  | requestToPay => .ok (.send (.requestToPay b.name))

/-- What becomes of the request on a bill that is loaded. -/
def decide (r : Request) (b : Bill) (peer : PeerId) : Except BillError Dispatch :=
  match r.check b with
  | .error e => .error (.form e)
  | .ok () =>
      if (b.eligibleActions peer).contains r.action then r.settle b
      else .error (.notEligible r.action b.name)

/-- What becomes of the request on what the user sees. -/
def dispatch (r : Request) (s : Snapshot) (peer : PeerId) : Except BillError Dispatch :=
  match s with
  | .loading => .error (.unavailable "still loading")
  | .unavailable reason => .error (.unavailable reason)
  | .loaded b => r.decide b peer

end Bill.Request

/-- A checked order. -/
def Order.checked (check : Check) (order : Order) : Except FormError Order :=
  match check with
  | .ok () => .ok order
  | .error e => .error e

theorem Order.checked_eq_ok_iff {check : Check} {order order' : Order} :
    Order.checked check order = .ok order' ↔ check = .ok () ∧ order' = order := by
  rcases check with e | _
  · simp [checked]
  · simp [checked, eq_comm]

namespace Bill.IssueForm

def order (f : IssueForm) : Except FormError Order := Order.checked f.check (.issue f)

end Bill.IssueForm

namespace Identity.Form

def createOrder (f : Form) (today : Date) : Except FormError Order :=
  Order.checked (f.check today) (.createIdentity f)

def changeOrder (f : Form) (today : Date) : Except FormError Order :=
  Order.checked (f.check today) (.changeIdentity f)

end Identity.Form

namespace Contact

def addOrder (book : List Contact) (name : String) (peer : PeerId) : Except FormError Order :=
  Order.checked (checkNew book name peer) (.addContact (Text.trim name) peer)

def editOrder (book : List Contact) (oldName name : String) (peer : PeerId) :
    Except FormError Order :=
  Order.checked (checkChange book oldName name peer)
    (.editContact (Text.trim oldName) (Text.trim name) peer)

def removeOrder (book : List Contact) (name : String) : Except FormError Order :=
  Order.checked (checkRemoval book name) (.removeContact (Text.trim name))

end Contact

end BillDesk
