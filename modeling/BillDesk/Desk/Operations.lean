import BillDesk.Desk.Session

/-!
# What a user does

Every operation leaves its result on the desk. A failure is one error notice and nothing else. A
success is a success notice, a refresh of exactly what the change has made out of date, and the page
that comes next.

Paying and buying end with an instruction: the money moves outside of the ledger, so nothing is sent
and nothing is fetched.
-/

namespace BillDesk

/-- What came of an action on a bill. -/
inductive Outcome where
  /-- The ledger took the action. It shows once the bill is fetched again. -/
  | submitted (action : Bill.Action)
  /-- The user has to pay as instructed. -/
  | paymentRequired (action : Bill.Action) (instruction : Bill.Instruction)
  deriving DecidableEq

namespace Session

variable {σ : Type} (L : Ledger σ)

/-! ## Looking -/

/-- Fetches everything that the start page needs, and goes there. -/
def start : Work σ Unit := do
  refresh L .startup
  change fun d => d.navigate d.startPage

/-- Shows a bill. -/
def openBill (name : String) : Work σ Unit := do
  change (·.openBill name)
  navigate (.bill name)
  refresh L (.billOpened name)

def closeBill : Work σ Unit := change Desk.closeBill

def dismiss (id : Nat) : Work σ Bool := fun s =>
  let (found, desk) := s.desk.dismiss id
  (found, { s with desk })

/-- Fetches what is not kept on the desk. -/
def look (q : Query) (failure : String) : Work σ (Option q.Answer) := do
  match ← ask L q with
  | .ok a => return some a
  | .error e =>
      report failure (ServiceError.ledger e).message
      return none

def chain (bill : String) : Work σ (Option Chain) :=
  look L (.chain bill) "Could not load the chain of the bill"

def operations : Work σ (Option (List Operation)) :=
  look L .operations "Could not load operation codes"

/-! ## Actions on the open bill -/

/-- Where a user is told how to pay. -/
def instructionPage (a : Bill.Action) (i : Bill.Instruction) : Page :=
  match a with
  | .buy => .buy i
  | _ => .repay i

/-- The bill that is open under a name and loaded. -/
def openLoaded? (d : Desk) (name : String) : Option Bill := do
  let o ← d.openBill?
  if o.name = name then o.snapshot.bill? else none

/-- The ledger may lag behind its own answer. When the flag that the action sets is not there yet,
the user is told so. -/
def checkCaughtUp (name : String) (a : Bill.Action) : Work σ Unit := do
  match a.expectedFlag?, openLoaded? (← get).desk name with
  | some flag, some b =>
      if b.status.has flag then return
      else
        notify .info
          (a.label ++ " on bill " ++ name ++ " is not confirmed by the ledger yet.")
  | _, _ => return

/-- What follows an action that the ledger took. -/
def afterSubmission (name : String) (a : Bill.Action) : Work σ Outcome := do
  notify .success (a.label ++ " was submitted for bill " ++ name ++ ".")
  refresh L (.billActionSucceeded name)
  checkCaughtUp name a
  navigate .home
  return .submitted a

/-- Tells the user how to pay. -/
def requirePayment (a : Bill.Action) (i : Bill.Instruction) : Work σ Outcome := do
  notify .info
    ("Pay " ++ Nat.repr i.amount.toNat ++ " " ++ i.currency ++ " to " ++ i.receiver.name ++
      " to complete " ++ a.label ++ ".")
  navigate (instructionPage a i)
  return .paymentRequired a i

/-- Takes an action on the open bill. -/
def execute (r : Bill.Request) : Work σ (Option Outcome) := do
  let d := (← get).desk
  match d.openBill?, d.peer? with
  | some o, some peer =>
      match r.dispatch o.snapshot peer with
      | .error e =>
          report "Action failed" e.message
          return none
      | .ok (.pay i) => some <$> requirePayment r.action i
      | .ok (.send order) =>
          match ← tell L order with
          | .error e =>
              report "Action failed" (BillError.ledger e).message
              return none
          | .ok () => some <$> afterSubmission L o.name r.action
  | _, _ =>
      notify .error "The bill is not loaded yet."
      return none

/-! ## Changes -/

/-- How a kind of change is told to the user, what it makes out of date, and where it leads. -/
structure Change where
  saved : String
  failed : String
  /-- The words for a form that is refused. -/
  refusal : FormError → String
  occasion : Occasion
  page : Page

/-- Makes a change: a checked order is sent and what it made out of date is fetched again. -/
def make (c : Change) (order : Except FormError Order) : Work σ Bool := do
  match order with
  | .error e =>
      report c.failed (c.refusal e)
      return false
  | .ok o =>
      match ← tell L o with
      | .error e =>
          report c.failed (ServiceError.ledger e).message
          return false
      | .ok () =>
          notify .success c.saved
          refresh L c.occasion
          navigate c.page
          return true

def issuing : Change where
  saved := "The bill was issued."
  failed := "Could not issue bill"
  refusal e := (BillError.form e).message
  occasion := .billIssued
  page := .bills

def savingIdentity : Change where
  saved := "The identity was saved."
  failed := "Could not save identity"
  refusal e := (ServiceError.form e).message
  occasion := .identityChanged
  page := .home

def savingContacts : Change where
  saved := "The contacts were saved."
  failed := "Could not save contact"
  refusal e := (ServiceError.form e).message
  occasion := .contactsChanged
  page := .contacts

def issue (f : Bill.IssueForm) : Work σ Bool := make L issuing f.order

def createIdentity (today : Date) (f : Identity.Form) : Work σ Bool :=
  make L savingIdentity (f.createOrder today)

def changeIdentity (today : Date) (f : Identity.Form) : Work σ Bool :=
  make L savingIdentity (f.changeOrder today)

def addContact (name : String) (peer : PeerId) : Work σ Bool := do
  make L savingContacts (Contact.addOrder (← get).desk.contacts name peer)

def editContact (oldName name : String) (peer : PeerId) : Work σ Bool := do
  make L savingContacts (Contact.editOrder (← get).desk.contacts oldName name peer)

def removeContact (name : String) : Work σ Bool := do
  make L savingContacts (Contact.removeOrder (← get).desk.contacts name)

end Session

end BillDesk
