import BillDesk.Desk.Operations
import BillDesk.Json.Writer
import BillDesk.View

/-!
# Commands

A command runs one session: it fetches what the start page needs, does its work, and says what is to
be printed, as text or as JSON. Whatever fails on the way is a notice on the desk, and then nothing
is printed. Only when the view of a bill falls before the bill has arrived does the command itself
fail.

The text of a bill that was just acted on is printed even where JSON is asked for.
-/

namespace BillDesk

/-- What the command line can be told to do. -/
inductive Command where
  | showIdentity
  | createIdentity (form : Identity.Form)
  | changeIdentity (form : Identity.Form)
  | listContacts
  | addContact (name : String) (peer : PeerId)
  | editContact (oldName name : String) (peer : PeerId)
  | removeContact (name : String)
  | listBills (filter : Portfolio.Filter)
  | showBill (name : String)
  | showChain (name : String)
  | listActions (name : String)
  | act (bill : String) (request : Bill.Request)
  | issue (form : Bill.IssueForm)
  | showBalance
  | listOperations
  deriving DecidableEq

namespace Command

inductive Failure where
  /-- The view fell while a bill was loading. -/
  | loadingCancelled (bill : String)
  deriving DecidableEq

def Failure.message : Failure → String
  | .loadingCancelled bill => "Loading bill " ++ bill ++ " was cancelled"

/-- How results are printed. -/
inductive Format where
  | text
  | json
  deriving DecidableEq

/-- A result in the format that was asked for. -/
def Format.print (f : Format) (value : Json.Value) (text : String) : String :=
  match f with
  | .text => text
  | .json => Json.pretty value ++ "\n"

open Json in
def printIdentity (f : Format) (d : Desk) : String :=
  let identity := d.identity?.getD {}
  f.print identity.form.write (View.identity identity)

open Json in
def printContacts (f : Format) (d : Desk) : String :=
  f.print (Codec.write d.contacts) (View.contacts d.contacts)

open Json in
def printBills (f : Format) (bills : List Bill) : String :=
  f.print (Codec.write bills) (View.bills bills)

/-- The open bill. One that is not available has a text alone. -/
def printOpenBill (f : Format) (d : Desk) : String :=
  let text := View.bill d.openSnapshot d.eligibility
  match d.openSnapshot.bill? with
  | some b => f.print (Json.Codec.write b) text
  | none => text

def printActions (f : Format) (d : Desk) : String :=
  f.print (.list Bill.Action.write d.eligibility.toList) (View.actions d.eligibility)

def printInstruction (f : Format) (i : Bill.Instruction) : String :=
  f.print i.write (View.instruction i)

def printOutcome (f : Format) (d : Desk) : Option Outcome → String
  | none => ""
  | some (.paymentRequired _ i) => printInstruction f i
  | some (.submitted _) => View.bill d.openSnapshot d.eligibility

variable {σ : Type}

/-- What is printed after a change: nothing if it failed. -/
def printIf (done : Bool) (print : Desk → String) : Work σ String := do
  if done then return print (← get).desk else return ""

variable (L : Ledger σ)

/-- Opens a bill and does something about it once it has arrived. -/
def withBill (name : String) (work : Work σ String) : Work σ (Except Failure String) := do
  Session.openBill L name
  if (← get).desk.openSnapshot = .loading then return .error (.loadingCancelled name)
  else return .ok (← work)

/-- The work of a command, after the start. -/
def work (today : Date) (f : Format) : Command → Work σ (Except Failure String)
  | .showIdentity => .ok <$> printIf true (printIdentity f)
  | .createIdentity form => do
      .ok <$> printIf (← Session.createIdentity L today form) (printIdentity f)
  | .changeIdentity form => do
      .ok <$> printIf (← Session.changeIdentity L today form) (printIdentity f)
  | .listContacts => .ok <$> printIf true (printContacts f)
  | .addContact name peer => do
      .ok <$> printIf (← Session.addContact L name peer) (printContacts f)
  | .editContact oldName name peer => do
      .ok <$> printIf (← Session.editContact L oldName name peer) (printContacts f)
  | .removeContact name => do
      .ok <$> printIf (← Session.removeContact L name) (printContacts f)
  | .listBills filter =>
      .ok <$> printIf true fun d =>
        printBills f (Portfolio.select d.bills (d.peer?.getD ⟨""⟩) filter)
  | .showBill name => withBill L name (printIf true (printOpenBill f))
  | .listActions name => withBill L name (printIf true (printActions f))
  | .act name request =>
      withBill L name do
        let outcome ← Session.execute L request
        printIf true fun d => printOutcome f d outcome
  | .showChain name => do
      match ← Session.chain L name with
      | some c => return .ok (f.print (Json.Codec.write c) (View.chain c))
      | none => return .ok ""
  | .issue form => do
      .ok <$> printIf (← Session.issue L form) fun d => printBills f d.bills
  | .showBalance =>
      .ok <$> printIf true fun d => f.print d.balance.write (View.balance d.balance)
  | .listOperations => do
      match ← Session.operations L with
      | some os => return .ok (f.print (Json.Codec.write os) (View.operations os))
      | none => return .ok ""

/-- Runs a command on a given day. -/
def run (today : Date) (f : Format) (c : Command) : Work σ (Except Failure String) := do
  Session.start L
  c.work L today f

end Command

end BillDesk
