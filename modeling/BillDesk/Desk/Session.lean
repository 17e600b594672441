import BillDesk.Desk.Refresh
import BillDesk.Service.Decision

/-!
# Sessions

A session is a desk at work with a ledger, for a view that may be closed at any time. Calls of the
ledger are made one at a time. What is fetched for the view is written to the desk only while the
view stands: nothing is asked once it has fallen, and an answer during which it falls is dropped.
What is sent to the ledger does not depend on the view. Fetches that are under way together, for
several views, are the matter of an office.
-/

namespace BillDesk

/-- Whether the view that a session works for still stands. -/
structure Watch where
  standing : Bool := true
  /-- The view falls with the ledger's answer to so many more calls, or by the first. -/
  fallsAfter : Option Nat := none
  deriving DecidableEq

namespace Watch

/-- The watch after one more answer. -/
def tick (w : Watch) : Watch :=
  match w.fallsAfter with
  | none => w
  | some n => if n ≤ 1 then { standing := false } else { w with fallsAfter := some (n - 1) }

end Watch

structure Session (σ : Type) where
  desk : Desk := {}
  watch : Watch := {}
  ledger : σ

/-- A piece of work in a session. -/
abbrev Work (σ : Type) := StateM (Session σ)

namespace Session

variable {σ : Type}

def change (f : Desk → Desk) : Work σ Unit := modify fun s => { s with desk := f s.desk }

def notify (kind : NoticeKind) (text : String) : Work σ Unit := change (·.notify kind text)

def navigate (p : Page) : Work σ Unit := change (·.navigate p)

/-- Tells the user what failed and why. -/
def report (what reason : String) : Work σ Unit := notify .error (what ++ ": " ++ reason)

variable (L : Ledger σ)

def ask (q : Query) : Work σ (Except LedgerError q.Answer) := fun s =>
  let (a, t) := L.answer q s.ledger
  (a, { s with ledger := t, watch := s.watch.tick })

def tell (o : Order) : Work σ (Except LedgerError Unit) := fun s =>
  let (a, t) := L.obey o s.ledger
  (a, { s with ledger := t, watch := s.watch.tick })

/-- Asks for the view: not at all once it has fallen, and in vain when it falls meanwhile. -/
def askForView (q : Query) : Work σ (Option (Except LedgerError q.Answer)) := do
  if (← get).watch.standing then
    let a ← ask L q
    if (← get).watch.standing then return some a else return none
  else return none

/-- Fetches a resource and writes what arrives. -/
def refetch (r : Resource) : Work σ Unit := do
  match ← askForView L r.query with
  | some a => change fun d => r.record d a
  | none => return

def refetchAll : List Resource → Work σ Unit
  | [] => return
  | r :: rs => do
      refetch L r
      refetchAll rs

def refresh (o : Occasion) : Work σ Unit := refetchAll L o.resources

end Session

end BillDesk
