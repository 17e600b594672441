/-!
# Scopes of views

A scope lives as long as the view that made it. Requests of the view run under a token of the scope,
and once the scope is cancelled or dropped, nothing that is still under way is handed back.

`Scopes` holds all scopes and tokens that were ever made, numbered in the order of their making.
What runs under a token is given as its polls: what happened elsewhere before the poll, what the
polled work itself does to scopes, and the value if it is ready.

Results: `isCancelled_iff` (a token is cancelled exactly when its scope does not stand).
-/

namespace BillDesk

/-- How a scope stands. Cancelling and dropping are final. -/
inductive ScopeStanding where
  | live
  | cancelled
  | dropped
  deriving DecidableEq

structure Scopes where
  standings : List ScopeStanding := []
  /-- The scope that each token belongs to. -/
  tokens : List Nat := []
  deriving DecidableEq

namespace Scopes

/-- A change to one scope. -/
inductive Event where
  | cancel (scope : Nat)
  | drop (scope : Nat)
  deriving DecidableEq

def standing? (s : Scopes) (scope : Nat) : Option ScopeStanding := s.standings[scope]?

def addScope (s : Scopes) : Scopes := { s with standings := s.standings ++ [.live] }

/-- A scope that was not dropped can be used. -/
def isPresent (s : Scopes) (scope : Nat) : Bool :=
  (s.standing? scope).any fun st => st != .dropped

/-- A new token of a scope that is still there. -/
def addToken? (s : Scopes) (scope : Nat) : Option Scopes :=
  if s.isPresent scope then some { s with tokens := s.tokens ++ [scope] } else none

/-- A second token of the scope that a token belongs to. -/
def cloneToken? (s : Scopes) (token : Nat) : Option Scopes :=
  s.tokens[token]?.map fun scope => { s with tokens := s.tokens ++ [scope] }

/-- A scope that is gone stays gone. -/
def apply (s : Scopes) : Event → Scopes
  | .cancel scope =>
      if s.isPresent scope then { s with standings := s.standings.set scope .cancelled } else s
  | .drop scope =>
      if s.isPresent scope then { s with standings := s.standings.set scope .dropped } else s

/-- The scope of the token was cancelled or dropped. -/
def isCancelled (s : Scopes) (token : Nat) : Bool :=
  match s.tokens[token]? with
  | none => true
  | some scope => s.standing? scope != some .live

/-- One poll of what runs under a token. -/
structure Poll (α : Type) where
  /-- What happened elsewhere since the last poll. -/
  elsewhere : List Event := []
  /-- What the polled work does itself. -/
  byWork : List Event := []
  /-- The value, once the work is ready. -/
  ready : Option α := none

/-- The work is polled until it is ready. Its value is handed back only if the scope still stands
then, and work that is not ready is abandoned as soon as the scope has fallen. -/
def poll {α : Type} (token : Nat) : Scopes → List (Poll α) → Option α × Scopes
  | s, [] => (none, s)
  | s, p :: ps =>
      let s := p.byWork.foldl apply (p.elsewhere.foldl apply s)
      match p.ready with
      | some a => (if s.isCancelled token then none else some a, s)
      | none => if s.isCancelled token then (none, s) else poll token s ps

/-- Runs work under a token. Under a cancelled one it is not even started. -/
def run {α : Type} (token : Nat) (s : Scopes) (work : List (Poll α)) : Option α × Scopes :=
  if s.isCancelled token then (none, s) else poll token s work

theorem isCancelled_iff {s : Scopes} {token : Nat} :
    s.isCancelled token = false ↔
      ∃ scope, s.tokens[token]? = some scope ∧ s.standing? scope = some .live := by
  unfold isCancelled
  split <;> simp_all

end Scopes

end BillDesk
