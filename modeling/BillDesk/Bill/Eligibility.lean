import BillDesk.Bill.Basic

/-!
# Eligibility

Which actions the local peer may take on a bill. Each action has one rule: the role that the peer
has to hold, a condition on the status flags, and the stage that the bill reaches. Beyond its own
rule, every action needs an open bill.

| action            | role   | condition on the flags                              |
|-------------------|--------|-----------------------------------------------------|
| pay               | drawee | not waited for payment                              |
| accept            | drawee | not accepted, not waited for payment                |
| endorse           | payee  | not waited for payment                              |
| sell              | payee  | not waited for payment                              |
| buy               | buyer  | waited for payment                                  |
| request to accept | payee  | not accepted, not requested to, not waited          |
| request to pay    | payee  | not requested to pay, not waited for payment        |

Results: `mem_eligibleActions` (an action is eligible exactly when the bill is open, the peer holds
the role and the condition holds).
-/

namespace BillDesk.Bill

/-- What a user can do about a bill, in the order in which it is shown. -/
inductive Action where
  | pay
  | accept
  | endorse
  | sell
  | buy
  | requestToAccept
  | requestToPay
  deriving DecidableEq

namespace Action

def all : List Action :=
  [.pay, .accept, .endorse, .sell, .buy, .requestToAccept, .requestToPay]

theorem mem_all (a : Action) : a ∈ all := by cases a <;> decide

def name : Action → String
  | pay => "Pay"
  | accept => "Accept"
  | endorse => "Endorse"
  | sell => "Sell"
  | buy => "Buy"
  | requestToAccept => "RequestToAccept"
  | requestToPay => "RequestToPay"

def label : Action → String
  | pay => "PAY"
  | accept => "ACCEPT"
  | endorse => "ENDORSE"
  | sell => "SELL"
  | buy => "BUY"
  | requestToAccept => "REQUEST TO ACCEPT"
  | requestToPay => "REQUEST TO PAY"

def icon : Action → String
  | pay => "pay.svg"
  | accept => "accept.svg"
  | endorse => "endorse.svg"
  | sell => "sell.svg"
  | buy => "buy.svg"
  | requestToAccept => "reqToAccept.svg"
  | requestToPay => "reqToPay.svg"

/-- The place of an action in the order in which it is shown. -/
def position : Action → Nat
  | pay => 0
  | accept => 1
  | endorse => 2
  | sell => 3
  | buy => 4
  | requestToAccept => 5
  | requestToPay => 6

/-- The role that the local peer has to hold. -/
def role : Action → Role
  | pay | accept => .drawee
  | endorse | sell | requestToAccept | requestToPay => .payee
  | buy => .buyer

/-- The condition on the status flags. -/
def allowedBy (s : Status) : Action → Bool
  | pay | endorse | sell => !s.waitedForPayment
  | accept => !s.accepted && !s.waitedForPayment
  | buy => s.waitedForPayment
  | requestToAccept => !s.accepted && !s.requestedToAccept && !s.waitedForPayment
  | requestToPay => !s.requestedToPay && !s.waitedForPayment

/-- The stage that the bill reaches once the ledger has processed the action. -/
def target : Action → Stage
  | pay => .paid
  | accept => .accepted
  | endorse | buy => .endorsed
  | sell => .waitingForPayment
  | requestToAccept => .requestedToAccept
  | requestToPay => .requestedToPay

/-- The flag by which the ledger shows that it has processed the action. Buying clears a flag and
sets none. -/
def expectedFlag? : Action → Option Flag
  | pay => some .payed
  | accept => some .accepted
  | endorse => some .endorsed
  | sell => some .waitedForPayment
  | buy => none
  | requestToAccept => some .requestedToAccept
  | requestToPay => some .requestedToPay

open Json in
/-- An action with the icon it is shown by. -/
def write (a : Action) : Value :=
  .record [("action", Codec.write a.name), ("icon", Codec.write a.icon)]

end Action

/-- The actions that the peer may take, in the order in which they are shown. -/
def eligibleActions (b : Bill) (peer : PeerId) : List Action :=
  if b.status.isOpen then
    Action.all.filter fun a => b.hasRole a.role peer && a.allowedBy b.status
  else []

theorem mem_eligibleActions {b : Bill} {peer : PeerId} {a : Action} :
    a ∈ b.eligibleActions peer ↔
      b.status.isOpen = true ∧ b.hasRole a.role peer = true ∧ a.allowedBy b.status = true := by
  unfold eligibleActions
  split <;> simp_all [Action.mem_all]

inductive Eligibility where
  /-- The bill or the local peer is not known yet, so nothing can be decided. -/
  | notYetLoaded
  | actions (eligible : List Action)
  deriving DecidableEq

namespace Eligibility

/-- The eligible actions, none while still loading. -/
def toList : Eligibility → List Action
  | .notYetLoaded => []
  | .actions as => as

def allows (e : Eligibility) (a : Action) : Bool := e.toList.contains a

end Eligibility

/-- What the local peer may do about the bill that a view shows. -/
def Snapshot.eligibility (s : Snapshot) : Option PeerId → Eligibility
  | none => .notYetLoaded
  | some peer =>
      match s with
      | .loading => .notYetLoaded
      | .unavailable _ => .actions []
      | .loaded b => .actions (b.eligibleActions peer)

end BillDesk.Bill
