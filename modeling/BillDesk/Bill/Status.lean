/-!
# The status of a bill

The ledger reports the progress of a bill as seven flags, which may overlap. The stage is what a
list shows for them: the most advanced one wins.
-/

namespace BillDesk.Bill

inductive Flag where
  | accepted
  | payed
  | pending
  | endorsed
  | requestedToAccept
  | requestedToPay
  | waitedForPayment
  deriving DecidableEq

def Flag.all : List Flag :=
  [.accepted, .payed, .pending, .endorsed, .requestedToAccept, .requestedToPay, .waitedForPayment]

def Flag.name : Flag → String
  | .accepted => "Accepted"
  | .payed => "Payed"
  | .pending => "Pending"
  | .endorsed => "Endorsed"
  | .requestedToAccept => "RequestedToAccept"
  | .requestedToPay => "RequestedToPay"
  | .waitedForPayment => "WaitedForPayment"

structure Status where
  accepted : Bool := false
  payed : Bool := false
  pending : Bool := false
  endorsed : Bool := false
  requestedToAccept : Bool := false
  requestedToPay : Bool := false
  waitedForPayment : Bool := false
  deriving DecidableEq

inductive Stage where
  | issued
  | accepted
  | endorsed
  | requestedToAccept
  | requestedToPay
  | waitingForPayment
  | paid
  deriving DecidableEq

def Stage.name : Stage → String
  | .issued => "Issued"
  | .accepted => "Accepted"
  | .endorsed => "Endorsed"
  | .requestedToAccept => "RequestedToAccept"
  | .requestedToPay => "RequestedToPay"
  | .waitingForPayment => "WaitingForPayment"
  | .paid => "Paid"

namespace Status

def has (s : Status) : Flag → Bool
  | .accepted => s.accepted
  | .payed => s.payed
  | .pending => s.pending
  | .endorsed => s.endorsed
  | .requestedToAccept => s.requestedToAccept
  | .requestedToPay => s.requestedToPay
  | .waitedForPayment => s.waitedForPayment

/-- Neither settled nor in settlement, so actions are possible at all. -/
def isOpen (s : Status) : Bool := !s.payed && !s.pending

def stage (s : Status) : Stage :=
  if s.payed then .paid
  else if s.waitedForPayment then .waitingForPayment
  else if s.requestedToPay then .requestedToPay
  else if s.accepted then .accepted
  else if s.requestedToAccept then .requestedToAccept
  else if s.endorsed then .endorsed
  else .issued

end Status

end BillDesk.Bill
