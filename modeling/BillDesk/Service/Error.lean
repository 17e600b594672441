import BillDesk.Bill.Eligibility
import BillDesk.FormError
import BillDesk.Ledger.Basic

/-!
# Why something could not be done

An action on a bill fails because the bill is not there, the action is not eligible, the ledger gave
no data for paying, the form was refused, or the ledger failed. Everything else fails because of a
bill, a form or the ledger.
-/

namespace BillDesk

inductive BillError where
  | unavailable (reason : String)
  | notEligible (action : Bill.Action) (bill : String)
  | noPaymentData (bill : String) (action : Bill.Action)
  | ledger (error : LedgerError)
  | form (error : FormError)
  deriving DecidableEq

def BillError.message : BillError → String
  | .unavailable reason => "bill is not available: " ++ reason
  | .notEligible action bill => "action " ++ action.label ++ " is not eligible for bill " ++ bill
  | .noPaymentData bill action => "bill " ++ bill ++ " has no payment data for " ++ action.label
  | .ledger error => "External API error: " ++ error.message
  | .form error => "bill validation error " ++ error.message

inductive ServiceError where
  | bill (error : BillError)
  | form (error : FormError)
  | ledger (error : LedgerError)
  deriving DecidableEq

def ServiceError.message : ServiceError → String
  | .bill error => "Bill service error: " ++ error.message
  | .form error => "Validation Error: " ++ error.message
  | .ledger error => "External API error: " ++ error.message

end BillDesk
