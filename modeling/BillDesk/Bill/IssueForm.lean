import BillDesk.Currency
import BillDesk.Date.Text
import BillDesk.FormError

/-!
# The issue form

What a user fills in to issue a bill, and the check that it passes before it is sent. The fields are
checked one after the other and the first fault is the one reported: the dates, the drawer, the
payee and the drawee, the amount and the currency, the places and the language.
-/

namespace BillDesk.Bill

structure IssueForm where
  maturityDate : String := ""
  payeeName : String := ""
  drawerIsPayee : Bool := false
  currency : String := Currency.sat
  amount : UInt64 := 0
  draweeName : String := ""
  drawerIsDrawee : Bool := false
  drawerName : String := ""
  placeOfDrawing : String := ""
  placeOfPayment : String := ""
  jurisdiction : String := ""
  language : String := "en"
  dateOfIssue : String := ""
  deriving DecidableEq

namespace IssueForm

/-- A date field that has to be filled in. -/
def requiredDate (value : String) (field : FormField) : Except FormError Date := do
  refuseIf (Text.isBlank value) (.missing field)
  match Date.read? value with
  | some d => return d
  | none => throw .invalidDate

/-- Who is to be paid: the drawer, or the payee who is named. -/
def payee (f : IssueForm) : String := if f.drawerIsPayee then f.drawerName else f.payeeName

/-- Who is to pay: the drawer, or the drawee who is named. -/
def drawee (f : IssueForm) : String := if f.drawerIsDrawee then f.drawerName else f.draweeName

def check (f : IssueForm) : Check := do
  let issued ← requiredDate f.dateOfIssue .dateOfIssue
  let matures ← requiredDate f.maturityDate .maturityDate
  refuseIf (issued.compare matures == .gt) .issuedAfterMaturity
  refuseIf (f.drawerIsPayee && f.drawerIsDrawee) .drawerIsPayeeAndDrawee
  refuseIf (Text.isBlank f.drawerName) (.missing .drawerName)
  refuseIf (Text.isBlank f.payee) (.missing .payee)
  refuseIf (Text.isBlank f.drawee) (.missing .drawee)
  refuseIf (Text.trim f.payee == Text.trim f.drawee) .draweeIsPayee
  refuseIf (f.amount == 0) .invalidSum
  refuseIf (Text.isBlank f.currency) (.missing .currencyCode)
  refuseIf (!Currency.valid.contains (Text.trim f.currency)) .invalidCurrency
  refuseIf (Text.isBlank f.placeOfDrawing) (.missing .placeOfDrawing)
  refuseIf (Text.isBlank f.placeOfPayment) (.missing .placeOfPayment)
  refuseIf (Text.isBlank f.jurisdiction) (.missing .billJurisdiction)
  refuseIf (Text.isBlank f.language) (.missing .language)

end IssueForm

end BillDesk.Bill
