/-!
# What a form can be refused for

Every form is checked before anything is sent to the ledger. `FormError` names the reasons and
`FormError.message` words them.
-/

namespace BillDesk

/-- A field that has to be filled in. -/
inductive FormField where
  | name
  | email
  | peerId
  | dateOfBirth
  | cityOfBirth
  | countryOfBirth
  | postalAddress
  | billName
  | maturityDate
  | dateOfIssue
  | payee
  | drawee
  | drawerName
  | placeOfDrawing
  | placeOfPayment
  | billJurisdiction
  | language
  | currencyCode
  | amount
  | endorsee
  | buyer
  deriving DecidableEq

namespace FormField

def all : List FormField :=
  [.name, .email, .peerId, .dateOfBirth, .cityOfBirth, .countryOfBirth, .postalAddress, .billName,
    .maturityDate, .dateOfIssue, .payee, .drawee, .drawerName, .placeOfDrawing, .placeOfPayment,
    .billJurisdiction, .language, .currencyCode, .amount, .endorsee, .buyer]

def label : FormField → String
  | .name => "Name"
  | .email => "Email"
  | .peerId => "PeerId"
  | .dateOfBirth => "DateOfBirth"
  | .cityOfBirth => "CityOfBirth"
  | .countryOfBirth => "CountryOfBirth"
  | .postalAddress => "PostalAddress"
  | .billName => "BillName"
  | .maturityDate => "MaturityDate"
  | .dateOfIssue => "DateOfIssue"
  | .payee => "Payee"
  | .drawee => "Drawee"
  | .drawerName => "DrawerName"
  | .placeOfDrawing => "PlaceOfDrawing"
  | .placeOfPayment => "PlaceOfPayment"
  | .billJurisdiction => "BillJurisdiction"
  | .language => "Language"
  | .currencyCode => "CurrencyCode"
  | .amount => "Amount"
  | .endorsee => "Endorsee"
  | .buyer => "Buyer"

end FormField

inductive FormError where
  | missing (field : FormField)
  | invalidSum
  | invalidDate
  | tooYoung (minimumAge : Nat)
  | invalidEmail
  | invalidCurrency
  | issuedAfterMaturity
  | draweeIsPayee
  | drawerIsPayeeAndDrawee
  | endorserIsEndorsee
  | buyerIsSeller
  | contactExists (name : String)
  | contactUnknown (name : String)
  deriving DecidableEq

namespace FormError

def message : FormError → String
  | missing field => "Field " ++ field.label ++ " can't be empty"
  | invalidSum => "invalid sum"
  | invalidDate => "invalid date"
  | tooYoung minimumAge =>
      "invalid age: must be at least " ++ Nat.repr minimumAge ++ " years old"
  | invalidEmail => "invalid email"
  | invalidCurrency => "invalid currency"
  | issuedAfterMaturity => "issue date after maturity date"
  | draweeIsPayee => "Drawee can't be Payee at the same time"
  | drawerIsPayeeAndDrawee => "Drawer can't be Payee and Drawee at the same time"
  | endorserIsEndorsee => "Endorser can't be Endorsee at the same time"
  | buyerIsSeller => "Buyer can't be Seller at the same time"
  | contactExists name => "a contact with the name " ++ name ++ " already exists"
  | contactUnknown name => "no contact with the name " ++ name ++ " exists"

end FormError

/-- A check passes, or gives the reason against the form. -/
abbrev Check := Except FormError Unit

/-- The form is refused for `error` when `condition` holds. -/
def refuseIf (condition : Bool) (error : FormError) : Check :=
  if condition then .error error else .ok ()

theorem refuseIf_eq_ok {condition : Bool} {error : FormError} :
    refuseIf condition error = .ok () ↔ condition = false := by
  cases condition <;> simp [refuseIf]

theorem Check.seq_eq_ok_iff {check : Check} {next : Unit → Check} :
    (check >>= next) = .ok () ↔ check = .ok () ∧ next () = .ok () := by
  rcases check with e | _
  · simp [bind, Except.bind]
  · simp [bind, Except.bind]

end BillDesk
