import BillDesk.Date.Text
import BillDesk.FormError

/-!
# The local identity

The identity is kept by the ledger, which sends an empty one until it was created. Its key material
is opaque to the client and never leaves it: what is shown and sent is the form, which holds the
personal data alone.
-/

namespace BillDesk

structure Identity where
  name : String := ""
  company : Option String := none
  dateOfBirth : String := ""
  cityOfBirth : String := ""
  countryOfBirth : String := ""
  email : String := ""
  postalAddress : String := ""
  phoneNumber : Option String := none
  publicKeyPem : String := ""
  privateKeyPem : String := ""
  bitcoinPublicKey : String := ""
  bitcoinPrivateKey : String := ""
  deriving DecidableEq

namespace Identity

/-- An identity was created: it has a name and an email address. -/
def isCreated (i : Identity) : Bool := !Text.isBlank i.name && !Text.isBlank i.email

open Json in
instance : Codec Identity where
  write i := .record [
    ("name", Codec.write i.name),
    ("company", Codec.write i.company),
    ("date_of_birth", Codec.write i.dateOfBirth),
    ("city_of_birth", Codec.write i.cityOfBirth),
    ("country_of_birth", Codec.write i.countryOfBirth),
    ("email", Codec.write i.email),
    ("postal_address", Codec.write i.postalAddress),
    ("phone_number", Codec.write i.phoneNumber),
    ("public_key_pem", Codec.write i.publicKeyPem),
    ("private_key_pem", Codec.write i.privateKeyPem),
    ("bitcoin_public_key", Codec.write i.bitcoinPublicKey),
    ("bitcoin_private_key", Codec.write i.bitcoinPrivateKey)]
  read? v := do
    let row ← v.row? ["name", "company", "date_of_birth", "city_of_birth", "country_of_birth",
      "email", "postal_address", "phone_number", "public_key_pem", "private_key_pem",
      "bitcoin_public_key", "bitcoin_private_key"]
    return {
      name := ← row.withDefault "name" ""
      company := ← row.withDefault "company" none
      dateOfBirth := ← row.withDefault "date_of_birth" ""
      cityOfBirth := ← row.withDefault "city_of_birth" ""
      countryOfBirth := ← row.withDefault "country_of_birth" ""
      email := ← row.withDefault "email" ""
      postalAddress := ← row.withDefault "postal_address" ""
      phoneNumber := ← row.withDefault "phone_number" none
      publicKeyPem := ← row.withDefault "public_key_pem" ""
      privateKeyPem := ← row.withDefault "private_key_pem" ""
      bitcoinPublicKey := ← row.withDefault "bitcoin_public_key" ""
      bitcoinPrivateKey := ← row.withDefault "bitcoin_private_key" "" }

/-- The personal data of an identity, as it is shown, and sent to create or change it. -/
structure Form where
  name : String := ""
  company : Option String := none
  dateOfBirth : String := ""
  cityOfBirth : String := ""
  countryOfBirth : String := ""
  email : String := ""
  postalAddress : String := ""
  phoneNumber : Option String := none
  deriving DecidableEq

def form (i : Identity) : Form where
  name := i.name
  company := i.company
  dateOfBirth := i.dateOfBirth
  cityOfBirth := i.cityOfBirth
  countryOfBirth := i.countryOfBirth
  email := i.email
  postalAddress := i.postalAddress
  phoneNumber := i.phoneNumber

/-- The age that an identity has to have. -/
def legalAge : Nat := 18

namespace Form

/-- The form is complete and its owner is of legal age on the given day. -/
def check (f : Form) (today : Date) : Check := do
  refuseIf (Text.isBlank f.name) (.missing .name)
  refuseIf (Text.isBlank f.email) (.missing .email)
  refuseIf (!f.email.toList.contains '@') .invalidEmail
  refuseIf (Text.isBlank f.dateOfBirth) (.missing .dateOfBirth)
  match Date.read? f.dateOfBirth with
  | none => throw .invalidDate
  | some birth =>
      refuseIf (birth.ageOn today < legalAge) (.tooYoung legalAge)
      refuseIf (Text.isBlank f.cityOfBirth) (.missing .cityOfBirth)
      refuseIf (Text.isBlank f.countryOfBirth) (.missing .countryOfBirth)
      refuseIf (Text.isBlank f.postalAddress) (.missing .postalAddress)

open Json in
def write (f : Form) : Value := .record [
  ("name", Codec.write f.name),
  ("company", Codec.write f.company),
  ("date_of_birth", Codec.write f.dateOfBirth),
  ("city_of_birth", Codec.write f.cityOfBirth),
  ("country_of_birth", Codec.write f.countryOfBirth),
  ("email", Codec.write f.email),
  ("postal_address", Codec.write f.postalAddress),
  ("phone_number", Codec.write f.phoneNumber)]

end Form

end Identity

end BillDesk
