import BillDesk.Json.Reader
import BillDesk.Ledger.Basic
import BillDesk.Settings

/-!
# The ledger over HTTP

A query is a GET of a path below the base URL, and its answer is the JSON body. An order is a POST
of a form with named fields. A name that belongs to the path is appended as one segment of it. Any
status from 200 to 299 is success.

What carries the requests is a parameter: a `Transport` gives the response to a request, or nothing
when none comes.
-/

namespace BillDesk

namespace Http

inductive Method where
  | get
  | post
  deriving DecidableEq

def Method.name : Method → String
  | .get => "GET"
  | .post => "POST"

structure Request where
  method : Method
  url : Url
  /-- The value of the authorization header. -/
  authorization : Option String
  /-- The fields of the form, in order; none for a GET. -/
  fields : List (String × String)
  deriving DecidableEq

structure Response where
  status : Nat
  body : String
  deriving DecidableEq

def Response.isSuccess (r : Response) : Bool := 200 ≤ r.status && r.status < 300

/-- Carries requests, with states in `τ`. -/
abbrev Transport (τ : Type) := Request → τ → Option Response × τ

/-- A text that can be the value of a header: no control characters but tabs. -/
def isHeaderValue (s : String) : Bool :=
  s.toList.all fun c => (32 ≤ c.toNat && c.toNat ≠ 127) || c == '\t'

/-- A request that can be carried: over HTTP, with a legal header. -/
def Request.isSendable (r : Request) : Bool :=
  (r.url.scheme == "http" || r.url.scheme == "https") && r.authorization.all isHeaderValue

end Http

/-! ## Endpoints -/

namespace Query

def path : Query → List String
  | .identity => ["identity", "return"]
  | .peerId => ["identity", "peer_id", "return"]
  | .contacts => ["contacts", "return"]
  | .bills => ["bills", "return"]
  | .bill _ => ["bill", "return"]
  | .chain _ => ["bill", "chain", "return"]
  | .operations => ["opcodes", "return"]

/-- The name that is appended to the path. -/
def name? : Query → Option String
  | .bill name | .chain name => some name
  | _ => none

/-- The answer that a JSON value stands for. -/
def decode? : (q : Query) → Json.Value → Option q.Answer
  | .identity, v => Json.Codec.read? (α := Identity) v
  | .peerId, v => do
      let row ← v.row? ["id"]
      row.required (α := PeerId) "id"
  | .contacts, v => Json.Codec.read? (α := List Contact) v
  | .bills, v => Json.Codec.read? (α := List Bill) v
  | .bill _, v => Json.Codec.read? (α := Bill) v
  | .chain _, v => Json.Codec.read? (α := Chain) v
  | .operations, v => Json.Codec.read? (α := List Operation) v

end Query

namespace Order

def path : Order → List String
  | .createIdentity _ => ["identity", "create"]
  | .changeIdentity _ => ["identity", "change"]
  | .addContact .. => ["contacts", "new"]
  | .editContact .. => ["contacts", "edit"]
  | .removeContact _ => ["contacts", "remove"]
  | .issue _ => ["bill", "issue"]
  | .accept _ => ["bill", "accept"]
  | .endorse .. => ["bill", "endorse"]
  | .sell .. => ["bill", "sell"]
  | .requestToAccept _ => ["bill", "request_to_accept"]
  | .requestToPay _ => ["bill", "request_to_pay"]

/-- A field that is left out when there is nothing to send. -/
def optionalField (name : String) : Option String → List (String × String)
  | none => []
  | some value => [(name, value)]

def identityFields (f : Identity.Form) : List (String × String) :=
  [("name", f.name), ("date_of_birth", f.dateOfBirth), ("city_of_birth", f.cityOfBirth),
    ("country_of_birth", f.countryOfBirth), ("email", f.email),
    ("postal_address", f.postalAddress)] ++
  optionalField "company" f.company ++ optionalField "phone_number" f.phoneNumber

def issueFields (f : Bill.IssueForm) : List (String × String) :=
  [("maturity_date", f.maturityDate), ("payee_name", f.payeeName),
    ("drawer_is_payee", toString f.drawerIsPayee), ("currency_code", f.currency),
    ("amount_numbers", Nat.repr f.amount.toNat), ("drawee_name", f.draweeName),
    ("drawer_is_drawee", toString f.drawerIsDrawee), ("drawer_name", f.drawerName),
    ("place_of_drawing", f.placeOfDrawing), ("place_of_payment", f.placeOfPayment),
    ("bill_jurisdiction", f.jurisdiction), ("language", f.language),
    ("date_of_issue", f.dateOfIssue)]

def fields : Order → List (String × String)
  | .createIdentity f | .changeIdentity f => identityFields f
  | .addContact name peer => [("name", name), ("peer_id", peer.text)]
  | .editContact oldName name peer =>
      [("old_name", oldName), ("name", name), ("peer_id", peer.text)]
  | .removeContact name => [("name", name)]
  | .issue f => issueFields f
  | .accept bill | .requestToAccept bill | .requestToPay bill => [("bill_name", bill)]
  | .endorse bill endorsee => [("bill_name", bill), ("endorsee", endorsee)]
  | .sell bill buyer amount =>
      [("bill_name", bill), ("buyer", buyer), ("amount_numbers", Nat.repr amount.toNat)]

end Order

/-! ## The client -/

/-- What the client needs to know to address the ledger. -/
structure LedgerClient where
  base : Url
  token : Option String
  deriving DecidableEq

namespace LedgerClient

def ofSettings (s : Settings) : LedgerClient := ⟨s.base, s.token⟩

/-- The URL of an endpoint, where the base URL has a path to append to. -/
def endpoint (c : LedgerClient) (path : List String) (name? : Option String) :
    Except LedgerError Url :=
  match c.base.append? (path ++ name?.toList) with
  | some url => .ok url
  | none => .error (.noBaseUrl c.base.text)

def authorization (c : LedgerClient) : Option String := c.token.map ("Bearer " ++ ·)

def queryRequest (c : LedgerClient) (q : Query) : Except LedgerError Http.Request := do
  let url ← c.endpoint q.path q.name?
  return { method := .get, url, authorization := c.authorization, fields := [] }

def orderRequest (c : LedgerClient) (o : Order) : Except LedgerError Http.Request := do
  let url ← c.endpoint o.path none
  return { method := .post, url, authorization := c.authorization, fields := o.fields }

/-- Carries a request and keeps only a success. -/
def send {τ : Type} (T : Http.Transport τ) (request : Except LedgerError Http.Request) (s : τ) :
    Except LedgerError Http.Response × τ :=
  match request with
  | .error e => (.error e, s)
  | .ok r =>
      if r.isSendable then
        match T r s with
        | (none, t) => (.error .noAnswer, t)
        | (some response, t) =>
            if response.isSuccess then (.ok response, t)
            else (.error (.status response.status r.url.path.text), t)
      else (.error .noAnswer, s)

/-- The answer that the body of a response holds. -/
def readBody (q : Query) (r : Http.Response) : Except LedgerError q.Answer :=
  match (Json.read? r.body).bind q.decode? with
  | some a => .ok a
  | none => .error .unexpectedShape

/-- The ledger as the client reaches it. -/
def ledger {τ : Type} (c : LedgerClient) (T : Http.Transport τ) : Ledger τ where
  answer q s :=
    match send T (c.queryRequest q) s with
    | (.ok response, t) => (readBody q response, t)
    | (.error e, t) => (.error e, t)
  obey o s :=
    match send T (c.orderRequest o) s with
    | (.ok _, t) => (.ok (), t)
    | (.error e, t) => (.error e, t)

end LedgerClient

end BillDesk
