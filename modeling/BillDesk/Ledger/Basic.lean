import BillDesk.Bill.IssueForm
import BillDesk.Bill.Record
import BillDesk.Contact
import BillDesk.Identity

/-!
# The ledger

All authority over identities, contacts and bills is the ledger's. It is asked with queries and
changed with orders, and either may fail. What a ledger answers may depend on everything that it was
asked and told before, which is its state.
-/

namespace BillDesk

/-- Why the ledger gave no usable answer. -/
inductive LedgerError where
  /-- It could not be reached, or did not answer. -/
  | noAnswer
  /-- It answered with a status that means no success. -/
  | status (code : Nat) (path : String)
  /-- It answered with something that is not what was asked for. -/
  | unexpectedShape
  /-- There is no URL to ask it at. -/
  | noBaseUrl (url : String)
  deriving DecidableEq

def LedgerError.message : LedgerError → String
  | .noAnswer => "External Ledger request error: no answer"
  | .status code path =>
      "External Ledger returned status " ++ Nat.repr code ++ " for " ++ path
  | .unexpectedShape => "External Ledger response has an unexpected shape: not what was asked for"
  | .noBaseUrl url => "Ledger URL " ++ url ++ " can't be used as a base URL"

/-- A question to the ledger. -/
inductive Query where
  | identity
  | peerId
  | contacts
  | bills
  | bill (name : String)
  | chain (name : String)
  | operations
  deriving DecidableEq

/-- What the ledger answers to a question. -/
@[reducible]
def Query.Answer : Query → Type
  | .identity => Identity
  | .peerId => PeerId
  | .contacts => List Contact
  | .bills => List Bill
  | .bill _ => Bill
  | .chain _ => Chain
  | .operations => List Operation

/-- A change that the ledger is told to make. -/
inductive Order where
  | createIdentity (form : Identity.Form)
  | changeIdentity (form : Identity.Form)
  | addContact (name : String) (peer : PeerId)
  | editContact (oldName name : String) (peer : PeerId)
  | removeContact (name : String)
  | issue (form : Bill.IssueForm)
  | accept (bill : String)
  | endorse (bill endorsee : String)
  | sell (bill buyer : String) (amount : UInt64)
  | requestToAccept (bill : String)
  | requestToPay (bill : String)
  deriving DecidableEq

/-- One call of the ledger. -/
inductive Call where
  | ask (query : Query)
  | tell (order : Order)
  deriving DecidableEq

/-- A ledger with states in `σ`. -/
structure Ledger (σ : Type) where
  answer : (q : Query) → σ → Except LedgerError q.Answer × σ
  obey : Order → σ → Except LedgerError Unit × σ

end BillDesk
