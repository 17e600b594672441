import BillDesk.Bill.Status
import BillDesk.Chain
import BillDesk.Date.Text
import BillDesk.Party

/-!
# Bills of exchange

A bill as the ledger sends it: names, dates, amount and currency, the parties in their roles, the
status flags, the chain of custody and the data for paying or buying it. The client never changes a
bill, it only fetches it again.

Results: `party_eq_some_iff` (a role is filled by a party that is no placeholder), `hasRole_iff`
(a peer holds a role exactly when the party in it has that peer's id and the id is not empty).
-/

namespace BillDesk

inductive Role where
  | drawer
  | drawee
  | payee
  | endorsee
  | buyer
  deriving DecidableEq

namespace Role

def all : List Role := [.drawer, .drawee, .payee, .endorsee, .buyer]

def name : Role → String
  | .drawer => "Drawer"
  | .drawee => "Drawee"
  | .payee => "Payee"
  | .endorsee => "Endorsee"
  | .buyer => "Buyer"

def ofName? (s : String) : Option Role := all.find? fun r => r.name == s

theorem ofName?_name (r : Role) : ofName? r.name = some r := by cases r <;> decide

instance : Json.Codec Role where
  write r := .text r.name
  read? := Json.readName? ofName?

end Role

structure Bill where
  name : String
  dateOfIssue : String
  maturityDate : String
  amount : UInt64
  currency : String
  drawer : Party
  drawee : Party
  payee : Party
  endorsee : Option Party := none
  buyer : Option Party := none
  seller : Option Party := none
  status : Bill.Status := {}
  chain : Chain := .empty
  placeOfDrawing : String := ""
  placeOfPayment : String := ""
  jurisdiction : String := ""
  language : String := ""
  amountInLetters : String := ""
  linkToPay : Option String := none
  addressToPay : Option String := none
  linkForBuy : Option String := none
  addressForSelling : Option String := none
  amountForSelling : Option UInt64 := none
  deriving DecidableEq

namespace Bill

def issueDate? (b : Bill) : Option Date := Date.read? b.dateOfIssue

def maturity? (b : Bill) : Option Date := Date.read? b.maturityDate

/-- The party named for a role, placeholder or not. -/
def namedParty (b : Bill) : Role → Option Party
  | .drawer => some b.drawer
  | .drawee => some b.drawee
  | .payee => some b.payee
  | .endorsee => b.endorsee
  | .buyer => b.buyer

/-- The party that fills a role. A placeholder fills none. -/
def party (b : Bill) (r : Role) : Option Party :=
  (b.namedParty r).filter fun p => !p.isPlaceholder

def hasRole (b : Bill) (r : Role) (peer : PeerId) : Bool :=
  (b.party r).any fun p => p.peerId.sameNode peer

/-- All roles that the peer holds on the bill. -/
def rolesOf (b : Bill) (peer : PeerId) : List Role := Role.all.filter fun r => b.hasRole r peer

/-- Who is to be paid now. Endorsing a bill replaces its payee. -/
def holder (b : Bill) : Party := b.payee

theorem party_eq_some_iff {b : Bill} {r : Role} {p : Party} :
    b.party r = some p ↔ b.namedParty r = some p ∧ p.isPlaceholder = false := by
  simp [party, Option.filter_eq_some_iff]

theorem hasRole_iff {b : Bill} {r : Role} {peer : PeerId} :
    b.hasRole r peer = true ↔
      ∃ p, b.namedParty r = some p ∧ p.peerId = peer ∧ peer.isEmpty = false := by
  simp only [hasRole, Option.any_eq_true_iff_get, Option.isSome_iff_exists]
  constructor
  · rintro ⟨⟨p, h⟩, h'⟩
    simp only [h, Option.get_some] at h'
    obtain ⟨h₁, h₂⟩ := PeerId.sameNode_iff.1 h'
    exact ⟨p, (party_eq_some_iff.1 h).1, h₁, h₁ ▸ h₂⟩
  · rintro ⟨p, h, rfl, hne⟩
    have hp : b.party r = some p := party_eq_some_iff.2 ⟨h, hne⟩
    exact ⟨⟨p, hp⟩, by simpa [hp] using PeerId.sameNode_iff.2 ⟨rfl, hne⟩⟩

/-- What a view knows of a bill: it is still being fetched, could not be fetched, or is here. -/
inductive Snapshot where
  | loading
  | unavailable (reason : String)
  | loaded (bill : Bill)
  deriving DecidableEq

def Snapshot.bill? : Snapshot → Option Bill
  | .loaded b => some b
  | _ => none

end Bill

/-! ## An example bill (used by the concrete desks and ledgers) -/

/-- A bill that the node "node" may accept. -/
def exampleBill : Bill where
  name := "bill-2"
  dateOfIssue := "2025-01-01"
  maturityDate := "2025-07-01"
  amount := 5000
  currency := "sat"
  drawer := { name := "Drawer", peerId := ⟨"drawer"⟩ }
  drawee := { name := "Drawee", peerId := ⟨"node"⟩ }
  payee := { name := "Payee", peerId := ⟨"payee"⟩ }

end BillDesk
