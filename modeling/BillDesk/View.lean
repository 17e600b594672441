import BillDesk.Desk.State
import BillDesk.Portfolio
import BillDesk.Text.Padding

/-!
# Text views

What the command line prints when it is not asked for JSON. Labels fill a column of eighteen
characters, lists fill columns of their own, and every line ends with a line feed.
-/

namespace BillDesk.View

open Text

def line (s : String) : String := s ++ "\n"

/-- A label in its column, and what it labels. -/
def labelled (label value : String) : String := line (padRight 18 label ++ value)

/-- A labelled value that may be absent, and then has no line. -/
def labelledIfPresent (label : String) : Option String → String
  | none => ""
  | some value => labelled label value

def amount (n : UInt64) : String := Nat.repr n.toNat

def identity (i : Identity) : String :=
  if i.isCreated then
    labelled "Name:" i.name ++
    labelledIfPresent "Company:" i.company ++
    labelled "Email:" i.email ++
    labelled "Date of birth:" i.dateOfBirth ++
    labelled "Place of birth:" (i.cityOfBirth ++ ", " ++ i.countryOfBirth) ++
    labelled "Postal address:" i.postalAddress ++
    labelledIfPresent "Phone number:" i.phoneNumber
  else line "No identity yet. Create one with \x60identity create\x60."

def contact (c : Contact) : String := line (padRight 24 c.name ++ " " ++ c.peerId.text)

def contacts (cs : List Contact) : String :=
  if cs.isEmpty then line "No contacts." else String.join (cs.map contact)

def listedBill (b : Bill) : String :=
  line (padRight 24 b.name ++ " " ++ padLeft 12 (amount b.amount) ++ " " ++
    padRight 5 b.currency ++ " " ++ padRight 10 b.dateOfIssue ++ " " ++ b.status.stage.name)

def bills (bs : List Bill) : String :=
  if bs.isEmpty then line "No bills." else String.join (bs.map listedBill)

def balance (t : Balance) : String :=
  line ("Bills:    " ++ amount t.held ++ " " ++ t.currency) ++
  line ("IOU:      " ++ amount t.owed ++ " " ++ t.currency) ++
  line ("Endorsed: " ++ amount t.drawn ++ " " ++ t.currency)

/-- The party in a role, or a dash when the role is not filled. -/
def party (label : String) : Option Party → String
  | some p => labelled label (p.name ++ " (" ++ p.peerId.text ++ ")")
  | none => labelled label "-"

/-- A role that a bill may lack altogether. -/
def optionalParty (label : String) (b : Bill) (r : Role) : String :=
  if (b.namedParty r).isSome then party label (b.party r) else ""

def actions : Bill.Eligibility → String
  | .notYetLoaded => labelled "Actions:" "(loading)"
  | .actions [] => labelled "Actions:" "none"
  | .actions as => labelled "Actions:" (", ".intercalate (as.map Bill.Action.label))

def bill (s : Bill.Snapshot) (e : Bill.Eligibility) : String :=
  match s with
  | .loading => line "Loading..."
  | .unavailable reason => line ("Bill not available: " ++ reason)
  | .loaded b =>
      line b.name ++
      labelled "Amount:" (amount b.amount ++ " " ++ b.currency) ++
      labelled "Issued:" b.dateOfIssue ++
      labelled "Maturity:" b.maturityDate ++
      labelled "State:" b.status.stage.name ++
      party "Drawer:" (b.party .drawer) ++
      party "Drawee:" (b.party .drawee) ++
      party "Payee:" (b.party .payee) ++
      optionalParty "Endorsee:" b .endorsee ++
      optionalParty "Buyer:" b .buyer ++
      actions e

def block (b : ChainBlock) : String :=
  line ("#" ++ padRight 4 (amount b.id) ++ " " ++ b.operation.name ++ " " ++ b.hash.getD "-")

def chain (c : Chain) : String := String.join (c.blocks.map block)

def operations (os : List Operation) : String := String.join (os.map fun o => line o.name)

/-- A line of an instruction that may be absent. -/
def detail (label : String) : Option String → String
  | none => ""
  | some value => line (label ++ value)

def instruction (i : Bill.Instruction) : String :=
  line ("Pay " ++ amount i.amount ++ " " ++ i.currency ++ " to " ++ i.receiver.name ++
    " for bill " ++ i.billName) ++
  detail "Address: " i.address ++
  detail "Link:    " i.link

def notice (n : Notice) : String := "[" ++ n.kind.label ++ "] " ++ n.text

end BillDesk.View
