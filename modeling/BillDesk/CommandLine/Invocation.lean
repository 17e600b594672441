import BillDesk.CommandLine.Command
import BillDesk.CommandLine.Level
import BillDesk.Settings

/-!
# Invocations

The arguments of the program: the settings, the format, and the commands with their own arguments.
The settings come before the command, and may come from the environment instead. JSON can be asked
for at every level.
-/

namespace BillDesk.CommandLine

/-- How much is logged. -/
inductive LogLevel where
  | off
  | error
  | warn
  | info
  | debug
  | trace
  deriving DecidableEq

namespace LogLevel

def all : List LogLevel := [.off, .error, .warn, .info, .debug, .trace]

def name : LogLevel → String
  | off => "off"
  | error => "error"
  | warn => "warn"
  | info => "info"
  | debug => "debug"
  | trace => "trace"

def ofName? (s : String) : Option LogLevel := all.find? fun l => l.name == s

end LogLevel

structure Invocation where
  ledgerUrl : String
  apiToken : Option String
  timeoutSeconds : UInt64
  logLevel : LogLevel
  format : Command.Format
  command : Command
  deriving DecidableEq

def Invocation.settings (i : Invocation) : Except Settings.Error Settings :=
  Settings.ofInput i.ledgerUrl i.apiToken i.timeoutSeconds

/-! ## Commands -/

/-- The flag that asks for JSON. -/
def jsonFlag : String := "json"

/-- A level that commands are chosen at. -/
def group (commands : List (String × Level Command)) : Level Command where
  flags := [jsonFlag]
  commands
  build _ := .error .missingCommand

/-- A command whose arguments are all positional texts. -/
def positional (names : List String) (build : Given → Except UsageError Command) :
    Level Command where
  flags := [jsonFlag]
  parameters := names.map fun name => { name }
  build

/-- The personal data, of which only the company and the phone number may be left out. -/
def identityForm (g : Given) : Except UsageError Identity.Form := do
  return {
    name := ← g.text "name"
    company := g.text? "company"
    dateOfBirth := ← g.text "date-of-birth"
    cityOfBirth := ← g.text "city-of-birth"
    countryOfBirth := ← g.text "country-of-birth"
    email := ← g.text "email"
    postalAddress := ← g.text "postal-address"
    phoneNumber := g.text? "phone-number" }

def identityLevel (command : Identity.Form → Command) : Level Command where
  flags := [jsonFlag]
  options := ["name", "email", "date-of-birth", "city-of-birth", "country-of-birth",
    "postal-address", "company", "phone-number"].map fun name => { name }
  build g := do return command (← identityForm g)

def identityCommands : List (String × Level Command) := [
  ("show", positional [] fun _ => .ok .showIdentity),
  ("create", identityLevel .createIdentity),
  ("change", identityLevel .changeIdentity)]

def contactCommands : List (String × Level Command) := [
  ("list", positional [] fun _ => .ok .listContacts),
  ("add", positional ["name", "peer-id"] fun g => do
    return .addContact (← g.text "name") (.ofInput (← g.text "peer-id"))),
  ("edit", positional ["old-name", "name", "peer-id"] fun g => do
    return .editContact (← g.text "old-name") (← g.text "name") (.ofInput (← g.text "peer-id"))),
  ("remove", positional ["name"] fun g => do return .removeContact (← g.text "name"))]

/-- The bills to list, by the words for them. -/
def readFilter? : String → Option Portfolio.Filter
  | "all" => some .all
  | "payee" => some .payee
  | "drawer" => some .drawer
  | "drawee" => some .drawee
  | _ => none

def billsLevel : Level Command where
  flags := [jsonFlag]
  options := [{ name := "role", kind := .oneOf ["all", "payee", "drawer", "drawee"] }]
  build g := do return .listBills (← g.choiceOr "role" readFilter? .all)

/-- A command on a bill that takes its name alone. -/
def onBill (command : String → Command) : Level Command :=
  positional ["name"] fun g => do return command (← g.text "name")

def endorseLevel : Level Command :=
  positional ["name", "endorsee"] fun g => do
    return .act (← g.text "name") (.endorse (← g.text "endorsee"))

def sellLevel : Level Command where
  flags := [jsonFlag]
  parameters := [{ name := "name" }, { name := "buyer" }, { name := "amount", kind := .amount }]
  build g := do
    return .act (← g.text "name") (.sell (← g.text "buyer") (← g.amount "amount"))

def billCommands : List (String × Level Command) := [
  ("show", onBill .showBill),
  ("chain", onBill .showChain),
  ("actions", onBill .listActions),
  ("pay", onBill (.act · .pay)),
  ("accept", onBill (.act · .accept)),
  ("endorse", endorseLevel),
  ("sell", sellLevel),
  ("buy", onBill (.act · .buy)),
  ("request-to-accept", onBill (.act · .requestToAccept)),
  ("request-to-pay", onBill (.act · .requestToPay))]

/-- The issue form. The payee and the drawee may be left out, for the drawer may be either. -/
def issueForm (g : Given) : Except UsageError Bill.IssueForm := do
  return {
    maturityDate := ← g.text "maturity-date"
    payeeName := g.textOr "payee-name" ""
    drawerIsPayee := g.has "drawer-is-payee"
    currency := g.textOr "currency-code" Currency.sat
    amount := ← g.amount "amount"
    draweeName := g.textOr "drawee-name" ""
    drawerIsDrawee := g.has "drawer-is-drawee"
    drawerName := ← g.text "drawer-name"
    placeOfDrawing := ← g.text "place-of-drawing"
    placeOfPayment := ← g.text "place-of-payment"
    jurisdiction := ← g.text "bill-jurisdiction"
    language := g.textOr "language" "en"
    dateOfIssue := ← g.text "date-of-issue" }

def issueLevel : Level Command where
  flags := [jsonFlag, "drawer-is-payee", "drawer-is-drawee"]
  options := { name := "amount", kind := .amount } ::
    ["date-of-issue", "maturity-date", "drawer-name", "payee-name", "drawee-name",
      "currency-code", "place-of-drawing", "place-of-payment", "bill-jurisdiction",
      "language"].map fun name => { name }
  build g := do return .issue (← issueForm g)

/-! ## The program -/

def program : Level Command where
  flags := [jsonFlag]
  versioned := true
  options := [
    { name := "ledger-url", environment := some "BCR_LEDGER_URL" },
    { name := "api-token", environment := some "BCR_API_TOKEN" },
    { name := "request-timeout-secs", kind := .amount,
      environment := some "BCR_REQUEST_TIMEOUT_SECS" },
    { name := "log-level", kind := .oneOf (LogLevel.all.map LogLevel.name),
      environment := some "BCR_LOG_LEVEL" }]
  commands := [
    ("identity", group identityCommands),
    ("contacts", group contactCommands),
    ("bills", billsLevel),
    ("bill", group billCommands),
    ("issue", issueLevel),
    ("balance", positional [] fun _ => .ok .showBalance),
    ("opcodes", positional [] fun _ => .ok .listOperations)]
  build _ := .error .missingCommand

namespace Invocation

/-- The invocation that arguments and environment variables stand for. -/
def ofArguments (environment : String → Option String) (args : List String) :
    Except UsageError Invocation := do
  let (given, command) ← program.read environment {} args
  return {
    ledgerUrl := given.textOr "ledger-url" Settings.defaultUrl
    apiToken := given.text? "api-token"
    timeoutSeconds := ← given.amountOr "request-timeout-secs" Settings.defaultTimeoutSeconds
    logLevel := ← given.choiceOr "log-level" LogLevel.ofName? .warn
    format := if given.has jsonFlag then .json else .text
    command }

end Invocation

end BillDesk.CommandLine
