import BillDesk.Balance
import BillDesk.Bill.Basic
import BillDesk.Bill.Eligibility
import BillDesk.Bill.Instruction
import BillDesk.Bill.IssueForm
import BillDesk.Bill.Record
import BillDesk.Bill.Request
import BillDesk.Bill.Status
import BillDesk.Chain
import BillDesk.CommandLine.Command
import BillDesk.CommandLine.Invocation
import BillDesk.CommandLine.Level
import BillDesk.CommandLine.Report
import BillDesk.CommandLine.Usage
import BillDesk.Contact
import BillDesk.Currency
import BillDesk.Date.Basic
import BillDesk.Date.Text
import BillDesk.Desk.Operations
import BillDesk.Desk.Refresh
import BillDesk.Desk.Session
import BillDesk.Desk.State
import BillDesk.FormError
import BillDesk.Identity
import BillDesk.Json.Codec
import BillDesk.Json.Reader
import BillDesk.Json.Value
import BillDesk.Json.Writer
import BillDesk.Ledger.Basic
import BillDesk.Ledger.Http
import BillDesk.Ledger.Message
import BillDesk.Ledger.Replay
import BillDesk.Main
import BillDesk.Notice
import BillDesk.Party
import BillDesk.PeerId
import BillDesk.Portfolio
import BillDesk.Scope
import BillDesk.Service.Decision
import BillDesk.Service.Error
import BillDesk.Service.Snapshot
import BillDesk.Settings
import BillDesk.Text.Blank
import BillDesk.Text.CodePointTable
import BillDesk.Text.Digits
import BillDesk.Text.Padding
import BillDesk.Url.Basic
import BillDesk.Url.Domain
import BillDesk.Url.Domain.Composition
import BillDesk.Url.Domain.Direction
import BillDesk.Url.Domain.Joining
import BillDesk.Url.Domain.Label
import BillDesk.Url.Domain.Mapping
import BillDesk.Url.Domain.Mark
import BillDesk.Url.Error
import BillDesk.Url.Host
import BillDesk.Url.Parser
import BillDesk.Url.Percent
import BillDesk.Url.Punycode
import BillDesk.View
import BillDesk.Proofs.RuleTable
import BillDesk.Proofs.Contact.Orders
import BillDesk.Proofs.Contact.Book
import BillDesk.Proofs.Session.Journal
import BillDesk.Proofs.Session.Submission
import BillDesk.Proofs.Session.Run
import BillDesk.Proofs.Session.Naming
import BillDesk.Proofs.Session.SingleSubmission
import BillDesk.Proofs.Session.Failure
import BillDesk.Proofs.Session.Success
import BillDesk.Proofs.Session.ContactBook
import BillDesk.Proofs.Desk.Arrivals
import BillDesk.Proofs.Desk.Told
import BillDesk.Proofs.Office.Basic
import BillDesk.Proofs.Scope.Errands
import BillDesk.Proofs.Bill.Reading
import BillDesk.Proofs.Ledger.FailClosed
import BillDesk.Proofs.Office.OpenBill
import BillDesk.Proofs.Office.Refresh
import BillDesk.Proofs.Office.Isolation
import BillDesk.Proofs.Session.Complaints
import BillDesk.Proofs.Session.CatchingUp
import BillDesk.Proofs.Session.Projection
import BillDesk.Proofs.Url.Appending
import BillDesk.Proofs.Text.Digits
import BillDesk.Proofs.Text.Trimming
import BillDesk.Proofs.Json.Strings
import BillDesk.Proofs.Json.RoundTrip
import BillDesk.Proofs.Json.Laws
import BillDesk.Proofs.Date.Text
import BillDesk.Proofs.Ledger.WireFormat
import BillDesk.Proofs.CommandLine.Secrecy
import BillDesk.Proofs.CommandLine.Requests
import BillDesk.Proofs.Json.Lines
import BillDesk.Proofs.CommandLine.Output
import BillDesk.Proofs.Bill.IssueForm
import BillDesk.Proofs.Bill.Posting
import BillDesk.Proofs.Balance.Sums
import BillDesk.Proofs.Portfolio.NewestFirst
import BillDesk.Proofs.Session.Bills
import BillDesk.Proofs.Office.Bills
import BillDesk.Proofs.Date.Succession
import BillDesk.Proofs.Date.Age
import BillDesk.Proofs.Identity.Form
import BillDesk.Proofs.Json.Grammar
import BillDesk.Proofs.Bill.Members
import BillDesk.Proofs.Ledger.Endpoint
import BillDesk.Proofs.Json.Strictness
import BillDesk.Proofs.Ledger.NamePlaces
import BillDesk.Proofs.Session.Payment
import BillDesk.Proofs.Notice.Standing
