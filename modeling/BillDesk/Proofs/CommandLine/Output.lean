import BillDesk.Proofs.CommandLine.Secrecy
import BillDesk.Proofs.Json.Lines
import BillDesk.Proofs.Session.Failure

/-!
# What is printed as JSON

A command that is asked for JSON prints one document, or nothing where it came to nothing. Two of
its exits do not keep to that: a bill that is not available is told in words, and a bill that was
just acted on is shown as text. Such a text is never a document, because it has a line that begins
with a letter in upper case.

Results:
1. `isDocument_pretty`: what is printed of a value is a document.
2. `not_isDocument_bill`: the text of a bill is none.
3. `run_json_isDocument_iff`: when a command prints a document, for every ledger and session.
4. `not_printsJson_silent`: a ledger that nobody reaches has a bill told in words.
-/

namespace BillDesk

open Json

variable {σ : Type}

/-! ## Documents -/

/-- Nothing, or one JSON document and a line feed behind it. -/
def IsDocument (output : String) : Prop :=
  output = "" ∨ ∃ text v, output = text ++ "\n" ∧ Json.read? text = some v

theorem isDocument_empty : IsDocument "" := .inl rfl

theorem isDocument_pretty {v : Value} (h : v.Integral) : IsDocument (pretty v ++ "\n") :=
  .inr ⟨pretty v, v, rfl, read?_pretty h⟩

theorem not_isDocument_of_begins {c : Char} {output : String} (hc : isForeign c = true)
    (h : Begins c output.toList) : ¬IsDocument output := by
  rintro (rfl | ⟨text, v, rfl, hread⟩)
  · exact not_begins_nil h
  · rw [String.toList_append] at h
    rw [read?_eq_none_of_begins hc (h.of_append_lineFeed hc)] at hread
    cases hread

/-- The text of a bill begins with a word, or else its second line does. -/
theorem not_isDocument_bill (snapshot : Bill.Snapshot) (e : Bill.Eligibility) :
    ¬IsDocument (View.bill snapshot e) := by
  cases snapshot with
  | loading =>
    refine not_isDocument_of_begins (by decide : isForeign 'L' = true) (.inl ?_)
    simp [View.bill, View.line]
  | unavailable reason =>
    refine not_isDocument_of_begins (by decide : isForeign 'B' = true) (.inl ?_)
    simp [View.bill, View.line]
  | loaded b =>
    refine not_isDocument_of_begins (by decide : isForeign 'A' = true) (.inr ?_)
    simp only [HasLine, View.bill, View.labelled, View.line, Text.padRight, String.toList_append,
      List.append_assoc]
    exact ⟨b.name.toList, _, rfl⟩

/-! ## Values that are printed -/

theorem Identity.Form.integral_write (f : Identity.Form) : f.write.Integral :=
  integral_record (by simp [LawfulCodec.integral_write])

theorem Balance.integral_write (t : Balance) : t.write.Integral :=
  integral_record (by simp [LawfulCodec.integral_write])

theorem Bill.Instruction.integral_write (i : Bill.Instruction) : i.write.Integral :=
  integral_record (by simp [LawfulCodec.integral_write])

theorem Bill.Action.integral_write (a : Bill.Action) : a.write.Integral :=
  integral_record (by simp [LawfulCodec.integral_write])

namespace Command

theorem isDocument_printIf {print : Desk → String} (h : ∀ d, IsDocument (print d)) (done : Bool)
    (s : Session σ) : IsDocument (printIf done print s).1 := by
  cases done with
  | false => exact isDocument_empty
  | true => exact h s.desk

theorem isDocument_printIdentity (d : Desk) : IsDocument (printIdentity .json d) :=
  isDocument_pretty (Identity.Form.integral_write _)

theorem isDocument_printContacts (d : Desk) : IsDocument (printContacts .json d) :=
  isDocument_pretty (integral_write _)

theorem isDocument_printBills (bills : List Bill) : IsDocument (printBills .json bills) :=
  isDocument_pretty (integral_write _)

theorem isDocument_printActions (d : Desk) : IsDocument (printActions .json d) := by
  refine isDocument_pretty (.array fun v hv => ?_)
  obtain ⟨a, _, rfl⟩ := List.mem_map.1 hv
  exact a.integral_write

theorem isDocument_printOpenBill_iff (d : Desk) :
    IsDocument (printOpenBill .json d) ↔ d.openSnapshot.bill?.isSome = true := by
  rw [printOpenBill]
  cases d.openSnapshot.bill? with
  | none => exact iff_of_false (not_isDocument_bill _ _) nofun
  | some b => exact iff_of_true (isDocument_pretty (integral_write b)) rfl

theorem isDocument_printOutcome_iff (d : Desk) (outcome : Option Outcome) :
    IsDocument (printOutcome .json d outcome) ↔ ∀ a, outcome ≠ some (.submitted a) := by
  rcases outcome with _ | ⟨a | ⟨a, i⟩⟩
  · exact iff_of_true isDocument_empty nofun
  · exact iff_of_false (not_isDocument_bill _ _) fun h => h a rfl
  · exact iff_of_true (isDocument_pretty i.integral_write) nofun

/-! ## Commands -/

/-- The exits that print text, whatever was asked for: a bill that is not available, and an action
that was submitted. -/
inductive PrintsText (L : Ledger σ) (s : Session σ) : Command → Prop
  | unavailable {name reason : String}
      (h : (Session.openBill L name s).2.desk.openSnapshot = .unavailable reason) :
      PrintsText L s (.showBill name)
  | submitted {name : String} {request : Bill.Request} {a : Bill.Action}
      (h : (Session.execute L request (Session.openBill L name s).2).1 = some (.submitted a)) :
      PrintsText L s (.act name request)

/-- What is printed about a bill that has arrived. -/
theorem output_of_withBill {L : Ledger σ} {name : String} {w : Work σ String} {s : Session σ}
    {output : String} (h : (withBill L name w s).1 = .ok output) :
    (Session.openBill L name s).2.desk.openSnapshot ≠ .loading ∧
      output = (w (Session.openBill L name s).2).1 := by
  rw [withBill_apply] at h
  split at h
  · cases h
  · next harrived =>
    exact ⟨harrived, (Except.ok.inj h).symm⟩

theorem work_json_isDocument_iff (L : Ledger σ) (today : Date) (c : Command) {s : Session σ}
    {output : String} (h : (c.work L today .json s).1 = .ok output) :
    IsDocument output ↔ ¬PrintsText L s c := by
  have hdone {done : Bool} {print : Desk → String} {s' : Session σ}
      (hprint : ∀ d, IsDocument (print d)) (hother : ¬PrintsText L s c)
      (h : Except.ok (printIf done print s').1 = (.ok output : Except Failure String)) :
      IsDocument output ↔ ¬PrintsText L s c := by
    cases h
    exact iff_of_true (isDocument_printIf hprint done s') hother
  cases c with
  | showIdentity | createIdentity | changeIdentity =>
    simp only [work, Session.bind_apply, Session.map_apply] at h
    exact hdone isDocument_printIdentity (by rintro ⟨⟩) h
  | listContacts | addContact | editContact | removeContact =>
    simp only [work, Session.bind_apply, Session.map_apply] at h
    exact hdone isDocument_printContacts (by rintro ⟨⟩) h
  | listBills | issue =>
    simp only [work, Session.bind_apply, Session.map_apply] at h
    exact hdone (fun d => isDocument_printBills _) (by rintro ⟨⟩) h
  | showBalance =>
    simp only [work, Session.map_apply] at h
    exact hdone (fun d => isDocument_pretty d.balance.integral_write) (by rintro ⟨⟩) h
  | listActions name =>
    obtain ⟨_, rfl⟩ := output_of_withBill h
    exact iff_of_true (isDocument_printActions _) (by rintro ⟨⟩)
  | showBill name =>
    obtain ⟨harrived, rfl⟩ := output_of_withBill h
    refine (isDocument_printOpenBill_iff _).trans ?_
    constructor
    · intro hloaded hprints
      cases hprints with
      | unavailable hreason =>
        rw [hreason] at hloaded
        cases hloaded
    · intro hother
      rcases hsnapshot : (Session.openBill L name s).2.desk.openSnapshot with _ | reason | b
      · exact absurd hsnapshot harrived
      · exact absurd (.unavailable hsnapshot) hother
      · rfl
  | act name request =>
    obtain ⟨_, rfl⟩ := output_of_withBill h
    refine (isDocument_printOutcome_iff _ _).trans ?_
    constructor
    · intro hnone hprints
      cases hprints with
      | submitted hsubmitted => exact hnone _ hsubmitted
    · intro hother a hsubmitted
      exact hother (.submitted hsubmitted)
  | showChain name =>
    simp only [work, Session.bind_apply] at h
    cases hlook : (Session.chain L name s).1 <;> rw [hlook] at h <;> cases h
    · exact iff_of_true isDocument_empty (by rintro ⟨⟩)
    · exact iff_of_true (isDocument_pretty (integral_write _)) (by rintro ⟨⟩)
  | listOperations =>
    simp only [work, Session.bind_apply] at h
    cases hlook : (Session.operations L s).1 <;> rw [hlook] at h <;> cases h
    · exact iff_of_true isDocument_empty (by rintro ⟨⟩)
    · exact iff_of_true (isDocument_pretty (integral_write _)) (by rintro ⟨⟩)

/-- What a command prints that is asked for JSON, for every ledger, every session and every day. It
is a document, or nothing, but for the two exits that print text: these never print a document. -/
theorem run_json_isDocument_iff (L : Ledger σ) (today : Date) (c : Command) {s : Session σ}
    {output : String} (h : (c.run L today .json s).1 = .ok output) :
    IsDocument output ↔ ¬PrintsText L (Session.start L s).2 c :=
  work_json_isDocument_iff L today c h

/-- Where nobody is reached, the empty list of contacts is printed as a document, and a bill in
words. -/
theorem run_json_isDocument_iff_silent :
    let print (c : Command) :=
      (c.run Ledger.silent ⟨2025, 1, 1, by decide⟩ .json { ledger := () }).1
    let words := "Bill not available: External Ledger request error: no answer\n"
    (print .listContacts = .ok "[]\n" ∧ IsDocument "[]\n") ∧
      print (.showBill "bill-1") = .ok words ∧ ¬IsDocument words := by
  intro print words
  have hcontacts : print .listContacts = .ok "[]\n" := rfl
  have hbill : print (.showBill "bill-1") = .ok words := rfl
  refine ⟨⟨hcontacts, ?_⟩, hbill, ?_⟩
  · exact (run_json_isDocument_iff _ _ _ hcontacts).2 nofun
  · intro hdocument
    exact (run_json_isDocument_iff _ _ _ hbill).1 hdocument (.unavailable rfl)

/-- A command that is asked for JSON prints a document, or nothing. -/
def PrintsJson (L : Ledger σ) : Prop :=
  ∀ (today : Date) (c : Command) (s : Session σ) (output : String),
    (c.run L today .json s).1 = .ok output → IsDocument output

theorem not_printsJson_silent : ¬PrintsJson Ledger.silent := by
  intro h
  have hdocument := h ⟨2025, 1, 1, by decide⟩ (.showBill "bill-1") { ledger := () } _ rfl
  exact not_isDocument_bill (.unavailable LedgerError.noAnswer.message) .notYetLoaded hdocument

end Command

end BillDesk
