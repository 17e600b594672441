import BillDesk.CommandLine.Report
import BillDesk.Ledger.Http
import BillDesk.Proofs.Desk.History
import BillDesk.Proofs.Ledger.FailClosed
import BillDesk.Proofs.Ledger.WireFormat
import BillDesk.Proofs.Session.Projection
import BillDesk.Proofs.Session.Submission
import BillDesk.Proofs.Url.Appending

/-!
# Keys stay where they are

The ledger answers with the whole identity, its key material included, and the desk keeps it. No
command shows anything of the keys. To see this, the keys are cleared in every answer of the ledger
and on the desk: this is a projection of sessions, and a command is the same on both sides of it. So
two ledgers that differ in nothing but the keys are told and asked the same, and what is printed and
reported is the same.

Results:
1. `Ledger.redaction`: clearing the keys is a projection.
2. `carries_work`: every command is the same without the keys.
3. `redacted_eq_of_agreeButForKeys`: over HTTP and without their keys, the two ledgers are one.
4. `run_ignores_keys`: the two runs of a command, for every client, script and view.
-/

namespace BillDesk

variable {σ τ : Type}

/-! ## Clearing the keys -/

namespace Identity

/-- The identity without its key material. -/
def withoutKeys (i : Identity) : Identity :=
  { i with
    publicKeyPem := "", privateKeyPem := "", bitcoinPublicKey := "", bitcoinPrivateKey := "" }

end Identity

/-- An answer without keys. Only an identity has them. -/
def Query.withoutKeys : (q : Query) → q.Answer → q.Answer
  | .identity => Identity.withoutKeys
  | .peerId | .contacts | .bills | .bill _ | .chain _ | .operations => id

/-- The desk without the keys of the identity. -/
def Desk.redacted (d : Desk) : Desk := { d with identity? := d.identity?.map Identity.withoutKeys }

/-- The ledger that answers without keys. -/
def Ledger.redacted (L : Ledger σ) : Ledger σ where
  answer q t := ((L.answer q t).1.map q.withoutKeys, (L.answer q t).2)
  obey := L.obey

theorem Desk.startPage_redacted (d : Desk) : d.redacted.startPage = d.startPage := by
  have hcreated : d.redacted.identityCreated = d.identityCreated := by
    simp only [identityCreated, redacted]
    cases d.identity? <;> rfl
  rw [startPage, startPage, hcreated]

theorem Desk.record_redacted (d : Desk) (r : Resource)
    (answer : Except LedgerError r.query.Answer) :
    r.record d.redacted (answer.map r.query.withoutKeys) = (r.record d answer).redacted := by
  cases r with
  | identity | peerId | contacts | bills => cases answer <;> rfl
  | openBill name =>
    have hanswer : answer.map (Query.bill name).withoutKeys = answer := by
      cases answer <;> rfl
    change (Resource.openBill name).record d.redacted (answer.map (Query.bill name).withoutKeys) = _
    rw [hanswer, Resource.record, Resource.record, setSnapshot_snd, setSnapshot_snd]
    rfl

/-- Clearing the keys is a projection. -/
def Ledger.redaction (L : Ledger σ) : Projection L L.redacted where
  desk := Desk.redacted
  state := id
  value := Query.withoutKeys
  answer_state _ _ := rfl
  obey_state _ _ := rfl
  openBill?_desk _ := rfl
  peer?_desk _ := rfl
  contacts_desk _ := rfl
  startPage_desk := Desk.startPage_redacted
  notify_desk _ _ _ := rfl
  navigate_desk _ _ := rfl
  openBill_desk _ _ := rfl
  record_desk := Desk.record_redacted

/-- Only the identity is lost. -/
theorem Ledger.eq_of_redaction {L M : Ledger σ} {s s' : Session σ}
    (h : L.redaction.session s = M.redaction.session s') :
    s.ledger = s'.ledger ∧ s.desk.board = s'.desk.board := by
  have hledger := congrArg Session.ledger h
  have hboard := congrArg (fun left => left.desk.board) h
  exact ⟨hledger, hboard⟩

/-! ## Commands -/

open Command

theorem Command.withBill_apply (L : Ledger σ) (name : String) (w : Work σ String) (s : Session σ) :
    let opened := (Session.openBill L name s).2
    withBill L name w s =
      if opened.desk.openSnapshot = .loading then (.error (.loadingCancelled name), opened)
      else (.ok (w opened).1, (w opened).2) := by
  intro opened
  change (if opened.desk.openSnapshot = .loading then
      (pure (.error (.loadingCancelled name)) : Work σ (Except Failure String))
    else do return .ok (← w)) opened = _
  split <;> rfl

namespace Projection

variable {L : Ledger σ} {M : Ledger τ} (P : Projection L M)

theorem carries_printIf {print : Desk → String} (h : ∀ d, print (P.desk d) = print d)
    (done : Bool) : P.Carries (printIf done print) (printIf done print) := by
  intro s
  cases done with
  | false => rfl
  | true =>
    show (print (P.desk s.desk), P.session s) = (print s.desk, P.session s)
    rw [h]

/-- Whether a bill has arrived is the same on both sides. -/
theorem carries_withBill (name : String) {w : Work σ String} {v : Work τ String}
    (h : P.Carries w v) : P.Carries (withBill L name w) (withBill M name v) := by
  intro s
  have hopen : ∀ d, (P.desk d).openSnapshot = d.openSnapshot := by
    intro d
    rw [Desk.openSnapshot, Desk.openSnapshot, P.openBill?_desk]
  simp only [withBill_apply, P.carries_openBill name s, session_desk, hopen, h _]
  split <;> rfl

end Projection

theorem printIdentity_redacted (f : Format) (d : Desk) :
    printIdentity f d.redacted = printIdentity f d := by
  simp only [printIdentity, Desk.redacted]
  cases d.identity? <;> rfl

/-- A command is the same without the keys. -/
theorem carries_work (L : Ledger σ) (today : Date) (f : Format) (c : Command) :
    L.redaction.Carries (c.work L today f) (c.work L.redacted today f) := by
  have hidentity := L.redaction.carries_printIf (printIdentity_redacted f)
  have hcontacts : ∀ done, L.redaction.Carries (printIf done (printContacts f))
      (printIf done (printContacts f)) := L.redaction.carries_printIf fun _ => rfl
  cases c with
  | showIdentity => exact (hidentity true).map _
  | createIdentity form =>
    exact (L.redaction.carries_make _ _).bind fun done => (hidentity done).map _
  | changeIdentity form =>
    exact (L.redaction.carries_make _ _).bind fun done => (hidentity done).map _
  | listContacts => exact (hcontacts true).map _
  | addContact name peer =>
    exact (L.redaction.carries_addContact name peer).bind fun done => (hcontacts done).map _
  | editContact oldName name peer =>
    exact (L.redaction.carries_editContact oldName name peer).bind fun done =>
      (hcontacts done).map _
  | removeContact name =>
    exact (L.redaction.carries_removeContact name).bind fun done => (hcontacts done).map _
  | listBills filter => exact (L.redaction.carries_printIf (fun _ => rfl) true).map _
  | showBill name =>
    exact L.redaction.carries_withBill name (L.redaction.carries_printIf (fun _ => rfl) true)
  | listActions name =>
    exact L.redaction.carries_withBill name (L.redaction.carries_printIf (fun _ => rfl) true)
  | act name request =>
    refine L.redaction.carries_withBill name ?_
    exact (L.redaction.carries_execute request).bind fun outcome =>
      L.redaction.carries_printIf (fun _ => rfl) true
  | showChain name =>
    intro s
    have hlook := L.redaction.look_session (.chain name) "Could not load the chain of the bill" s
    simp only [Command.work, Session.bind_apply, Session.chain, hlook]
    cases (Session.look L (.chain name) "Could not load the chain of the bill" s).1 <;> rfl
  | issue form =>
    exact (L.redaction.carries_make _ _).bind fun done =>
      (L.redaction.carries_printIf (fun _ => rfl) done).map _
  | showBalance => exact (L.redaction.carries_printIf (fun _ => rfl) true).map _
  | listOperations =>
    intro s
    have hlook := L.redaction.look_session .operations "Could not load operation codes" s
    simp only [Command.work, Session.bind_apply, Session.operations, hlook]
    cases (Session.look L .operations "Could not load operation codes" s).1 <;> rfl

theorem carries_run (L : Ledger σ) (today : Date) (f : Format) (c : Command) :
    L.redaction.Carries (c.run L today f) (c.run L.redacted today f) :=
  L.redaction.carries_start.bind fun _ => carries_work L today f c

/-- The report is made of what is printed and of the notices. -/
theorem CommandLine.Report.ofRun_eq_of_board_eq {d d' : Desk} (h : d.board = d'.board)
    (result : Except Command.Failure String) : ofRun result d = ofRun result d' := by
  simp only [ofRun, h]

theorem CommandLine.Invocation.report_eq (i : CommandLine.Invocation) (L : Ledger σ) (state : σ)
    (today : Date) :
    let done := i.command.run L today i.format { ledger := state }
    i.report L state today = (Report.ofRun done.1 done.2.desk, done.2.ledger) := rfl

/-! ## Two ledgers over HTTP -/

namespace Http

/-- What a ledger responds to a request, by all that was requested before. -/
abbrev Script := List Request → Request → Option Response

/-- The requests that were carried are what the next response depends on. -/
def Script.transport (S : Script) : Transport (List Request) := fun request before =>
  (S before request, before ++ [request])

/-- The bodies of both responses hold an identity, and but for the keys it is the same one. -/
structure Response.SameButKeys (response response' : Response) : Prop where
  status : response.status = response'.status
  identity : ∃ i i', Json.decode? Identity (Json.read? response.body) = some i ∧
    Json.decode? Identity (Json.read? response'.body) = some i' ∧ i.withoutKeys = i'.withoutKeys

/-- The scripts respond alike, but that the identity may be responded with other keys. -/
def AgreeButForKeys (c : LedgerClient) (S S' : Script) : Prop :=
  ∀ before request, S before request = S' before request ∨
    c.queryRequest .identity = .ok request ∧ ∃ response response',
      S before request = some response ∧ S' before request = some response' ∧
        response.SameButKeys response'

end Http

namespace LedgerClient

open Http

variable {c : LedgerClient} {S S' : Script} {before : List Request}

theorem send_eq_of_eq {request : Request} (h : S before request = S' before request) :
    send S.transport (.ok request) before = send S'.transport (.ok request) before := by
  simp only [send, Script.transport, h]

/-- The identity is answered as it is read from the response, and without its keys alike. -/
theorem answer_identity_of_sameButKeys {request : Request} {response response' : Response}
    (hrequest : c.queryRequest .identity = .ok request) (hS : S before request = some response)
    (hS' : S' before request = some response') (h : response.SameButKeys response') :
    (c.ledger S.transport).redacted.answer .identity before =
      (c.ledger S'.transport).redacted.answer .identity before := by
  obtain ⟨hstatus, i, i', hi, hi', hkeys⟩ := h
  have hread : readBody .identity response = .ok i := by
    have hbody : (Json.read? response.body).bind (Query.decode? .identity) = some i := hi
    rw [readBody, hbody]
  have hread' : readBody .identity response' = .ok i' := by
    have hbody : (Json.read? response'.body).bind (Query.decode? .identity) = some i' := hi'
    rw [readBody, hbody]
  have hsuccess : response.isSuccess = response'.isSuccess := by
    rw [Response.isSuccess, Response.isSuccess, hstatus]
  simp only [Ledger.redacted, ledger, send, hrequest, Script.transport, hS, hS', hsuccess, hstatus]
  by_cases hsendable : request.isSendable = true
  · by_cases hsucceeds : response'.isSuccess = true
    · simp only [hsendable, hsucceeds, if_true, hread, hread']
      exact congrArg (fun i => (Except.ok i, before ++ [request])) hkeys
    · simp only [hsendable, hsucceeds, if_true, if_false, Bool.false_eq_true]
  · simp only [hsendable, if_false, Bool.false_eq_true]

theorem answer_redacted_of_agreeButForKeys (h : AgreeButForKeys c S S') (q : Query) :
    (c.ledger S.transport).redacted.answer q before =
      (c.ledger S'.transport).redacted.answer q before := by
  rcases hrequest : c.queryRequest q with e | request
  · simp only [Ledger.redacted, ledger, hrequest]
    rfl
  rcases h before request with heq | ⟨hidentity, response, response', hS, hS', hsame⟩
  · simp only [Ledger.redacted, ledger, hrequest, send_eq_of_eq heq]
  · obtain rfl := eq_of_queryRequest hrequest hidentity rfl
    exact answer_identity_of_sameButKeys hrequest hS hS' hsame

/-- An order is a POST, and the identity is asked for with a GET. -/
theorem obey_redacted_of_agreeButForKeys (h : AgreeButForKeys c S S') (o : Order) :
    (c.ledger S.transport).redacted.obey o before =
      (c.ledger S'.transport).redacted.obey o before := by
  rcases hrequest : c.orderRequest o with e | request
  · simp only [Ledger.redacted, ledger, hrequest]
    rfl
  rcases h before request with heq | ⟨hidentity, _⟩
  · simp only [Ledger.redacted, ledger, hrequest, send_eq_of_eq heq]
  · obtain ⟨url, _, rfl⟩ := Session.orderRequest_eq_ok_iff.1 hrequest
    obtain ⟨_, _, hget⟩ := queryRequest_eq_ok_iff.1 hidentity
    cases congrArg Request.method hget

/-- Without their keys, the two ledgers are one. -/
theorem redacted_eq_of_agreeButForKeys (h : AgreeButForKeys c S S') :
    (c.ledger S.transport).redacted = (c.ledger S'.transport).redacted := by
  rw [Ledger.mk.injEq]
  constructor
  · funext q before
    exact answer_redacted_of_agreeButForKeys h q
  · funext o before
    exact obey_redacted_of_agreeButForKeys h o

theorem run_of_agreeButForKeys (h : AgreeButForKeys c S S') (today : Date) (f : Format)
    (command : Command) (s : Session (List Request)) :
    let done := command.run (c.ledger S.transport) today f s
    let done' := command.run (c.ledger S'.transport) today f s
    done.1 = done'.1 ∧ done.2.ledger = done'.2.ledger ∧ done.2.desk.board = done'.2.desk.board := by
  intro done done'
  let cleared : Session (List Request) := { s with desk := s.desk.redacted }
  have hrun : command.run (c.ledger S.transport).redacted today f cleared =
      (done.1, (c.ledger S.transport).redaction.session done.2) :=
    carries_run (c.ledger S.transport) today f command s
  have hrun' : command.run (c.ledger S'.transport).redacted today f cleared =
      (done'.1, (c.ledger S'.transport).redaction.session done'.2) :=
    carries_run (c.ledger S'.transport) today f command s
  have hruns : command.run (c.ledger S.transport).redacted today f cleared =
      command.run (c.ledger S'.transport).redacted today f cleared := by
    rw [redacted_eq_of_agreeButForKeys h]
  obtain ⟨hresult, hleft⟩ := Prod.mk.inj (hrun.symm.trans (hruns.trans hrun'))
  exact ⟨hresult, Ledger.eq_of_redaction hleft⟩

/-- Two runs of a command with scripts that agree but for the keys of the identity, for every
client, view and day. The same is printed, the same notices are left, and the same requests are
sent, so the reports with their output and exit code are the same. -/
theorem run_ignores_keys {c : LedgerClient} {S S' : Script} (h : AgreeButForKeys c S S')
    (watch : Watch) (today : Date) (i : CommandLine.Invocation) :
    let run (S : Script) := i.command.run (c.ledger S.transport) today i.format
      { watch, ledger := [] }
    (run S).1 = (run S').1 ∧
      (run S).2.ledger = (run S').2.ledger ∧
      (run S).2.desk.board = (run S').2.desk.board ∧
      CommandLine.Report.ofRun (run S).1 (run S).2.desk =
        CommandLine.Report.ofRun (run S').1 (run S').2.desk ∧
      i.report (c.ledger S.transport) [] today = i.report (c.ledger S'.transport) [] today := by
  intro run
  obtain ⟨hresult, hledger, hboard⟩ :=
    run_of_agreeButForKeys h today i.format i.command { watch, ledger := [] }
  obtain ⟨hresult', hledger', hboard'⟩ :=
    run_of_agreeButForKeys h today i.format i.command { ledger := [] }
  refine ⟨hresult, hledger, hboard, ?_, ?_⟩
  · rw [show (run S).1 = (run S').1 from hresult]
    exact CommandLine.Report.ofRun_eq_of_board_eq hboard _
  · rw [CommandLine.Invocation.report_eq, CommandLine.Invocation.report_eq, hresult', hledger',
      CommandLine.Report.ofRun_eq_of_board_eq hboard']

/-! ## Two keys -/

/-- The request for the identity, below the root. -/
def identityRequest : Request :=
  ⟨.get, { scheme := "http", path := .segments ["identity", "return"] }, none, []⟩

def keyHolder (key : String) : Identity :=
  { name := "Minka", email := "minka@example.com", privateKeyPem := key }

/-- A ledger that has an identity with the given private key, and nothing else. -/
def holding (key : String) : Script := fun _ request =>
  if request = identityRequest then
    some ⟨200, Json.compact (Json.Codec.write (keyHolder key))⟩
  else some ⟨404, ""⟩

theorem decode?_keyHolder (key : String) :
    Json.decode? Identity (Json.read? (Json.compact (Json.Codec.write (keyHolder key)))) =
      some (keyHolder key) :=
  Json.decode?_compact (keyHolder key)

/-- Different keys are different responses. -/
theorem holding_injective {key key' : String}
    (h : holding key [] identityRequest = holding key' [] identityRequest) : key = key' := by
  rw [holding, holding, if_pos rfl, if_pos rfl] at h
  have hbody := congrArg Response.body (Option.some.inj h)
  have hread : some (keyHolder key) = some (keyHolder key') := by
    rw [← decode?_keyHolder key, ← decode?_keyHolder key']
    exact congrArg (fun body => Json.decode? Identity (Json.read? body)) hbody
  exact congrArg Identity.privateKeyPem (Option.some.inj hread)

theorem run_ignores_keys_holding :
    let shown : CommandLine.Invocation :=
      ⟨"http://localhost", none, 30, .warn, .json, .showIdentity⟩
    let today : Date := ⟨2025, 1, 1, by decide⟩
    let L (key : String) := LedgerClient.atRoot.ledger (holding key).transport
    holding "A" [] identityRequest ≠ holding "B" [] identityRequest ∧
      AgreeButForKeys .atRoot (holding "A") (holding "B") ∧
      shown.report (L "A") [] today = shown.report (L "B") [] today := by
  intro shown today L
  have hdiffer : holding "A" [] identityRequest ≠ holding "B" [] identityRequest := fun h =>
    absurd (holding_injective h) (by decide)
  have hagree : AgreeButForKeys .atRoot (holding "A") (holding "B") := by
    intro before request
    by_cases h : request = identityRequest
    · subst h
      exact .inr ⟨by decide, _, _, if_pos rfl, if_pos rfl, rfl, keyHolder "A", keyHolder "B",
        decode?_keyHolder "A", decode?_keyHolder "B", rfl⟩
    · left
      rw [holding, holding, if_neg h, if_neg h]
  obtain ⟨_, _, _, _, hreport⟩ := run_ignores_keys hagree {} today shown
  exact ⟨hdiffer, hagree, hreport⟩

end LedgerClient

end BillDesk
