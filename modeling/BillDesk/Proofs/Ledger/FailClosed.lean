import BillDesk.Ledger.Http
import BillDesk.Proofs.Bill.Reading
import BillDesk.Proofs.Session.Steady
import BillDesk.Proofs.Session.Submission
import BillDesk.Proofs.Url.Appending

/-!
# Whatever the ledger answers

Between the body of a response and an action on a bill stand the status, the JSON reader, the
record of the bill, the snapshot and the dispatch. Only a success with a whole bill in its body gets
through to where something can be done about it. Everything else is one of three failures, each with
a text of its own, and leaves nothing that could be acted on.

Results:
1. `answer_of_queryRequest`: what a query is answered, by what comes back for its request.
2. `snapshot_of_answer`: the snapshot for each kind of answer, in both directions.
3. `execute_of_unloaded`, `fetched_of_execute`: nothing is sent for a bill that is not loaded, and
   what is loaded was fetched.
4. `refetch_bills_of_spoiled`: a list with a part that cannot be read is not taken.
5. `fails_closed`: all of this for the ledger over HTTP.
-/

namespace BillDesk

/-! ## Three texts -/

namespace LedgerError

/-- The character in which the texts of a failed call, a status and a body part ways. -/
def mark (text : String) : Option Char := text.toList[18]?

theorem mark_noAnswer : mark noAnswer.message = some 'q' := by decide

theorem mark_unexpectedShape : mark unexpectedShape.message = some 's' := by decide

theorem mark_status (code : Nat) (path : String) : mark (status code path).message = some 't' := by
  have htext : (status code path).message.toList =
      "External Ledger returned status ".toList ++ (Nat.repr code ++ " for " ++ path).toList := by
    rw [← String.toList_append, ← String.append_assoc, ← String.append_assoc]
    rfl
  rw [mark, htext, List.getElem?_append_left (by decide)]
  decide

theorem noAnswer_ne_status (code : Nat) (path : String) :
    noAnswer.message ≠ (status code path).message := by
  intro h
  have hmark := congrArg mark h
  rw [mark_noAnswer, mark_status] at hmark
  exact absurd hmark (by decide)

theorem unexpectedShape_ne_status (code : Nat) (path : String) :
    unexpectedShape.message ≠ (status code path).message := by
  intro h
  have hmark := congrArg mark h
  rw [mark_unexpectedShape, mark_status] at hmark
  exact absurd hmark (by decide)

theorem noAnswer_ne_unexpectedShape : noAnswer.message ≠ unexpectedShape.message := by decide

theorem eq_of_status_message {code code' : Nat} {path : String}
    (h : (status code path).message = (status code' path).message) : code = code' := by
  have htext : "External Ledger returned status " ++ Nat.repr code =
      "External Ledger returned status " ++ Nat.repr code' :=
    (String.append_left_inj _).1 ((String.append_left_inj _).1 h)
  have hdigits : Nat.toDigits 10 code = Nat.toDigits 10 code' := by
    have hrepr := (String.append_right_inj _).1 htext
    rwa [Nat.repr_eq_ofList_toDigits, Nat.repr_eq_ofList_toDigits, String.ofList_inj] at hrepr
  rw [← Nat.ofDigitChars_ten_toDigits (n := code), hdigits, Nat.ofDigitChars_ten_toDigits]

end LedgerError

/-! ## What is made of an answer -/

namespace LedgerClient

variable {τ : Type} {c : LedgerClient} {T : Http.Transport τ} {t : τ}

/-- What comes back for a request that can be sent. -/
def reply? (T : Http.Transport τ) (request : Http.Request) (t : τ) : Option Http.Response :=
  if request.isSendable then (T request t).1 else none

theorem answer_of_queryRequest {q : Query} {request : Http.Request}
    (h : c.queryRequest q = .ok request) :
    ((c.ledger T).answer q t).1 =
      match reply? T request t with
      | none => .error .noAnswer
      | some response =>
          if response.isSuccess then readBody q response
          else .error (.status response.status request.url.path.text) := by
  simp only [ledger, send, h, reply?]
  by_cases hsendable : request.isSendable = true
  · rcases hT : T request t with ⟨_ | response, t'⟩
    · simp [hsendable]
    · by_cases hsuccess : response.isSuccess = true <;> simp [hsendable, hsuccess]
  · simp [hsendable]

theorem queryRequest_of_append {q : Query} {url : Url}
    (h : c.base.append? (q.path ++ q.name?.toList) = some url) :
    c.queryRequest q = .ok ⟨.get, url, c.authorization, []⟩ :=
  queryRequest_eq_ok_iff.2 ⟨url, h, rfl⟩

/-- What is shown for an answer. It is the bill, if the whole body of a success is one. Otherwise it
is one of three texts, each for its own kind of answer. -/
theorem snapshot_of_answer {name : String} {request : Http.Request}
    (h : c.queryRequest (.bill name) = .ok request) :
    let reply := reply? T request t
    let snap := Bill.Snapshot.ofAnswer ((c.ledger T).answer (.bill name) t).1
    (∀ b, snap = .loaded b ↔ ∃ response, reply = some response ∧
      200 ≤ response.status ∧ response.status < 300 ∧
      Json.decode? Bill (Json.read? response.body) = some b) ∧
    (snap = .unavailable LedgerError.noAnswer.message ↔ reply = none) ∧
    (∀ code, snap = .unavailable (LedgerError.status code request.url.path.text).message ↔
      ∃ response, reply = some response ∧ response.status = code ∧ ¬(200 ≤ code ∧ code < 300)) ∧
    (snap = .unavailable LedgerError.unexpectedShape.message ↔
      ∃ response, reply = some response ∧ 200 ≤ response.status ∧ response.status < 300 ∧
        Json.decode? Bill (Json.read? response.body) = none) ∧
    ((∃ b, snap = .loaded b) ∨ snap = .unavailable LedgerError.noAnswer.message ∨
      (∃ code, snap = .unavailable (LedgerError.status code request.url.path.text).message) ∨
      snap = .unavailable LedgerError.unexpectedShape.message) := by
  intro reply snap
  have hanswer := answer_of_queryRequest (T := T) (t := t) h
  rcases hreply : reply with _ | response
  · have hsnap : snap = .unavailable LedgerError.noAnswer.message := by
      rw [show reply? T request t = none from hreply] at hanswer
      exact congrArg Bill.Snapshot.ofAnswer hanswer
    simp [hsnap, LedgerError.noAnswer_ne_status, LedgerError.noAnswer_ne_unexpectedShape]
  rw [show reply? T request t = some response from hreply] at hanswer
  by_cases hsuccess : 200 ≤ response.status ∧ response.status < 300
  · have hread : ((c.ledger T).answer (.bill name) t).1 = readBody (.bill name) response := by
      simpa [Http.Response.isSuccess, hsuccess] using hanswer
    have hbody : (Json.read? response.body).bind (Query.decode? (.bill name)) =
        Json.decode? Bill (Json.read? response.body) := rfl
    rw [readBody, hbody] at hread
    rcases hdecode : Json.decode? Bill (Json.read? response.body) with _ | b
    · have hsnap : snap = .unavailable LedgerError.unexpectedShape.message := by
        rw [hdecode] at hread
        exact congrArg Bill.Snapshot.ofAnswer hread
      simp [hsnap, hdecode, hsuccess, LedgerError.unexpectedShape_ne_status,
        LedgerError.noAnswer_ne_unexpectedShape.symm]
    · have hsnap : snap = .loaded b := by
        rw [hdecode] at hread
        exact congrArg Bill.Snapshot.ofAnswer hread
      simp [hsnap, hdecode, hsuccess]
  · have hsnap : snap =
        .unavailable (LedgerError.status response.status request.url.path.text).message := by
      have herror : ((c.ledger T).answer (.bill name) t).1 =
          .error (.status response.status request.url.path.text) := by
        simpa [Http.Response.isSuccess, hsuccess] using hanswer
      exact congrArg Bill.Snapshot.ofAnswer herror
    have hfailed : ∀ P : Prop, 200 ≤ response.status → response.status < 300 → ¬P :=
      fun _ hlow hhigh => absurd ⟨hlow, hhigh⟩ hsuccess
    refine ⟨?_, ?_, ?_, ?_, .inr (.inr (.inl ⟨response.status, hsnap⟩))⟩
    · simpa [hsnap] using fun b => hfailed (_ = some b)
    · simp [hsnap, (LedgerError.noAnswer_ne_status _ _).symm]
    · intro code
      rw [hsnap, Bill.Snapshot.unavailable.injEq]
      constructor
      · intro htext
        obtain rfl := LedgerError.eq_of_status_message htext
        exact ⟨response, rfl, rfl, hsuccess⟩
      · rintro ⟨r, hr, rfl, _⟩
        rw [Option.some.inj hr]
    · simpa [hsnap, (LedgerError.unexpectedShape_ne_status _ _).symm] using hfailed (_ = none)

/-- A list of bills with a part that cannot be read is answered as a failure. -/
theorem answer_bills_of_spoiled {request : Http.Request} {response : Http.Response}
    {elements : List Json.Value} (h : c.queryRequest .bills = .ok request)
    (hreply : reply? T request t = some response)
    (hbody : Json.read? response.body = some (.array elements))
    (hspoiled : Bill.Spoiled elements) : ∃ e, ((c.ledger T).answer .bills t).1 = .error e := by
  have hdecode : (Json.read? response.body).bind (Query.decode? .bills) = none := by
    rw [hbody]
    exact Bill.read?_of_spoiled hspoiled
  rw [answer_of_queryRequest h, hreply]
  by_cases hsuccess : response.isSuccess = true
  · refine ⟨.unexpectedShape, ?_⟩
    simp only [hsuccess, if_true, readBody, hdecode]
  · refine ⟨.status response.status request.url.path.text, ?_⟩
    simp only [hsuccess, Bool.false_eq_true, if_false]

end LedgerClient

/-! ## A bill that is not loaded -/

/-- No action is eligible on a bill that is not loaded. -/
theorem Bill.Snapshot.eligibility_of_not_loaded {snap : Bill.Snapshot}
    (h : ∀ b, snap ≠ .loaded b) (peer? : Option PeerId) :
    (snap.eligibility peer?).toList = [] := by
  cases peer? with
  | none => rfl
  | some peer =>
    cases snap with
    | loading | unavailable reason => rfl
    | loaded b => exact absurd rfl (h b)

/-- No loaded bill is shown. -/
def Desk.Unloaded (d : Desk) : Prop := ∀ name b, d.openBill? ≠ some ⟨name, .loaded b⟩

theorem Desk.Unloaded.not_passes {d : Desk} (h : d.Unloaded) (r : Bill.Request) (b : Bill) :
    ¬d.Passes r b := by
  intro hpasses
  obtain ⟨name, hopen⟩ := hpasses.shows.loaded
  exact h name b hopen

namespace Session

variable {σ : Type} {L : Ledger σ} {s : Session σ}

/-- Without a loaded bill an action sends nothing and loads nothing. -/
theorem execute_of_unloaded (h : s.desk.Unloaded) (r : Bill.Request) :
    (execute L r s).2.ledger = s.ledger ∧ (execute L r s).2.desk.Unloaded := by
  have hnot : ¬((∃ b, s.desk.Passes r b) ∧ r ≠ .pay ∧ r ≠ .buy) :=
    fun ⟨⟨b, hb⟩, _⟩ => h.not_passes r b hb
  obtain ⟨hledger, ⟨fault, _, _, hrefused⟩ | ⟨b, _, hb, _⟩⟩ := execute_of_not_sent (L := L) hnot
  · refine ⟨hledger, ?_⟩
    rw [hrefused]
    exact h
  · exact absurd hb (h.not_passes r b)

theorem playFor_execute_of_unloaded (h : s.desk.Unloaded)
    (requests : List (Watch × Bill.Request)) :
    (s.playFor L (requests.map fun p => (p.1, .execute p.2))).ledger = s.ledger := by
  induction requests generalizing s with
  | nil => rfl
  | cons p requests ih =>
    obtain ⟨hledger, hunloaded⟩ := execute_of_unloaded (L := L) (s := { s with watch := p.1 }) h p.2
    exact (ih hunloaded).trans hledger

/-- When an action sends something, the bill on screen was fetched since then. -/
theorem fetched_of_execute {s : Session (σ × List Exchange)} (h : s.desk.Unloaded)
    (moves : List (Watch × Move)) (r : Bill.Request) :
    let s' := s.playFor L.journaled moves
    (execute L.journaled r s').2.ledger ≠ s'.ledger →
      ∃ since name b, s'.ledger.2 = s.ledger.2 ++ since ∧
        s'.desk.openBill? = some ⟨name, .loaded b⟩ ∧ .asked (.bill name) (.ok b) ∈ since := by
  intro s' hsent
  have hstart : s.Meets (FetchedSince s.ledger.2) :=
    ⟨[], (List.append_nil _).symm, fun name b hopen => absurd hopen (h name b)⟩
  obtain ⟨since, hsince, hfetched⟩ := (steady_fetched L s.ledger.2).playFor hstart moves
  by_cases hpasses : (∃ b, s'.desk.Passes r b) ∧ r ≠ .pay ∧ r ≠ .buy
  · obtain ⟨⟨b, hb⟩, _⟩ := hpasses
    obtain ⟨name, hopen⟩ := hb.shows.loaded
    exact ⟨since, name, b, hsince, hopen, hfetched name b hopen⟩
  · exact absurd (execute_of_not_sent (L := L.journaled) hpasses).1 hsent

/-- A failed fetch of the bills leaves them as they were. -/
theorem refetch_bills_of_error {e : LedgerError} (h : (L.answer .bills s.ledger).1 = .error e) :
    (refetch L .bills s).2.desk.bills = s.desk.bills ∧
      (refetch L .bills s).2.desk.balance = s.desk.balance := by
  rw [refetch_apply]
  split
  · dsimp only
    split
    · rw [show (L.answer Resource.bills.query s.ledger).1 = .error e from h]
      exact ⟨rfl, rfl⟩
    · exact ⟨rfl, rfl⟩
  · exact ⟨rfl, rfl⟩

end Session

/-- The client fails closed, whatever the ledger answers and whatever carries the requests. A bill
is shown as loaded exactly when it is the whole body of a success, otherwise with one of three
texts, each for its own kind of answer. Without a loaded bill no action is eligible and none sends
anything, until the open bill has been fetched. And a list of bills in which one bill, party or
block cannot be read leaves the bills and the balance as they were. -/
theorem fails_closed {τ : Type} (c : LedgerClient) (T : Http.Transport τ) :
    (∀ name url t, c.base.append? ["bill", "return", name] = some url →
      let reply := LedgerClient.reply? T ⟨.get, url, c.authorization, []⟩ t
      let snap := Bill.Snapshot.ofAnswer ((c.ledger T).answer (.bill name) t).1
      (∀ b, snap = .loaded b ↔ ∃ response, reply = some response ∧
        200 ≤ response.status ∧ response.status < 300 ∧
        Json.decode? Bill (Json.read? response.body) = some b) ∧
      (snap = .unavailable LedgerError.noAnswer.message ↔ reply = none) ∧
      (∀ code, snap = .unavailable (LedgerError.status code url.path.text).message ↔
        ∃ response, reply = some response ∧ response.status = code ∧
          ¬(200 ≤ code ∧ code < 300)) ∧
      (snap = .unavailable LedgerError.unexpectedShape.message ↔
        ∃ response, reply = some response ∧ 200 ≤ response.status ∧ response.status < 300 ∧
          Json.decode? Bill (Json.read? response.body) = none) ∧
      ((∃ b, snap = .loaded b) ∨ snap = .unavailable LedgerError.noAnswer.message ∨
        (∃ code, snap = .unavailable (LedgerError.status code url.path.text).message) ∨
        snap = .unavailable LedgerError.unexpectedShape.message)) ∧
    (∀ (snap : Bill.Snapshot) (peer? : Option PeerId), (∀ b, snap ≠ .loaded b) →
      (snap.eligibility peer?).toList = []) ∧
    (∀ (s : Session τ) (requests : List (Watch × Bill.Request)), s.desk.Unloaded →
      (s.playFor (c.ledger T) (requests.map fun p => (p.1, .execute p.2))).ledger = s.ledger) ∧
    (∀ (s : Session (τ × List Exchange)) (moves : List (Watch × Move)) (r : Bill.Request),
      s.desk.Unloaded →
      let s' := s.playFor (c.ledger T).journaled moves
      (Session.execute (c.ledger T).journaled r s').2.ledger ≠ s'.ledger →
      ∃ since name b, s'.ledger.2 = s.ledger.2 ++ since ∧
        s'.desk.openBill? = some ⟨name, .loaded b⟩ ∧ .asked (.bill name) (.ok b) ∈ since) ∧
    (∀ (s : Session τ) url response elements,
      c.base.append? ["bills", "return"] = some url →
      LedgerClient.reply? T ⟨.get, url, c.authorization, []⟩ s.ledger = some response →
      Json.read? response.body = some (.array elements) → Bill.Spoiled elements →
      let s' := (Session.refetch (c.ledger T) .bills s).2
      s'.desk.bills = s.desk.bills ∧ s'.desk.balance = s.desk.balance) := by
  refine ⟨?_, ?_, ?_, ?_, ?_⟩
  · intro name url t hurl
    exact LedgerClient.snapshot_of_answer (LedgerClient.queryRequest_of_append hurl)
  · intro snap peer? h
    exact Bill.Snapshot.eligibility_of_not_loaded h peer?
  · intro s requests h
    exact Session.playFor_execute_of_unloaded h requests
  · intro s moves r h
    exact Session.fetched_of_execute h moves r
  · intro s url response elements hurl hreply hbody hspoiled
    obtain ⟨e, he⟩ := LedgerClient.answer_bills_of_spoiled
      (LedgerClient.queryRequest_of_append hurl) hreply hbody hspoiled
    exact Session.refetch_bills_of_error he

/-- A client of a ledger at the root of its host. -/
def LedgerClient.atRoot : LedgerClient := ⟨{ scheme := "http", path := .segments [""] }, none⟩

/-- Every request is answered alike. -/
def Http.Transport.constant (response : Http.Response) : Http.Transport Unit :=
  fun _ t => (some response, t)

theorem fails_closed_atRoot :
    let missing := LedgerClient.atRoot.ledger (.constant ⟨404, "unknown"⟩)
    let broken := LedgerClient.atRoot.ledger (.constant ⟨200, "[7]"⟩)
    let s : Session Unit := { desk := ({} : Desk).setBills [exampleBill], ledger := () }
    Bill.Snapshot.ofAnswer (missing.answer (.bill "bill-1") ()).1 =
        .unavailable "External Ledger returned status 404 for /bill/return/bill-1" ∧
      (Session.refetch broken .bills s).2.desk.bills = [exampleBill] := by
  have hbill : LedgerClient.atRoot.base.append? ["bill", "return", "bill-1"] =
      some { scheme := "http", path := .segments ["bill", "return", "bill-1"] } := by decide
  have hbills : LedgerClient.atRoot.base.append? ["bills", "return"] =
      some { scheme := "http", path := .segments ["bills", "return"] } := by decide
  have hbody : Json.read? "[7]" = some (.array [.integer false 7]) := by rfl
  have hspoiled : Bill.Spoiled [.integer false 7] := .bill (List.mem_singleton_self _) rfl
  intro missing broken s
  obtain ⟨hshown, _⟩ := fails_closed LedgerClient.atRoot (.constant ⟨404, "unknown"⟩)
  obtain ⟨_, _, _, _, hkept⟩ := fails_closed LedgerClient.atRoot (.constant ⟨200, "[7]"⟩)
  obtain ⟨_, _, hstatus, _⟩ := hshown "bill-1" _ () hbill
  refine ⟨(hstatus 404).2 ⟨⟨404, "unknown"⟩, by decide, rfl, by decide⟩, ?_⟩
  exact (hkept s _ ⟨200, "[7]"⟩ _ hbills (by decide) hbody hspoiled).1

end BillDesk
