import BillDesk.Proofs.Session.Run
import BillDesk.Proofs.Session.Submission

/-!
# Operations that come to nothing

An action on the open bill, a change and a look may come to nothing. Either a check of what is on
the desk fails, and the ledger hears nothing, or the one call that the operation is about fails.
Both ways the user gets one error notice, and nothing else has happened: what has to be fetched or
shown next depends on the success of that call, so it waits for its answer.

Results:
1. `step_of_change`: the six kinds of changes are one operation with its own words and checks.
2. `step_of_declined` and `step_of_call_failed`: what an operation leaves behind in both cases.
3. `fails_iff`: there is no other way to fail.
4. `after_ledger`: over HTTP, a call is one request, or none where it cannot be built or sent.
5. `failure_is_one_notice`: the guarantee for every session, operation and ledger.
-/

namespace BillDesk

variable {σ : Type}

/-! ## Calls -/

namespace Ledger

variable (L : Ledger σ)

/-- The exchange that a call makes. -/
def exchange (t : σ) : Call → Exchange
  | .ask q => .asked q (L.answer q t).1
  | .tell o => .told o (L.obey o t).1

def after (t : σ) : Call → σ
  | .ask q => (L.answer q t).2
  | .tell o => (L.obey o t).2

end Ledger

namespace Exchange

def call : Exchange → Call
  | asked q _ => .ask q
  | told o _ => .tell o

/-- Why the call failed, if it did. -/
def failure? : Exchange → Option LedgerError
  | asked _ (.error e) | told _ (.error e) => some e
  | _ => none

end Exchange

theorem Ledger.call_exchange (L : Ledger σ) (t : σ) (c : Call) : (L.exchange t c).call = c := by
  cases c <;> rfl

theorem Ledger.exchange_journaled (L : Ledger σ) (t : σ × List Exchange) (c : Call) :
    L.journaled.exchange t c = L.exchange t.1 c := by
  cases c <;> rfl

theorem Ledger.after_journaled (L : Ledger σ) (t : σ × List Exchange) (c : Call) :
    L.journaled.after t c = (L.after t.1 c, t.2 ++ [L.exchange t.1 c]) := by
  cases c <;> rfl

/-! ## What an operation is about -/

namespace Move

/-- The change that an operation makes to what the ledger keeps, and the order for it, where the
form passes the checks. -/
def change? (d : Desk) : Move → Option (Session.Change × Except FormError Order)
  | issue f => some (Session.issuing, f.order)
  | createIdentity today f => some (Session.savingIdentity, f.createOrder today)
  | changeIdentity today f => some (Session.savingIdentity, f.changeOrder today)
  | addContact name peer => some (Session.savingContacts, Contact.addOrder d.contacts name peer)
  | editContact oldName name peer =>
      some (Session.savingContacts, Contact.editOrder d.contacts oldName name peer)
  | removeContact name => some (Session.savingContacts, Contact.removeOrder d.contacts name)
  | _ => none

/-- The one call of the ledger that the operation is about. There is none where a check fails, and
where the user has to pay instead. -/
def call? (d : Desk) : Move → Option Call
  | execute r =>
      match d.openBill?, d.peer? with
      | some o, some peer =>
          match r.dispatch o.snapshot peer with
          | .ok (.send order) => some (.tell order)
          | _ => none
      | _, _ => none
  | chain bill => some (.ask (.chain bill))
  | operations => some (.ask .operations)
  | m =>
      match m.change? d with
      | some (_, .ok order) => some (.tell order)
      | _ => none

/-- What the user is told first when the call has failed. -/
def failed : Move → String
  | execute _ => "Action failed"
  | issue _ => Session.issuing.failed
  | createIdentity .. | changeIdentity .. => Session.savingIdentity.failed
  | addContact .. | editContact .. | removeContact .. => Session.savingContacts.failed
  | chain _ => "Could not load the chain of the bill"
  | operations => "Could not load operation codes"
  | _ => ""

end Move

/-- A check of what is on the desk fails, and this is what the user is told. -/
inductive Desk.Declines (d : Desk) : Move → String → Prop
  | action {r : Bill.Request} {fault : Fault} (h : d.Refuses r fault) :
      Declines d (.execute r) fault.text
  | form {m : Move} {c : Session.Change} {e : FormError} (h : m.change? d = some (c, .error e)) :
      Declines d m (c.failed ++ ": " ++ c.refusal e)

namespace Session

/-- The operation has come to nothing, as its result says. The other operations have no result. -/
def Fails (L : Ledger σ) (s : Session σ) : Move → Prop
  | .execute r => (execute L r s).1 = none
  | .issue f => (issue L f s).1 = false
  | .createIdentity today f => (createIdentity L today f s).1 = false
  | .changeIdentity today f => (changeIdentity L today f s).1 = false
  | .addContact name peer => (addContact L name peer s).1 = false
  | .editContact oldName name peer => (editContact L oldName name peer s).1 = false
  | .removeContact name => (removeContact L name s).1 = false
  | .chain bill => (chain L bill s).1 = none
  | .operations => (operations L s).1 = none
  | _ => False

variable {L : Ledger σ} {s : Session σ} {m : Move}

theorem failed_of_change {c : Change} {order : Except FormError Order}
    (h : m.change? s.desk = some (c, order)) : m.failed = c.failed := by
  cases m <;> cases h <;> rfl

theorem call?_of_change {c : Change} {order : Except FormError Order}
    (h : m.change? s.desk = some (c, order)) :
    m.call? s.desk = order.toOption.map Call.tell := by
  cases m with
  | issue | createIdentity | changeIdentity | addContact | editContact | removeContact =>
    simp only [Move.call?, h]
    cases order <;> rfl
  | _ => cases h

/-- The kinds of changes differ in their words, their checks and what they make out of date. -/
theorem step_of_change {c : Change} {order : Except FormError Order}
    (h : m.change? s.desk = some (c, order)) :
    step L s m = (make L c order s).2 ∧ (Fails L s m ↔ (make L c order s).1 = false) := by
  cases m with
  | issue | createIdentity | changeIdentity =>
    cases h
    exact ⟨rfl, Iff.rfl⟩
  | addContact name peer =>
    cases h
    rw [step, Fails, addContact_apply]
    exact ⟨rfl, Iff.rfl⟩
  | editContact oldName name peer =>
    cases h
    rw [step, Fails, editContact_apply]
    exact ⟨rfl, Iff.rfl⟩
  | removeContact name =>
    cases h
    rw [step, Fails, removeContact_apply]
    exact ⟨rfl, Iff.rfl⟩
  | _ => cases h

/-! ## The two ways to fail -/

/-- Where a check fails, the user is told, and the ledger is not. -/
theorem step_of_declined {text : String} (h : s.desk.Declines m text) :
    Fails L s m ∧ step L s m = { s with desk := s.desk.notify .error text } := by
  cases h with
  | action h =>
    rw [Fails, step, execute_of_fault h]
    exact ⟨rfl, rfl⟩
  | form h =>
    obtain ⟨hstep, hfails⟩ := step_of_change (L := L) h
    rw [hfails, hstep, make_of_refused]
    exact ⟨rfl, rfl⟩

/-- The call of an action on the open bill is an order that was decided on. -/
theorem dispatch_of_call? {r : Bill.Request} {call : Call}
    (h : (Move.execute r).call? s.desk = some call) :
    ∃ o peer order, s.desk.openBill? = some o ∧ s.desk.peer? = some peer ∧
      r.dispatch o.snapshot peer = .ok (.send order) ∧ call = .tell order := by
  simp only [Move.call?] at h
  split at h
  · next o peer hopen hpeer =>
    split at h
    · next order hdispatch =>
      exact ⟨o, peer, order, hopen, hpeer, hdispatch, (Option.some.inj h).symm⟩
    · cases h
  · cases h

theorem failure?_ask_iff {q : Query} {t : σ} {e : LedgerError} :
    (L.exchange t (.ask q)).failure? = some e ↔ (L.answer q t).1 = .error e := by
  simp only [Ledger.exchange]
  cases (L.answer q t).1 <;> simp [Exchange.failure?]

theorem failure?_tell_iff {o : Order} {t : σ} {e : LedgerError} :
    (L.exchange t (.tell o)).failure? = some e ↔ (L.obey o t).1 = .error e := by
  simp only [Ledger.exchange]
  cases (L.obey o t).1 <;> simp [Exchange.failure?]

/-- A look comes to nothing only where the ledger gives no answer. -/
theorem exists_error_of_look {q : Query} {failure : String} (h : (look L q failure s).1 = none) :
    ∃ e, (L.answer q s.ledger).1 = .error e := by
  rcases hanswer : (L.answer q s.ledger).1 with e | a
  · exact ⟨e, rfl⟩
  · rw [look_of_answered hanswer] at h
    cases h

/-- Where the call fails, the user is told, and nothing follows it. -/
theorem step_of_call_failed {call : Call} {e : LedgerError} (hcall : m.call? s.desk = some call)
    (he : (L.exchange s.ledger call).failure? = some e) :
    Fails L s m ∧ step L s m = {
      desk := s.desk.notify .error (m.failed ++ ": " ++ (ServiceError.ledger e).message)
      watch := s.watch.tick
      ledger := L.after s.ledger call } := by
  rcases hchange : m.change? s.desk with _ | ⟨c, order⟩
  · cases m with
    | execute r =>
      obtain ⟨o, peer, order, hopen, hpeer, hdispatch, rfl⟩ := dispatch_of_call? hcall
      rw [Fails, step, execute_of_rejected hopen hpeer hdispatch (failure?_tell_iff.1 he)]
      exact ⟨rfl, rfl⟩
    | chain bill =>
      cases hcall
      rw [Fails, step, chain, look_of_failed (failure?_ask_iff.1 he)]
      exact ⟨rfl, rfl⟩
    | operations =>
      cases hcall
      rw [Fails, step, operations, look_of_failed (failure?_ask_iff.1 he)]
      exact ⟨rfl, rfl⟩
    | start | refresh | navigate | dismiss | openBill | closeBill => cases hcall
    | _ => cases hchange
  · obtain ⟨hstep, hfails⟩ := step_of_change (L := L) hchange
    rw [call?_of_change hchange, Option.map_eq_some_iff] at hcall
    obtain ⟨o, horder, rfl⟩ := hcall
    rcases order with _ | o'
    · cases horder
    cases horder
    rw [hfails, hstep, failed_of_change hchange, make_of_rejected (failure?_tell_iff.1 he)]
    exact ⟨rfl, rfl⟩

/-- There is no third way to fail. -/
theorem declined_or_call_failed (h : Fails L s m) :
    (∃ text, s.desk.Declines m text) ∨
      ∃ call e, m.call? s.desk = some call ∧
        (L.exchange s.ledger call).failure? = some e := by
  rcases hchange : m.change? s.desk with _ | ⟨c, order⟩
  · cases m with
    | execute r =>
      rcases s.desk.refuses_or_passes r with ⟨fault, hfault⟩ | ⟨b, hb, ⟨i, hi⟩ | ⟨hpay, hbuy⟩⟩
      · exact .inl ⟨_, .action hfault⟩
      · -- An instruction is a success.
        rw [Fails, (execute_of_instruction hb hi).1] at h
        cases h
      · obtain ⟨order, hsettle, _⟩ := Bill.Request.settle_of_sent hpay hbuy b
        obtain ⟨name, peer, hopen, hpeer, hdispatch⟩ := hb.dispatch
        rw [hsettle] at hdispatch
        have hcall : (Move.execute r).call? s.desk = some (.tell order) := by
          simp only [Move.call?, hopen, hpeer, hdispatch]
        rcases hobey : (L.obey order s.ledger).1 with e | _
        · exact .inr ⟨_, e, hcall, failure?_tell_iff.2 hobey⟩
        · rw [Fails, execute_of_taken hopen hpeer hdispatch hobey] at h
          cases h
    | chain bill =>
      obtain ⟨e, he⟩ := exists_error_of_look h
      exact .inr ⟨_, e, rfl, failure?_ask_iff.2 he⟩
    | operations =>
      obtain ⟨e, he⟩ := exists_error_of_look h
      exact .inr ⟨_, e, rfl, failure?_ask_iff.2 he⟩
    | start | refresh | navigate | dismiss | openBill | closeBill => cases h
    | _ => cases hchange
  · rcases order with e | o
    · exact .inl ⟨_, .form hchange⟩
    have hcall : m.call? s.desk = some (.tell o) := call?_of_change hchange
    rcases hobey : (L.obey o s.ledger).1 with e | _
    · exact .inr ⟨_, e, hcall, failure?_tell_iff.2 hobey⟩
    · rw [(step_of_change hchange).2, make_of_taken hobey] at h
      cases h

theorem fails_iff :
    Fails L s m ↔ (∃ text, s.desk.Declines m text) ∨
      ∃ call e, m.call? s.desk = some call ∧
        (L.exchange s.ledger call).failure? = some e := by
  constructor
  · exact declined_or_call_failed
  · rintro (⟨text, h⟩ | ⟨call, e, hcall, he⟩)
    · exact (step_of_declined h).1
    · exact (step_of_call_failed hcall he).1

end Session

/-! ## Requests over HTTP -/

/-- The transport with a record of what it carries, oldest first. -/
def Http.Transport.recorded {τ : Type} (T : Http.Transport τ) :
    Http.Transport (τ × List Http.Request) := fun request t =>
  ((T request t.1).1, (T request t.1).2, t.2 ++ [request])

namespace LedgerClient

variable {τ : Type} (c : LedgerClient) (T : Http.Transport τ)

/-- The request that a call is. -/
def request : Call → Except LedgerError Http.Request
  | .ask q => c.queryRequest q
  | .tell o => c.orderRequest o

/-- What is carried for a request: nothing, where it was not built or cannot be sent. -/
def carried : Except LedgerError Http.Request → List Http.Request
  | .ok request => if request.isSendable then [request] else []
  | .error _ => []

theorem send_snd (request : Except LedgerError Http.Request) (t : τ) :
    (send T request t).2 = (carried request).foldl (fun t r => (T r t).2) t := by
  rcases request with e | request
  · simp [send, carried]
  · by_cases hsendable : request.isSendable = true
    · simp only [send, carried, hsendable, if_true, List.foldl_cons, List.foldl_nil]
      rcases T request t with ⟨_ | response, t'⟩
      · rfl
      · simp only
        split <;> rfl
    · simp [send, carried, hsendable]

/-- A call is carried as one request or not at all. -/
theorem after_ledger (t : τ) (call : Call) :
    (c.ledger T).after t call = (carried (c.request call)).foldl (fun t r => (T r t).2) t := by
  cases call with
  | ask q =>
    rw [request, ← send_snd]
    simp only [Ledger.after, ledger]
    split <;> simp_all
  | tell o =>
    rw [request, ← send_snd]
    simp only [Ledger.after, ledger]
    split <;> simp_all

theorem requests_after (t : τ × List Http.Request) (call : Call) :
    ((c.ledger T.recorded).after t call).2 = t.2 ++ carried (c.request call) := by
  rw [after_ledger]
  rcases c.request call with e | request
  · exact (List.append_nil _).symm
  · by_cases hsendable : request.isSendable = true <;>
      simp [carried, hsendable, Http.Transport.recorded]

end LedgerClient

/-! ## The guarantee -/

namespace Session

/-- An operation that comes to nothing, for every ledger and every session. With a journal or
without it, the same is done. The desk is as it was, with one error notice more, which comes last.
Either a check failed and the ledger heard nothing, or it was called once, and the notice tells why
that call failed. Where a check fails, the operation comes to nothing and the ledger hears nothing.
Over HTTP the one call is one request, or none where the request cannot be built or sent. -/
theorem failure_is_one_notice :
    (∀ (σ : Type) (L : Ledger σ) (s : Session (σ × List Exchange)) (m : Move),
      (Fails L.journaled s m ↔ Fails L s.forget m) ∧
      (s.step L.journaled m).forget = s.forget.step L m ∧
      -- One notice, and one call at most: the one that the notice is about.
      (Fails L.journaled s m → ∃ text sent,
        (s.step L.journaled m).desk = s.desk.notify .error text ∧
        (s.step L.journaled m).ledger.2 = s.ledger.2 ++ sent ∧
        (s.desk.Declines m text ∧ sent = [] ∨
          ∃ x e, sent = [x] ∧ m.call? s.desk = some x.call ∧ x.failure? = some e ∧
            text = m.failed ++ ": " ++ (ServiceError.ledger e).message)) ∧
      -- A check that fails.
      ∀ text, s.desk.Declines m text → Fails L.journaled s m ∧
        s.step L.journaled m = { s with desk := s.desk.notify .error text }) ∧
    -- Over HTTP.
    ∀ (c : LedgerClient) (τ : Type) (T : Http.Transport τ) (s : Session (τ × List Http.Request))
      (m : Move), Fails (c.ledger T.recorded) s m → ∃ sent,
        (s.step (c.ledger T.recorded) m).ledger.2 = s.ledger.2 ++ sent ∧
        (sent = [] ∨ ∃ call request, m.call? s.desk = some call ∧
          c.request call = .ok request ∧ sent = [request]) := by
  refine ⟨?_, ?_⟩
  · intro σ L s m
    refine ⟨?_, Shadows.step L s m, ?_, ?_⟩
    · simp only [fails_iff, Ledger.exchange_journaled]
      rfl
    · intro h
      rcases declined_or_call_failed h with ⟨text, hdeclines⟩ | ⟨call, e, hcall, he⟩
      · rw [(step_of_declined hdeclines).2]
        exact ⟨text, [], rfl, (List.append_nil _).symm, .inl ⟨hdeclines, rfl⟩⟩
      · rw [(step_of_call_failed hcall he).2, Ledger.after_journaled]
        rw [Ledger.exchange_journaled] at he
        refine ⟨_, _, rfl, rfl, .inr ⟨_, e, rfl, ?_, he, rfl⟩⟩
        rw [Ledger.call_exchange, hcall]
    · intro text hdeclines
      exact step_of_declined hdeclines
  · intro c τ T s m h
    rcases declined_or_call_failed h with ⟨text, hdeclines⟩ | ⟨call, e, hcall, he⟩
    · rw [(step_of_declined hdeclines).2]
      exact ⟨[], (List.append_nil _).symm, .inl rfl⟩
    · rw [(step_of_call_failed hcall he).2]
      refine ⟨_, c.requests_after T s.ledger call, ?_⟩
      rcases hrequest : c.request call with e' | request
      · exact .inl rfl
      · simp only [LedgerClient.carried]
        split
        · exact .inr ⟨call, request, hcall, hrequest, rfl⟩
        · exact .inl rfl

end Session

/-- A ledger that nobody reaches. -/
def Ledger.silent : Ledger Unit where
  answer _ t := (.error .noAnswer, t)
  obey _ t := (.error .noAnswer, t)

/-- A chain that nobody answers for, and a contact that is not in the book. -/
theorem Session.failure_is_one_notice_silent :
    let s : Session (Unit × List Exchange) := { ledger := ((), []) }
    let looked := s.step Ledger.silent.journaled (.chain "bill-1")
    let removed := s.step Ledger.silent.journaled (.removeContact "Minka")
    (∃ text x, looked.desk = s.desk.notify .error text ∧ looked.ledger.2 = [x] ∧
      x.call = .ask (.chain "bill-1")) ∧
    removed.desk.board.entries =
      [(.error,
        "Could not save contact: Validation Error: no contact with the name Minka exists")] ∧
    removed.ledger.2 = [] := by
  intro s looked removed
  refine ⟨?_, ?_⟩
  · obtain ⟨text, sent, hdesk, hjournal, ⟨hdeclines, _⟩ | ⟨x, e, rfl, hcall, _⟩⟩ :=
      (failure_is_one_notice.1 Unit .silent s (.chain "bill-1")).2.2.1 rfl
    · -- No check is made before a look.
      cases hdeclines with
      | form h => cases h
    · exact ⟨text, x, hdesk, hjournal, (Option.some.inj hcall).symm⟩
  · have hunknown : (Move.removeContact "Minka").change? s.desk =
        some (savingContacts, .error (.contactUnknown "Minka")) := rfl
    obtain ⟨_, hremoved⟩ :=
      (failure_is_one_notice.1 Unit .silent s (.removeContact "Minka")).2.2.2 _ (.form hunknown)
    have hleft : removed = _ := hremoved
    rw [hleft]
    exact ⟨by decide, rfl⟩

end BillDesk
