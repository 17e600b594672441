import BillDesk.Proofs.Session.Success

/-!
# Failures that the user is told

Every call of the ledger may fail, and a failure becomes an error notice, so the user sees it on
whatever page comes next. There is one exception. A bill that could not be fetched is shown as
unavailable in its own view, and no notice is put up. After an action the view of the bill is left
at once, so there a failure to fetch it again shows nowhere.

Results:
1. `countP_complaints`: of the answers that arrive, each failure but that of a bill is an error
   notice.
2. `unavailable_of_failed`: a bill that could not be fetched is shown as unavailable.
3. `declines_or_exists_accounts`: an operation accounts for its calls in this way, unless a check
   fails before any of them.
4. `failures_are_told_but_of_bills`: what is told of the calls of an operation, for every ledger.
5. `not_tellsEveryFailure_silent`: a bill that nobody answers for is opened without a notice.
-/

namespace BillDesk

variable {σ : Type}

/-! ## Failed calls and error notices -/

namespace Exchange

def hasFailed (x : Exchange) : Bool := x.failure?.isSome

/-- The call asks for a bill, to show it. -/
def isBillQuery : Exchange → Bool
  | asked (.bill _) _ => true
  | _ => false

/-- The call has failed, and there is a notice for it. -/
def isTold (x : Exchange) : Bool := x.hasFailed && !x.isBillQuery

/-- The failures are those that there is a notice for, and those of bills. -/
theorem countP_hasFailed (sent : List Exchange) :
    sent.countP hasFailed =
      sent.countP isTold + sent.countP fun x => x.hasFailed && x.isBillQuery := by
  rw [List.countP_eq_countP_filter_add sent hasFailed fun x => !x.isBillQuery, List.countP_filter,
    List.countP_filter]
  simp only [Bool.not_not]
  rfl

theorem isBillQuery_and_failed_iff {x : Exchange} :
    (x.hasFailed && x.isBillQuery) = true ↔ ∃ name e, x = .asked (.bill name) (.error e) := by
  constructor
  · intro h
    cases x with
    | told order answer => simp [isBillQuery] at h
    | asked q answer =>
      cases q with
      | bill name =>
        cases answer with
        | error e => exact ⟨name, e, rfl⟩
        | ok b => simp [hasFailed, failure?] at h
      | _ => simp [isBillQuery] at h
  · rintro ⟨name, e, rfl⟩
    rfl

theorem countP_hasFailed_le_iff {sent : List Exchange} :
    sent.countP hasFailed ≤ sent.countP isTold ↔
      ∀ name e, .asked (.bill name) (.error e) ∉ sent := by
  have hzero : sent.countP hasFailed ≤ sent.countP isTold ↔
      (sent.countP fun x => x.hasFailed && x.isBillQuery) = 0 := by
    rw [countP_hasFailed]
    omega
  rw [hzero, List.countP_eq_zero]
  constructor
  · intro hnone name e hsent
    exact hnone _ hsent (isBillQuery_and_failed_iff.2 ⟨name, e, rfl⟩)
  · intro hnone x hsent hfailed
    obtain ⟨name, e, rfl⟩ := isBillQuery_and_failed_iff.1 hfailed
    exact hnone name e hsent

end Exchange

/-- What the user is told is an error. -/
def isError (n : NoticeKind × String) : Bool := n.1 == .error

/-- Of an answer, the failure is told, unless it is that of a bill. -/
theorem countP_complaint (a : Arrival) :
    a.complaint?.toList.countP isError = if a.exchange.isTold then 1 else 0 := by
  rcases a with ⟨r, answer⟩
  cases r <;> cases answer <;> rfl

theorem countP_complaints (as : List Arrival) :
    (as.filterMap Arrival.complaint?).countP isError =
      (as.map Arrival.exchange).countP Exchange.isTold := by
  induction as with
  | nil => rfl
  | cons a as ih =>
    have hcomplaints : (a :: as).filterMap Arrival.complaint? =
        a.complaint?.toList ++ as.filterMap Arrival.complaint? := by
      rw [List.filterMap_cons]
      cases a.complaint? <;> rfl
    rw [hcomplaints, List.countP_append, ih, countP_complaint, List.map_cons, List.countP_cons,
      Nat.add_comm]

/-- That the ledger lags behind is no error. -/
theorem countP_unconfirmed (a : Bill.Action) (name : String) (answer : Except LedgerError Bill) :
    (a.unconfirmed? name answer).toList.countP isError = 0 := by
  unfold Bill.Action.unconfirmed?
  split
  · split <;> rfl
  · rfl

/-! ## A bill that could not be fetched -/

/-- Among the calls that fetching makes, one for a bill is about the resource of its name. -/
theorem Outcomes.mem_of_asked {f : Outcomes} {rs : List Resource} {name : String}
    {answer : Except LedgerError Bill}
    (h : .asked (.bill name) answer ∈ (f.arrivals rs).map Arrival.exchange) :
    .openBill name ∈ rs ∧ f (.openBill name) = answer := by
  obtain ⟨a, ha, hx⟩ := List.mem_map.1 h
  obtain ⟨r, hr, rfl⟩ := List.mem_map.1 ha
  cases r with
  | openBill name' =>
    obtain ⟨hname, hanswer⟩ := Exchange.asked.inj hx
    cases hname
    exact ⟨hr, eq_of_heq hanswer⟩
  | identity | peerId | contacts | bills => cases hx

namespace Desk

/-- A bill that could not be fetched is shown as unavailable, where it is open. -/
theorem unavailable_of_failed (d : Desk) {f : Outcomes} {rs : List Resource} (hrs : rs.Nodup)
    {name : String} {e : LedgerError} {snap : Bill.Snapshot}
    (h : .asked (.bill name) (.error e) ∈ (f.arrivals rs).map Arrival.exchange)
    (hopen : (d.recordAll (f.arrivals rs)).openBill? = some ⟨name, snap⟩) :
    snap = .unavailable e.message := by
  obtain ⟨hmem, hanswer⟩ := Outcomes.mem_of_asked h
  have hwritten : Edit.snapshot? name (Arrival.mk (.openBill name) (f (.openBill name))).edit =
      some (.unavailable e.message) := by
    rw [hanswer]
    exact if_pos rfl
  have hlast := lastWritten_of_mem (fetchedBy_snapshot? name) (f.nodup_arrivals hrs)
    (Outcomes.mem_arrivals hmem) hwritten
  rw [recordAll_eq_editAll, openBill?_editAll_of_not_turns d (by simp [turns_edit])] at hopen
  obtain ⟨o, _, ho⟩ := Option.map_eq_some_iff.1 hopen
  obtain ⟨rfl, rfl⟩ := OpenBill.mk.inj ho
  rw [hlast]
  rfl

end Desk

/-! ## What is told of the calls of an operation -/

namespace Session

/-- From `s` to `done` these calls are made and this is told. Each failure is one error notice, and
there is no other, except that a bill that could not be fetched is shown as unavailable. -/
structure Accounts (s done : Session (σ × List Exchange)) (sent : List Exchange)
    (told : List (NoticeKind × String)) : Prop where
  journal : done.ledger.2 = s.ledger.2 ++ sent
  tells : s.desk.Tells done.desk told
  each_told : told.countP isError = sent.countP Exchange.isTold
  shown : ∀ name e snap, .asked (.bill name) (.error e) ∈ sent →
    done.desk.openBill? = some ⟨name, snap⟩ → snap = .unavailable e.message

section Accounts

variable {L : Ledger σ} {s done : Session (σ × List Exchange)} {sent : List Exchange}
  {told : List (NoticeKind × String)}

theorem accounts_of_no_call (hledger : done.ledger = s.ledger)
    (hboard : done.desk.board = s.desk.board) : s.Accounts done [] [] where
  journal := by rw [hledger, List.append_nil]
  tells := Desk.tells_nothing hboard
  each_told := rfl
  shown := by simp

/-- Where to look and which bill is open does not matter. -/
theorem Accounts.of_board_eq (h : s.Accounts done sent told) {d : Desk}
    (hd : d.board = s.desk.board) : Accounts { s with desk := d } done sent told where
  journal := h.journal
  tells := by
    obtain ⟨new, hnew, htold⟩ := h.tells
    exact ⟨new, by rw [hnew, hd], htold⟩
  each_told := h.each_told
  shown := h.shown

theorem Accounts.navigate (h : s.Accounts done sent told) (p : Page) :
    s.Accounts { done with desk := done.desk.navigate p } sent told where
  journal := h.journal
  tells := h.tells
  each_told := h.each_told
  shown := h.shown

theorem exists_accounts_refresh (hlive : s.IsLive) (o : Occasion) :
    ∃ sent told, s.Accounts (refresh L.journaled o s).2 sent told := by
  obtain ⟨f, hdesk, hjournal⟩ := exists_outcomes_refresh (L := L) hlive o
  refine ⟨_, _, hjournal, ?_, countP_complaints (f.arrivals o.resources), ?_⟩
  · rw [hdesk]
    exact Desk.tells_recordAll _ _
  · intro name e snap hsent hopen
    rw [hdesk] at hopen
    exact Desk.unavailable_of_failed _ o.nodup_resources hsent hopen

theorem exists_accounts_look (q : Query) (hq : ∀ name, q ≠ .bill name) (failure : String) :
    ∃ sent told, s.Accounts (look L.journaled q failure s).2 sent told := by
  have hquiet : ∀ answer, (Exchange.asked q answer).isBillQuery = false := by
    intro answer
    cases q with
    | bill name => exact absurd rfl (hq name)
    | _ => rfl
  have hshown : ∀ answer name e snap, Exchange.asked (.bill name) (.error e) ∈
      [Exchange.asked q answer] →
      (look L.journaled q failure s).2.desk.openBill? = some ⟨name, snap⟩ →
      snap = .unavailable e.message := by
    intro answer name e snap hsent
    cases List.mem_singleton.1 hsent
    exact absurd rfl (hq name)
  rcases hanswer : (L.journaled.answer q s.ledger).1 with e | a
  · have hfailed : look L.journaled q failure s = _ := look_of_failed hanswer
    refine ⟨[.asked q (.error e)],
      [(.error, failure ++ ": " ++ (ServiceError.ledger e).message)], ?_, ?_, ?_, hshown _⟩
    · rw [hfailed, ← hanswer]
      rfl
    · rw [hfailed]
      exact Desk.tells_notify _ _ _
    · simp [isError, Exchange.isTold, Exchange.hasFailed, Exchange.failure?, hquiet]
  · have hanswered : look L.journaled q failure s = _ := look_of_answered hanswer
    refine ⟨[.asked q (.ok a)], [], ?_, ?_, ?_, hshown _⟩
    · rw [hanswered, ← hanswer]
      rfl
    · rw [hanswered]
      exact Desk.tells_nothing rfl
    · simp [Exchange.isTold, Exchange.hasFailed, Exchange.failure?]

/-- A call that is an order, and that the ledger refuses. -/
theorem accounts_of_refused {order : Order} {e : LedgerError} {text : String}
    (hjournal : done.ledger.2 = s.ledger.2 ++ [.told order (.error e)])
    (hdesk : done.desk = s.desk.notify .error text) :
    s.Accounts done [.told order (.error e)] [(.error, text)] where
  journal := hjournal
  tells := hdesk ▸ s.desk.tells_notify _ _
  each_told := rfl
  shown := by simp

/-- A change that the ledger took. -/
theorem accounts_of_changed {c : Change} {order : Order} {f : Outcomes}
    (hdesk : done.desk = s.desk.afterChange c f)
    (hjournal : done.ledger.2 = s.ledger.2 ++ .told order (.ok ()) ::
      (f.arrivals c.occasion.resources).map Arrival.exchange) :
    ∃ sent told, s.Accounts done sent told := by
  refine ⟨_, _, hjournal, hdesk ▸ s.desk.tells_afterChange c f, ?_, ?_⟩
  · rw [List.countP_cons_of_neg (by simp [isError]),
      List.countP_cons_of_neg (by simp [Exchange.isTold, Exchange.hasFailed, Exchange.failure?]),
      countP_complaints]
  · intro name e snap hsent hopen
    rw [hdesk] at hopen
    rcases List.mem_cons.1 hsent with hsent | hsent
    · cases hsent
    · exact Desk.unavailable_of_failed _ c.occasion.nodup_resources hsent hopen

/-- An action that the ledger took. -/
theorem accounts_of_submitted {name : String} {b : Bill} {a : Bill.Action} {order : Order}
    {f : Outcomes} (hopen : s.desk.openBill? = some ⟨name, .loaded b⟩)
    (hdesk : done.desk =
      s.desk.afterAction name a f (Occasion.billActionSucceeded name).resources)
    (hjournal : done.ledger.2 = s.ledger.2 ++ .told order (.ok ()) ::
      (f.arrivals (Occasion.billActionSucceeded name).resources).map Arrival.exchange) :
    ∃ sent told, s.Accounts done sent told := by
  have htells := Desk.tells_afterAction hopen a f (List.Perm.refl _)
  refine ⟨_, _, hjournal, hdesk ▸ htells, ?_, ?_⟩
  · rw [List.countP_cons_of_neg (by simp [isError]), List.countP_append, countP_unconfirmed,
      List.countP_cons_of_neg (by simp [Exchange.isTold, Exchange.hasFailed, Exchange.failure?]),
      countP_complaints]
    rfl
  · intro name' e snap hsent hopen'
    rw [hdesk, Desk.afterAction, openBill?_navigate, openBill?_checkedFor] at hopen'
    rcases List.mem_cons.1 hsent with hsent | hsent
    · cases hsent
    · exact Desk.unavailable_of_failed _ (Occasion.nodup_resources _) hsent hopen'

/-- A change that passes the checks is refused by the ledger or taken. -/
theorem exists_accounts_make (hlive : s.IsLive) (c : Change) (order : Order) :
    ∃ sent told, s.Accounts (make L.journaled c (.ok order) s).2 sent told := by
  rcases hobey : (L.obey order s.ledger.1).1 with e | _
  · have hanswer : (L.journaled.obey order s.ledger).1 = .error e := hobey
    rw [make_of_rejected hanswer]
    refine ⟨[.told order (.error e)], _, accounts_of_refused ?_ rfl⟩
    rw [obey_journaled, hobey]
  · obtain ⟨f, hdesk, hjournal⟩ := make_of_obeyed hlive c hobey
    exact accounts_of_changed hdesk hjournal

theorem declines_or_exists_accounts_execute (hlive : s.IsLive) (r : Bill.Request) :
    (∃ text, s.desk.Declines (.execute r) text) ∨
      ∃ sent told, s.Accounts (execute L.journaled r s).2 sent told := by
  rcases hresult : (execute L.journaled r s).1 with _ | ⟨a⟩ | ⟨a, i⟩
  · rcases declined_or_call_failed (m := .execute r) hresult with hdeclines | ⟨call, e, hcall, he⟩
    · exact .inl hdeclines
    obtain ⟨o, peer, order, hopen, hpeer, hdispatch, rfl⟩ := dispatch_of_call? hcall
    have hobey := failure?_tell_iff.1 he
    have hrejected : (L.obey order s.ledger.1).1 = .error e := hobey
    rw [execute_of_rejected hopen hpeer hdispatch hobey]
    refine .inr ⟨[.told order (.error e)], _, accounts_of_refused ?_ rfl⟩
    rw [obey_journaled, hrejected]
  · obtain ⟨name, b, order, f, hopen, hdesk, hjournal⟩ := execute_of_submitted hlive hresult
    exact .inr (accounts_of_submitted hopen hdesk hjournal)
  · rcases execute_cases L.journaled r s with hnone | ⟨i', hpay⟩ | ⟨name, b, order, _, _, htaken⟩
    · rw [hnone] at hresult
      cases hresult
    · rw [hpay, requirePayment_apply]
      exact .inr ⟨[], _, (List.append_nil _).symm, s.desk.tells_notify _ _, rfl, by simp⟩
    · rw [htaken] at hresult
      cases hresult

end Accounts

end Session

/-- The desk that an operation adds its notices to. Only dismissing takes one off. -/
def Move.cleared (d : Desk) : Move → Desk
  | dismiss id => (d.dismiss id).2
  | _ => d

theorem Move.cleared_of_change {m : Move} {d : Desk} {c : Session.Change}
    {checked : Except FormError Order} (h : m.change? d = some (c, checked)) :
    m.cleared d = d := by
  cases m <;> first | rfl | cases h

namespace Session

variable {L : Ledger σ} {s : Session (σ × List Exchange)}

/-- An operation accounts for its calls, unless a check fails before the first of them. -/
theorem declines_or_exists_accounts (hlive : s.IsLive) (m : Move) :
    (∃ text, s.desk.Declines m text) ∨ ∃ sent told,
      Accounts { s with desk := m.cleared s.desk } (s.step L.journaled m) sent told := by
  rcases hchange : m.change? s.desk with _ | ⟨c, checked⟩
  · cases m with
    | start =>
      obtain ⟨sent, told, h⟩ := exists_accounts_refresh (L := L) hlive .startup
      rw [step, start_apply]
      exact .inr ⟨sent, told, h.navigate _⟩
    | refresh o => exact .inr (exists_accounts_refresh hlive o)
    | navigate p => exact .inr ⟨[], [], accounts_of_no_call rfl rfl⟩
    | dismiss id => exact .inr ⟨[], [], accounts_of_no_call rfl rfl⟩
    | openBill name =>
      let turned : Session (σ × List Exchange) :=
        { s with desk := (s.desk.openBill name).navigate (.bill name) }
      have hturned : turned.IsLive := hlive
      obtain ⟨sent, told, h⟩ := exists_accounts_refresh (L := L) hturned (.billOpened name)
      rw [step, openBill_apply]
      exact .inr ⟨sent, told, h.of_board_eq rfl⟩
    | closeBill => exact .inr ⟨[], [], accounts_of_no_call rfl rfl⟩
    | chain bill => exact .inr (exists_accounts_look (.chain bill) (by simp) _)
    | operations => exact .inr (exists_accounts_look .operations (by simp) _)
    | execute r => exact declines_or_exists_accounts_execute hlive r
    | _ => cases hchange
  · rcases checked with e | order
    · exact .inl ⟨_, .form hchange⟩
    · rw [Move.cleared_of_change hchange, (step_of_change hchange).1]
      exact .inr (exists_accounts_make hlive c order)

/-- Any operation in a view that stays open, for every ledger. Each call that fails is told in one
error notice, and nothing else is, but for the words of a check that fails before any call. A bill
that could not be fetched is the exception: it has no notice, and is shown as unavailable if it is
open afterwards. So the failures are all told exactly if none of them is that of a bill. -/
theorem failures_are_told_but_of_bills (L : Ledger σ) {s : Session (σ × List Exchange)}
    (hlive : s.IsLive) (m : Move) :
    let done := s.step L.journaled m
    done.forget = s.forget.step L m ∧
      ∃ sent told, done.ledger.2 = s.ledger.2 ++ sent ∧ (m.cleared s.desk).Tells done.desk told ∧
        (told.countP isError = sent.countP Exchange.isTold ∨
          ∃ text, s.desk.Declines m text ∧ sent = [] ∧ told = [(.error, text)]) ∧
        (sent.countP Exchange.hasFailed ≤ told.countP isError ↔
          ∀ name e, .asked (.bill name) (.error e) ∉ sent) ∧
        ∀ name e snap, .asked (.bill name) (.error e) ∈ sent →
          done.desk.openBill? = some ⟨name, snap⟩ → snap = .unavailable e.message := by
  intro done
  refine ⟨Shadows.step L s m, ?_⟩
  rcases declines_or_exists_accounts (L := L) hlive m with ⟨text, hdeclines⟩ | ⟨sent, told, h⟩
  · have hcleared : m.cleared s.desk = s.desk := by
      cases hdeclines with
      | action => rfl
      | form h => exact Move.cleared_of_change h
    have hdone : done = { s with desk := s.desk.notify .error text } :=
      (step_of_declined hdeclines).2
    rw [hdone, hcleared]
    exact ⟨[], [(.error, text)], (List.append_nil _).symm, s.desk.tells_notify _ _,
      .inr ⟨text, hdeclines, rfl, rfl⟩, by simp, by simp⟩
  · refine ⟨sent, told, h.journal, h.tells, .inl h.each_told, ?_, h.shown⟩
    rw [h.each_told]
    exact Exchange.countP_hasFailed_le_iff

/-- A start with a ledger that nobody reaches: four calls fail, and four notices tell so. -/
theorem failures_are_told_but_of_bills_silent :
    let s : Session (Unit × List Exchange) := { ledger := ((), []) }
    let done := s.step Ledger.silent.journaled .start
    s.IsLive ∧ ∃ told, s.desk.Tells done.desk told ∧ told.countP isError = 4 := by
  intro s done
  have hlive : s.IsLive := rfl
  obtain ⟨_, sent, told, hjournal, htells, hcount, _⟩ :=
    failures_are_told_but_of_bills Ledger.silent hlive .start
  have hsent : sent = [.asked .identity (.error .noAnswer), .asked .peerId (.error .noAnswer),
      .asked .contacts (.error .noAnswer), .asked .bills (.error .noAnswer)] := hjournal.symm
  refine ⟨hlive, told, htells, ?_⟩
  rcases hcount with hcount | ⟨_, _, hnone, _⟩
  · rw [hcount, hsent]
    rfl
  · rw [hsent] at hnone
    cases hnone

/-! ## Not every failure is told -/

/-- Of every operation, no fewer errors are told than calls have failed. -/
def TellsEveryFailure (L : Ledger σ) : Prop :=
  ∀ (s : Session (σ × List Exchange)) (m : Move) (sent : List Exchange)
    (told : List (NoticeKind × String)), s.IsLive →
    (s.step L.journaled m).ledger.2 = s.ledger.2 ++ sent →
    (m.cleared s.desk).Tells (s.step L.journaled m).desk told →
    sent.countP Exchange.hasFailed ≤ told.countP isError

/-- A bill that nobody answers for is opened without a notice. -/
theorem not_tellsEveryFailure_silent : ¬TellsEveryFailure Ledger.silent := by
  intro h
  have hle := h { ledger := ((), []) } (.openBill "bill-1")
    [.asked (.bill "bill-1") (.error .noAnswer)] [] rfl rfl (Desk.tells_nothing rfl)
  exact absurd hle (by decide)

end Session

end BillDesk
