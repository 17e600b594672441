import BillDesk.Proofs.Desk.Told
import BillDesk.Proofs.Office.Refresh
import BillDesk.Proofs.Session.Failure

/-!
# Operations that succeed

An operation that the ledger took changes the parts of the desk that it made out of date, the page
and the board, and nothing else. Each of these parts is what the ledger answered when it was fetched
again, or what it was before where that failed. The bills are kept in the order in which they are
listed, newest first, whatever the order of the answer.

Results:
1. `make_of_obeyed` and `execute_cases`: what a change and an action come to when the ledger takes
   them.
2. `record_identity`, `record_contacts`, `record_bills`: what an answer writes, and what it leaves.
3. `exists_board_afterAction`: after an action, in whatever order the answers arrive.
4. `not_billsAsAnswered_oldestFirst`: the bills are not kept in the order of the answer.
5. `success_changes_what_is_declared`: the frame of every operation that succeeds.
-/

namespace BillDesk

variable {σ : Type}

/-- The bills of an answer as they are listed. -/
def Bill.listed? (answer : Except LedgerError (List Bill)) : Option (List Bill) :=
  answer.toOption.map Portfolio.newestFirst

/-! ## What answers write -/

namespace Desk

theorem record_identity (d : Desk) (answer : Except LedgerError Identity) :
    ∃ board, Resource.identity.record d answer =
      { d with identity? := answer.toOption.or d.identity?, board } := by
  cases answer with
  | ok i => exact ⟨d.board, rfl⟩
  | error e => exact ⟨_, rfl⟩

theorem record_contacts (d : Desk) (answer : Except LedgerError (List Contact)) :
    ∃ board, Resource.contacts.record d answer =
      { d with contacts := answer.toOption.getD d.contacts, board } := by
  cases answer with
  | ok cs => exact ⟨d.board, rfl⟩
  | error e => exact ⟨_, rfl⟩

/-- The balance follows the bills, and stays what it was where they were not answered. -/
theorem record_bills (d : Desk) (answer : Except LedgerError (List Bill)) :
    ∃ board, Resource.bills.record d answer =
      { d with
        bills := (Bill.listed? answer).getD d.bills
        balance := (Bill.listed? answer).elim d.balance fun bs => { d with bills := bs }.dueBalance
        board } := by
  cases answer with
  | ok bs =>
    refine ⟨d.board, ?_⟩
    show { d with bills := Portfolio.newestFirst bs }.rebalance = _
    simp only [rebalance, dueBalance, Bill.listed?, Except.toOption]
    cases d.peer? <;> rfl
  | error e => exact ⟨_, rfl⟩

/-- Desks that agree differ in their boards at most. -/
theorem Agrees.exists_board {d e : Desk} (h : d.Agrees e) : ∃ board, d = { e with board } := by
  obtain ⟨hidentity, hpeer, hcontacts, hbills, hbalance, hopen, hpage, _⟩ := h
  refine ⟨d.board, ?_⟩
  rw [← hidentity, ← hpeer, ← hcontacts, ← hbills, ← hbalance, ← hopen, ← hpage]

/-- The desk with what an action on the bill of that name makes out of date: the identity, the bills
with their balance, and the snapshot of the open bill. -/
def renewed (d : Desk) (name : String) (f : Outcomes) : Desk :=
  { d with
    identity? := (f .identity).toOption.or d.identity?
    bills := (Bill.listed? (f .bills)).getD d.bills
    balance := (Bill.listed? (f .bills)).elim d.balance fun bs => { d with bills := bs }.dueBalance
    openBill? := some ⟨name, .ofAnswer (f (.openBill name))⟩ }

/-- The desk after an action on the bill that is open under the name, once the ledger has taken it
and what it made out of date has arrived in some order. -/
def afterAction (d : Desk) (name : String) (a : Bill.Action) (f : Outcomes)
    (order : List Resource) : Desk :=
  let told := d.notify .success (a.label ++ " was submitted for bill " ++ name ++ ".")
  ((told.recordAll (f.arrivals order)).checkedFor name a).navigate .home

section Action

variable {d : Desk} {name : String} {snap : Bill.Snapshot} {order : List Resource}

/-- In whatever order the answers arrive, each renews its part, and the rest is as it was. -/
theorem exists_board_fetched (hopen : d.openBill? = some ⟨name, snap⟩) (f : Outcomes)
    (horder : order.Perm (Occasion.billActionSucceeded name).resources) :
    ∃ board, d.recordAll (f.arrivals order) = { d.renewed name f with board } := by
  have hagrees : (d.recordAll (f.arrivals order)).Agrees
      (d.recordAll (f.arrivals (Occasion.billActionSucceeded name).resources)) :=
    agrees_recordAll d (f.nodup_arrivals (Occasion.nodup_resources _)) (horder.map _)
  -- In the order in which they are asked for, one after the other.
  have harrived : d.recordAll (f.arrivals (Occasion.billActionSucceeded name).resources) =
      (Resource.openBill name).record
        (Resource.bills.record (Resource.identity.record d (f .identity)) (f .bills))
        (f (.openBill name)) := rfl
  obtain ⟨_, hidentity⟩ := d.record_identity (f .identity)
  obtain ⟨_, hbills⟩ := (Resource.identity.record d (f .identity)).record_bills (f .bills)
  obtain ⟨board, hboard⟩ := hagrees.exists_board
  refine ⟨board, ?_⟩
  rw [hboard, harrived, hbills, hidentity, Resource.record, setSnapshot_snd]
  simp only [hopen, Option.map_some, if_true]
  rfl

theorem exists_board_afterAction (hopen : d.openBill? = some ⟨name, snap⟩) (a : Bill.Action)
    (f : Outcomes) (horder : order.Perm (Occasion.billActionSucceeded name).resources) :
    ∃ board, d.afterAction name a f order =
      { d.renewed name f with page := .home, board } := by
  let told := d.notify .success (a.label ++ " was submitted for bill " ++ name ++ ".")
  have htold : told.openBill? = some ⟨name, snap⟩ := hopen
  obtain ⟨_, hfetched⟩ := exists_board_fetched htold f horder
  refine ⟨((told.recordAll (f.arrivals order)).checkedFor name a).board, ?_⟩
  rw [afterAction, checkedFor_eq, hfetched]
  rfl

/-- The success is told first, then what could not be fetched, and last that the ledger lags. -/
theorem tells_afterAction (hopen : d.openBill? = some ⟨name, snap⟩) (a : Bill.Action)
    (f : Outcomes) (horder : order.Perm (Occasion.billActionSucceeded name).resources) :
    d.Tells (d.afterAction name a f order)
      ((.success, a.label ++ " was submitted for bill " ++ name ++ ".") ::
        ((f.arrivals order).filterMap Arrival.complaint? ++
          (a.unconfirmed? name (f (.openBill name))).toList)) := by
  let told := d.notify .success (a.label ++ " was submitted for bill " ++ name ++ ".")
  have htold : told.openBill? = some ⟨name, snap⟩ := hopen
  obtain ⟨_, hfetched⟩ := exists_board_fetched htold f horder
  have hshown : (told.recordAll (f.arrivals order)).openBill? =
      some ⟨name, .ofAnswer (f (.openBill name))⟩ := by
    rw [hfetched]
    rfl
  have hchecked := (tells_recordAll told (f.arrivals order)).trans (tells_checkedFor hshown a)
  exact (tells_notify d _ _).trans hchecked

end Action

end Desk

/-- What each kind of change leaves on the desk when the ledger has taken it: the part that it made
out of date is renewed, the page is the next one, and the rest is as it was. -/
inductive Desk.Renews (d : Desk) (f : Outcomes) : Session.Change → Desk → Prop
  | contacts (board : NoticeBoard) : Renews d f Session.savingContacts
      { d with contacts := (f .contacts).toOption.getD d.contacts, page := .contacts, board }
  | identity (board : NoticeBoard) : Renews d f Session.savingIdentity
      { d with identity? := (f .identity).toOption.or d.identity?, page := .home, board }
  | bills (board : NoticeBoard) : Renews d f Session.issuing
      { d with
        bills := (Bill.listed? (f .bills)).getD d.bills
        balance := (Bill.listed? (f .bills)).elim d.balance fun bs =>
          { d with bills := bs }.dueBalance
        page := .bills
        board }

theorem Move.change?_cases {m : Move} {d : Desk} {c : Session.Change}
    {checked : Except FormError Order} (h : m.change? d = some (c, checked)) :
    c = Session.savingContacts ∨ c = Session.savingIdentity ∨ c = Session.issuing := by
  cases m <;> cases h <;> simp

namespace Desk

/-- The desk after a change, once the ledger has taken it and what it made out of date has
arrived. -/
def afterChange (d : Desk) (c : Session.Change) (f : Outcomes) : Desk :=
  ((d.notify .success c.saved).recordAll (f.arrivals c.occasion.resources)).navigate c.page

theorem renews_afterChange (d : Desk) {c : Session.Change} (f : Outcomes)
    (hc : c = Session.savingContacts ∨ c = Session.savingIdentity ∨ c = Session.issuing) :
    d.Renews f c (d.afterChange c f) := by
  rw [afterChange]
  let told := d.notify .success c.saved
  rcases hc with rfl | rfl | rfl
  · obtain ⟨board, hrecorded⟩ := told.record_contacts (f .contacts)
    have harrived : told.recordAll (f.arrivals [.contacts]) = _ := hrecorded
    exact harrived ▸ .contacts board
  · obtain ⟨board, hrecorded⟩ := told.record_identity (f .identity)
    have harrived : told.recordAll (f.arrivals [.identity]) = _ := hrecorded
    exact harrived ▸ .identity board
  · obtain ⟨board, hrecorded⟩ := told.record_bills (f .bills)
    have harrived : told.recordAll (f.arrivals [.bills]) = _ := hrecorded
    exact harrived ▸ .bills board

theorem tells_afterChange (d : Desk) (c : Session.Change) (f : Outcomes) :
    d.Tells (d.afterChange c f)
      ((.success, c.saved) :: (f.arrivals c.occasion.resources).filterMap Arrival.complaint?) :=
  (tells_notify d _ _).trans (tells_recordAll _ _)

end Desk

/-! ## Operations that the ledger takes -/

namespace Session

variable {L : Ledger σ} {s : Session (σ × List Exchange)}

/-- What is fetched for a view that stays open is written, and the journal has all of it. -/
theorem exists_outcomes_refresh (hlive : s.IsLive) (o : Occasion) :
    ∃ f : Outcomes,
      (refresh L.journaled o s).2.desk = s.desk.recordAll (f.arrivals o.resources) ∧
      (refresh L.journaled o s).2.ledger.2 =
        s.ledger.2 ++ (f.arrivals o.resources).map Arrival.exchange := by
  obtain ⟨f, hf⟩ := L.exists_outcomes o.nodup_resources s.ledger.1
  refine ⟨f, ?_, ?_⟩
  · rw [refresh, refetchAll_apply_of_live _ hlive, arrivals_journaled, hf]
  · rw [refresh, refetchAll_apply_of_live _ hlive, arrivals_journaled, hf]

theorem journal_of_obeyed {order : Order} {t : σ × List Exchange}
    (hobey : (L.obey order t.1).1 = .ok ()) :
    (L.journaled.obey order t).2.2 = t.2 ++ [.told order (.ok ())] := by
  rw [obey_journaled, hobey]

/-- A change that the ledger took is told, and what it made out of date is fetched again. -/
theorem make_of_obeyed (hlive : s.IsLive) (c : Change) {order : Order}
    (hobey : (L.obey order s.ledger.1).1 = .ok ()) :
    ∃ f : Outcomes,
      (make L.journaled c (.ok order) s).2.desk = s.desk.afterChange c f ∧
      (make L.journaled c (.ok order) s).2.ledger.2 =
        s.ledger.2 ++ .told order (.ok ()) ::
          (f.arrivals c.occasion.resources).map Arrival.exchange := by
  let told : Session (σ × List Exchange) := {
    desk := s.desk.notify .success c.saved
    watch := s.watch.tick
    ledger := (L.journaled.obey order s.ledger).2 }
  have htold : told.IsLive := hlive.tick
  have hledger : told.ledger.2 = s.ledger.2 ++ [.told order (.ok ())] := journal_of_obeyed hobey
  have hanswer : (L.journaled.obey order s.ledger).1 = .ok () := hobey
  obtain ⟨f, hdesk, hjournal⟩ := exists_outcomes_refresh (L := L) htold c.occasion
  refine ⟨f, ?_, ?_⟩
  · rw [make_of_taken hanswer, hdesk]
    rfl
  · rw [make_of_taken hanswer, hjournal, hledger, List.append_assoc]
    rfl

/-- An action comes to nothing, or the user has to pay, or the ledger takes it. -/
theorem execute_cases (L : Ledger σ) (r : Bill.Request) (s : Session σ) :
    (execute L r s).1 = none ∨
      (∃ i, execute L r s =
        (some (.paymentRequired r.action i), (requirePayment r.action i s).2)) ∨
      ∃ name b order, s.desk.openBill? = some ⟨name, .loaded b⟩ ∧
        (L.obey order s.ledger).1 = .ok () ∧
        execute L r s = (some (.submitted r.action), (afterSubmission L name r.action {
          s with ledger := (L.obey order s.ledger).2, watch := s.watch.tick }).2) := by
  rcases s.desk.refuses_or_passes r with ⟨fault, hfault⟩ | ⟨b, hb, ⟨i, hi⟩ | ⟨hpay, hbuy⟩⟩
  · left
    rw [execute_of_fault hfault]
  · obtain ⟨name, peer, hopen, hpeer, hdispatch⟩ := hb.dispatch
    rw [Bill.Request.settle_of_instructed hi] at hdispatch
    exact .inr (.inl ⟨i, execute_of_instructed hopen hpeer hdispatch⟩)
  · obtain ⟨order, hsettle, _⟩ := Bill.Request.settle_of_sent hpay hbuy b
    rcases hobey : (L.obey order s.ledger).1 with e | _
    · left
      rw [execute_of_sent_rejected hb hsettle hobey]
    · obtain ⟨name, hopen, htaken⟩ := execute_of_sent_taken hb hsettle hobey
      exact .inr (.inr ⟨name, b, order, hopen, hobey, htaken⟩)

/-- An action that the ledger took is told, and what it made out of date is fetched again. -/
theorem execute_of_submitted (hlive : s.IsLive) {r : Bill.Request} {a : Bill.Action}
    (h : (execute L.journaled r s).1 = some (.submitted a)) :
    ∃ name b order, ∃ f : Outcomes, s.desk.openBill? = some ⟨name, .loaded b⟩ ∧
      (execute L.journaled r s).2.desk =
        s.desk.afterAction name a f (Occasion.billActionSucceeded name).resources ∧
      (execute L.journaled r s).2.ledger.2 =
        s.ledger.2 ++ .told order (.ok ()) ::
          (f.arrivals (Occasion.billActionSucceeded name).resources).map Arrival.exchange := by
  rcases execute_cases L.journaled r s with
    hnone | ⟨i, hpay⟩ | ⟨name, b, order, hopen, hobey, htaken⟩
  · rw [hnone] at h
    cases h
  · rw [hpay] at h
    cases h
  rw [htaken] at h
  cases h
  let told : Session (σ × List Exchange) := {
    desk := s.desk.notify .success (r.action.label ++ " was submitted for bill " ++ name ++ ".")
    watch := s.watch.tick
    ledger := (L.journaled.obey order s.ledger).2 }
  have htold : told.IsLive := hlive.tick
  have hledger : told.ledger.2 = s.ledger.2 ++ [.told order (.ok ())] := journal_of_obeyed hobey
  obtain ⟨f, hdesk, hjournal⟩ :=
    exists_outcomes_refresh (L := L) htold (.billActionSucceeded name)
  refine ⟨name, b, order, f, hopen, ?_, ?_⟩
  · rw [htaken, afterSubmission_apply, hdesk]
    rfl
  · rw [htaken, afterSubmission_apply, hjournal, hledger, List.append_assoc]
    rfl

/-- A change that succeeds was taken by the ledger. -/
theorem step_of_not_fails (hlive : s.IsLive) {m : Move} {c : Change}
    {checked : Except FormError Order} (hchange : m.change? s.desk = some (c, checked))
    (h : ¬Fails L.journaled s m) :
    ∃ order, ∃ f : Outcomes, checked = .ok order ∧
      (s.step L.journaled m).desk = s.desk.afterChange c f ∧
      (s.step L.journaled m).ledger.2 = s.ledger.2 ++ .told order (.ok ()) ::
        (f.arrivals c.occasion.resources).map Arrival.exchange := by
  obtain ⟨hstep, hfails⟩ := step_of_change (L := L.journaled) hchange
  rw [hfails] at h
  rcases checked with e | order
  · rw [make_of_refused] at h
    exact absurd rfl h
  rcases hobey : (L.obey order s.ledger.1).1 with e | _
  · have hanswer : (L.journaled.obey order s.ledger).1 = .error e := hobey
    rw [make_of_rejected hanswer] at h
    exact absurd rfl h
  · obtain ⟨f, hdesk, hjournal⟩ := make_of_obeyed hlive c hobey
    rw [hstep]
    exact ⟨order, f, rfl, hdesk, hjournal⟩

theorem desk_of_look {q : Query} {failure : String} {s : Session σ} {a : q.Answer}
    (h : (look L q failure s).1 = some a) : (look L q failure s).2.desk = s.desk := by
  rcases hanswer : (L.answer q s.ledger).1 with e | a'
  · rw [look_of_failed hanswer] at h
    cases h
  · rw [look_of_answered hanswer]

/-! ## The frame -/

/-- An operation that succeeds in a view that stays open, for every ledger and every desk. A change
renews the part that it made out of date, and an action on the open bill renews the identity, the
bills with their balance, and the snapshot of that bill, in whatever order the answers arrive. A
part that could not be fetched stays as it was and is told once. The success is told before that,
behind all earlier notices. Where the user has to pay, nothing is sent, and nothing but the page and
one notice is new. A look changes nothing. -/
theorem success_changes_what_is_declared (L : Ledger σ) {s : Session (σ × List Exchange)}
    (hlive : s.IsLive) :
    -- A change of the contacts, of the identity or of the bills.
    (∀ (m : Move) (c : Change) (checked : Except FormError Order),
      m.change? s.desk = some (c, checked) → ¬Fails L.journaled s m →
      let done := s.step L.journaled m
      ∃ order, ∃ f : Outcomes, checked = .ok order ∧
        done.ledger.2 = s.ledger.2 ++ .told order (.ok ()) ::
          (f.arrivals c.occasion.resources).map Arrival.exchange ∧
        s.desk.Renews f c done.desk ∧
        s.desk.Tells done.desk ((.success, c.saved) ::
          (f.arrivals c.occasion.resources).filterMap Arrival.complaint?)) ∧
    -- An action that was submitted.
    (∀ (r : Bill.Request) (a : Bill.Action),
      (execute L.journaled r s).1 = some (.submitted a) →
      let done := (execute L.journaled r s).2
      ∃ name b order, ∃ f : Outcomes, s.desk.openBill? = some ⟨name, .loaded b⟩ ∧
        done.ledger.2 = s.ledger.2 ++ .told order (.ok ()) ::
          (f.arrivals (Occasion.billActionSucceeded name).resources).map Arrival.exchange ∧
        done.desk = s.desk.afterAction name a f (Occasion.billActionSucceeded name).resources ∧
        ∀ rs, rs.Perm (Occasion.billActionSucceeded name).resources →
          (∃ board, s.desk.afterAction name a f rs =
            { s.desk.renewed name f with page := .home, board }) ∧
          s.desk.Tells (s.desk.afterAction name a f rs)
            ((.success, a.label ++ " was submitted for bill " ++ name ++ ".") ::
              ((f.arrivals rs).filterMap Arrival.complaint? ++
                (a.unconfirmed? name (f (.openBill name))).toList))) ∧
    -- An action that the user has to pay for.
    (∀ (r : Bill.Request) (a : Bill.Action) (i : Bill.Instruction),
      (execute L.journaled r s).1 = some (.paymentRequired a i) →
      let done := (execute L.journaled r s).2
      done.ledger = s.ledger ∧
        (∃ board, done.desk = { s.desk with page := instructionPage a i, board }) ∧
        ∃ text, s.desk.Tells done.desk [(.info, text)]) ∧
    -- A look.
    (∀ (bill : String) (c : Chain), (chain L.journaled bill s).1 = some c →
      (chain L.journaled bill s).2.desk = s.desk) ∧
    ∀ ops : List Operation, (operations L.journaled s).1 = some ops →
      (operations L.journaled s).2.desk = s.desk := by
  refine ⟨?_, ?_, ?_, ?_, ?_⟩
  · intro m c checked hchange h done
    obtain ⟨order, f, rfl, hdesk, hjournal⟩ := step_of_not_fails hlive hchange h
    refine ⟨order, f, rfl, hjournal, ?_, ?_⟩
    · rw [hdesk]
      exact s.desk.renews_afterChange f (Move.change?_cases hchange)
    · rw [hdesk]
      exact s.desk.tells_afterChange c f
  · intro r a h done
    obtain ⟨name, b, order, f, hopen, hdesk, hjournal⟩ := execute_of_submitted hlive h
    refine ⟨name, b, order, f, hopen, hjournal, hdesk, fun rs hrs => ⟨?_, ?_⟩⟩
    · exact Desk.exists_board_afterAction hopen a f hrs
    · exact Desk.tells_afterAction hopen a f hrs
  · intro r a i h done
    rcases execute_cases L.journaled r s with hnone | ⟨i', hpay⟩ | ⟨name, b, order, _, _, htaken⟩
    · rw [hnone] at h
      cases h
    · rw [hpay] at h
      cases h
      have hdone : done = (requirePayment r.action i s).2 := congrArg Prod.snd hpay
      rw [hdone, requirePayment_apply]
      exact ⟨rfl, ⟨_, rfl⟩, _, s.desk.tells_notify _ _⟩
    · rw [htaken] at h
      cases h
  · intro bill c h
    exact desk_of_look h
  · intro ops h
    exact desk_of_look h

end Session

/-- A bill that was issued after the example bill. -/
def newerBill : Bill := { exampleBill with name := "bill-3", dateOfIssue := "2025-02-01" }

/-- A ledger that takes every order and answers with bills, oldest first. -/
def Ledger.oldestFirst : Ledger Unit where
  answer
    | .bills, t => (.ok [exampleBill, newerBill], t)
    | .bill _, t => (.ok exampleBill, t)
    | _, t => (.error .noAnswer, t)
  obey _ t := (.ok (), t)

namespace Session

/-- The drawee looks at the example bill, which may be accepted. -/
def lookingAtExample : Session (Unit × List Exchange) where
  desk := { peer? := some ⟨"node"⟩, openBill? := some ⟨"bill-2", .loaded exampleBill⟩ }
  ledger := ((), [])

theorem success_changes_what_is_declared_oldestFirst :
    let s := lookingAtExample
    let done := (execute Ledger.oldestFirst.journaled .accept s).2
    s.IsLive ∧ done.desk.contacts = s.desk.contacts ∧ done.desk.page = .home ∧
      ∃ name b, ∃ f : Outcomes, s.desk.openBill? = some ⟨name, .loaded b⟩ ∧
        done.desk.bills = (Bill.listed? (f .bills)).getD s.desk.bills ∧
        done.desk.openBill? = some ⟨name, .ofAnswer (f (.openBill name))⟩ := by
  intro s done
  have hlive : s.IsLive := rfl
  obtain ⟨name, b, order, f, hopen, _, hdesk, hframe⟩ :=
    (success_changes_what_is_declared Ledger.oldestFirst hlive).2.1 .accept .accept rfl
  obtain ⟨⟨board, hafter⟩, _⟩ := hframe _ (List.Perm.refl _)
  have hdone : done.desk = _ := hdesk.trans hafter
  rw [hdone]
  exact ⟨hlive, rfl, rfl, name, b, f, hopen, rfl, rfl⟩

/-- After an action that the ledger took, the bills are kept as they were answered. -/
def BillsAsAnswered (L : Ledger σ) : Prop :=
  ∀ (s : Session (σ × List Exchange)) (r : Bill.Request) (a : Bill.Action), s.IsLive →
    (execute L.journaled r s).1 = some (.submitted a) →
    ∀ (before after : List Exchange) (bs : List Bill),
      (execute L.journaled r s).2.ledger.2 =
        s.ledger.2 ++ (before ++ .asked .bills (.ok bs) :: after) →
      (execute L.journaled r s).2.desk.bills = bs

/-- The newer bill comes second in the answer and first on the desk. -/
theorem not_billsAsAnswered_oldestFirst : ¬BillsAsAnswered Ledger.oldestFirst := by
  intro h
  have hkept := h lookingAtExample .accept .accept rfl rfl
    [.told (.accept "bill-2") (.ok ()), .asked .identity (.error .noAnswer)]
    [.asked (.bill "bill-2") (.ok exampleBill)] [exampleBill, newerBill] rfl
  have hlisted : (execute Ledger.oldestFirst.journaled .accept lookingAtExample).2.desk.bills =
      Portfolio.newestFirst [exampleBill, newerBill] := rfl
  have hlater : Portfolio.mayPrecede exampleBill newerBill = false := by decide
  have hsorted : Portfolio.newestFirst [exampleBill, newerBill] = [newerBill, exampleBill] := by
    simp [Portfolio.newestFirst, List.mergeSort, List.MergeSort.Internal.splitInTwo, hlater]
  rw [hlisted, hsorted] at hkept
  exact absurd hkept (by decide)

end Session

end BillDesk
