import BillDesk.Proofs.Session.Work

/-!
# Projections of sessions

A session with one ledger may be looked at as a session with another one: the desk, the state of the
ledger and its answers are mapped. When the two ledgers answer alike through such a map, and what is
done to a desk is done to its image, a piece of work is the same on both sides. It has the same
result, and the image of the session that it leaves is the session that it leaves of the image.

Results:
1. `Carries.bind` and `Carries.map`: pieces of work are put together.
2. `carries_refetch` and `carries_refetchAll`: fetching, whatever becomes of the view.
3. `carries_execute`, `carries_make` and `look_session`: the operations on the ledger.
-/

namespace BillDesk

variable {σ τ α β : Type}

/-- The sessions with `L`, looked at as sessions with `M`. -/
structure Projection (L : Ledger σ) (M : Ledger τ) where
  desk : Desk → Desk
  state : σ → τ
  value : (q : Query) → q.Answer → q.Answer
  answer_state : ∀ q t,
    M.answer q (state t) = ((L.answer q t).1.map (value q), state (L.answer q t).2)
  obey_state : ∀ o t, M.obey o (state t) = ((L.obey o t).1, state (L.obey o t).2)
  openBill?_desk : ∀ d, (desk d).openBill? = d.openBill?
  peer?_desk : ∀ d, (desk d).peer? = d.peer?
  contacts_desk : ∀ d, (desk d).contacts = d.contacts
  startPage_desk : ∀ d, (desk d).startPage = d.startPage
  notify_desk : ∀ d kind text, (desk d).notify kind text = desk (d.notify kind text)
  navigate_desk : ∀ d p, (desk d).navigate p = desk (d.navigate p)
  openBill_desk : ∀ d name, (desk d).openBill name = desk (d.openBill name)
  record_desk : ∀ d (r : Resource) (answer : Except LedgerError r.query.Answer),
    r.record (desk d) (answer.map (value r.query)) = desk (r.record d answer)

namespace Projection

variable {L : Ledger σ} {M : Ledger τ} (P : Projection L M)

def session (s : Session σ) : Session τ where
  desk := P.desk s.desk
  watch := s.watch
  ledger := P.state s.ledger

@[simp]
theorem session_desk (s : Session σ) : (P.session s).desk = P.desk s.desk := rfl

@[simp]
theorem session_watch (s : Session σ) : (P.session s).watch = s.watch := rfl

@[simp]
theorem session_ledger (s : Session σ) : (P.session s).ledger = P.state s.ledger := rfl

/-- `v` is the work `w` as it looks through the projection. -/
def Carries (w : Work σ α) (v : Work τ α) : Prop :=
  ∀ s, v (P.session s) = ((w s).1, P.session (w s).2)

variable {P}

namespace Carries

theorem pure (a : α) : P.Carries (Pure.pure a) (Pure.pure a) := fun _ => rfl

theorem bind {w : Work σ α} {v : Work τ α} {f : α → Work σ β} {g : α → Work τ β}
    (h : P.Carries w v) (h' : ∀ a, P.Carries (f a) (g a)) : P.Carries (w >>= f) (v >>= g) := by
  intro s
  rw [Session.bind_apply, Session.bind_apply, h s]
  exact h' _ _

theorem map (f : α → β) {w : Work σ α} {v : Work τ α} (h : P.Carries w v) :
    P.Carries (f <$> w) (f <$> v) := by
  intro s
  rw [Session.map_apply, Session.map_apply, h s]

theorem change {f : Desk → Desk} (h : ∀ d, f (P.desk d) = P.desk (f d)) :
    P.Carries (Session.change f) (Session.change f) := by
  intro s
  rw [Session.change_apply, Session.change_apply, session_desk, h]
  rfl

end Carries

variable (P)

theorem carries_notify (kind : NoticeKind) (text : String) :
    P.Carries (Session.notify kind text) (Session.notify kind text) :=
  .change fun d => P.notify_desk d kind text

theorem carries_navigate (p : Page) : P.Carries (Session.navigate p) (Session.navigate p) :=
  .change fun d => P.navigate_desk d p

theorem carries_report (what reason : String) :
    P.Carries (Session.report what reason) (Session.report what reason) :=
  P.carries_notify _ _

theorem carries_tell (o : Order) : P.Carries (Session.tell L o) (Session.tell M o) := by
  intro s
  rw [Session.tell_apply, Session.tell_apply, session_ledger, P.obey_state]
  rfl

/-! ## Fetching -/

theorem carries_refetch (r : Resource) :
    P.Carries (Session.refetch L r) (Session.refetch M r) := by
  intro s
  rw [Session.refetch_apply, Session.refetch_apply, session_watch, session_ledger,
    P.answer_state]
  by_cases hstands : s.watch.standing = true
  · by_cases hstill : s.watch.tick.standing = true
    · simp [hstands, hstill, session, P.record_desk]
    · simp [hstands, hstill, session]
  · simp [hstands]

theorem carries_refetchAll (rs : List Resource) :
    P.Carries (Session.refetchAll L rs) (Session.refetchAll M rs) := by
  induction rs with
  | nil => exact .pure ()
  | cons r rs ih => exact (P.carries_refetch r).bind fun _ => ih

theorem carries_refresh (o : Occasion) :
    P.Carries (Session.refresh L o) (Session.refresh M o) := P.carries_refetchAll o.resources

theorem carries_start : P.Carries (Session.start L) (Session.start M) := by
  refine (P.carries_refresh .startup).bind fun _ => .change fun d => ?_
  rw [P.startPage_desk, P.navigate_desk]

theorem carries_openBill (name : String) :
    P.Carries (Session.openBill L name) (Session.openBill M name) :=
  .bind (.change fun d => P.openBill_desk d name) fun _ =>
    (P.carries_navigate _).bind fun _ => P.carries_refresh _

/-! ## Operations on the ledger -/

theorem carries_checkCaughtUp (name : String) (a : Bill.Action) :
    P.Carries (Session.checkCaughtUp name a) (Session.checkCaughtUp name a) := by
  intro s
  have hloaded : Session.openLoaded? (P.desk s.desk) name = Session.openLoaded? s.desk name := by
    rw [Session.openLoaded?, P.openBill?_desk]
    rfl
  have hchecked : (P.desk s.desk).checkedFor name a = P.desk (s.desk.checkedFor name a) := by
    simp only [Desk.checkedFor, hloaded]
    split
    · split
      · rfl
      · exact P.notify_desk _ _ _
    · rfl
  rw [Session.checkCaughtUp_apply, Session.checkCaughtUp_apply, session_desk, hchecked]
  rfl

theorem carries_afterSubmission (name : String) (a : Bill.Action) :
    P.Carries (Session.afterSubmission L name a) (Session.afterSubmission M name a) :=
  (P.carries_notify _ _).bind fun _ => (P.carries_refresh _).bind fun _ =>
    (P.carries_checkCaughtUp name a).bind fun _ => (P.carries_navigate _).bind fun _ => .pure _

theorem carries_requirePayment (a : Bill.Action) (i : Bill.Instruction) :
    P.Carries (Session.requirePayment a i) (Session.requirePayment a i) :=
  (P.carries_notify _ _).bind fun _ => (P.carries_navigate _).bind fun _ => .pure _

theorem carries_execute (r : Bill.Request) :
    P.Carries (Session.execute L r) (Session.execute M r) := by
  intro s
  -- What is done depends on the open bill and the local peer, which are the same on both sides.
  simp only [Session.execute, Session.bind_apply, Session.get_apply, session_desk,
    P.openBill?_desk, P.peer?_desk]
  cases s.desk.openBill? with
  | none => exact ((P.carries_notify _ _).bind fun _ => .pure _) s
  | some o =>
    cases s.desk.peer? with
    | none => exact ((P.carries_notify _ _).bind fun _ => .pure _) s
    | some peer =>
      dsimp only
      rcases r.dispatch o.snapshot peer with e | order | i
      · exact ((P.carries_report _ _).bind fun _ => .pure _) s
      · refine ((P.carries_tell order).bind fun a => ?_) s
        cases a with
        | error e => exact (P.carries_report _ _).bind fun _ => .pure _
        | ok => exact (P.carries_afterSubmission o.name r.action).map _
      · exact ((P.carries_requirePayment r.action i).map _) s

theorem carries_make (c : Session.Change) (order : Except FormError Order) :
    P.Carries (Session.make L c order) (Session.make M c order) := by
  cases order with
  | error e => exact (P.carries_report _ _).bind fun _ => .pure _
  | ok o =>
    refine (P.carries_tell o).bind fun a => ?_
    cases a with
    | error e => exact (P.carries_report _ _).bind fun _ => .pure _
    | ok =>
      exact (P.carries_notify _ _).bind fun _ => (P.carries_refresh _).bind fun _ =>
        (P.carries_navigate _).bind fun _ => .pure _

theorem carries_addContact (name : String) (peer : PeerId) :
    P.Carries (Session.addContact L name peer) (Session.addContact M name peer) := by
  intro s
  rw [Session.addContact_apply, Session.addContact_apply, session_desk, P.contacts_desk]
  exact P.carries_make _ _ s

theorem carries_editContact (oldName name : String) (peer : PeerId) :
    P.Carries (Session.editContact L oldName name peer)
      (Session.editContact M oldName name peer) := by
  intro s
  rw [Session.editContact_apply, Session.editContact_apply, session_desk, P.contacts_desk]
  exact P.carries_make _ _ s

theorem carries_removeContact (name : String) :
    P.Carries (Session.removeContact L name) (Session.removeContact M name) := by
  intro s
  rw [Session.removeContact_apply, Session.removeContact_apply, session_desk, P.contacts_desk]
  exact P.carries_make _ _ s

/-- What is looked at is seen through the projection, too. -/
theorem look_session (q : Query) (failure : String) (s : Session σ) :
    Session.look M q failure (P.session s) =
      ((Session.look L q failure s).1.map (P.value q),
        P.session (Session.look L q failure s).2) := by
  have hanswer : (M.answer q (P.session s).ledger).1 = (L.answer q s.ledger).1.map (P.value q) :=
    congrArg Prod.fst (P.answer_state q s.ledger)
  rcases h : (L.answer q s.ledger).1 with e | a
  · rw [h] at hanswer
    rw [Session.look_of_failed h, Session.look_of_failed hanswer, session_desk, P.notify_desk,
      session_ledger, P.answer_state]
    rfl
  · rw [h] at hanswer
    rw [Session.look_of_answered h, Session.look_of_answered hanswer, session_ledger,
      P.answer_state]
    rfl

end Projection

end BillDesk
