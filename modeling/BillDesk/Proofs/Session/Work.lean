import BillDesk.Desk.Operations

/-!
# What a piece of work does

Each piece of work of a session as an equation: the result and the session after it. The equations
of the primitives are used by `simp`; those of the operations are what later proofs cite.

Results:
1. `refetch_apply`: a resource is fetched while the view stands, and written if it stands still.
2. `refetchAll_apply_of_live`: for a view that stays open, everything that was fetched is written.
3. `execute_of_not_there`, `execute_of_refused`, `execute_of_instructed`, `execute_of_rejected` and
   `execute_of_taken`: the five ends of an action on the open bill.
4. `make_of_refused`, `make_of_rejected` and `make_of_taken`: the three ends of a change.
5. `look_of_answered` and `look_of_failed`: the two ends of a look.
-/

namespace BillDesk

variable {σ α β : Type}

/-- The answers to the queries for resources, asked one after the other, and the ledger after the
last of them. -/
def Ledger.arrivals (L : Ledger σ) : List Resource → σ → List Arrival × σ
  | [], t => ([], t)
  | r :: rs, t =>
      let (a, t) := L.answer r.query t
      let (as, t) := arrivals L rs t
      (⟨r, a⟩ :: as, t)

/-- The desk after the check whether the ledger has caught up with an action. -/
def Desk.checkedFor (d : Desk) (name : String) (a : Bill.Action) : Desk :=
  match a.expectedFlag?, Session.openLoaded? d name with
  | some flag, some b =>
      if b.status.has flag then d
      else d.notify .info (a.label ++ " on bill " ++ name ++ " is not confirmed by the ledger yet.")
  | _, _ => d

namespace Session

/-! ## Primitives -/

@[simp]
theorem pure_apply (a : α) (s : Session σ) : (pure a : Work σ α) s = (a, s) := rfl

@[simp]
theorem bind_apply (w : Work σ α) (f : α → Work σ β) (s : Session σ) :
    (w >>= f) s = f (w s).1 (w s).2 := rfl

@[simp]
theorem map_apply (f : α → β) (w : Work σ α) (s : Session σ) :
    (f <$> w) s = (f (w s).1, (w s).2) := rfl

@[simp]
theorem get_apply (s : Session σ) : (get : Work σ (Session σ)) s = (s, s) := rfl

@[simp]
theorem change_apply (f : Desk → Desk) (s : Session σ) :
    change f s = ((), { s with desk := f s.desk }) := rfl

@[simp]
theorem notify_apply (kind : NoticeKind) (text : String) (s : Session σ) :
    notify kind text s = ((), { s with desk := s.desk.notify kind text }) := rfl

@[simp]
theorem navigate_apply (p : Page) (s : Session σ) :
    navigate p s = ((), { s with desk := s.desk.navigate p }) := rfl

@[simp]
theorem ask_apply (L : Ledger σ) (q : Query) (s : Session σ) :
    ask L q s = ((L.answer q s.ledger).1,
      { s with ledger := (L.answer q s.ledger).2, watch := s.watch.tick }) := rfl

@[simp]
theorem tell_apply (L : Ledger σ) (o : Order) (s : Session σ) :
    tell L o s = ((L.obey o s.ledger).1,
      { s with ledger := (L.obey o s.ledger).2, watch := s.watch.tick }) := rfl

/-! ## Fetching -/

variable (L : Ledger σ)

/-- A resource is asked for while the view stands, and the answer is written if it stands still. -/
theorem refetch_apply (r : Resource) (s : Session σ) :
    refetch L r s = ((),
      if s.watch.standing then
        { desk := if s.watch.tick.standing then r.record s.desk (L.answer r.query s.ledger).1
            else s.desk
          watch := s.watch.tick
          ledger := (L.answer r.query s.ledger).2 }
      else s) := by
  by_cases h : s.watch.standing = true
  · by_cases h' : s.watch.tick.standing = true <;> simp [refetch, askForView, h, h']
  · simp [refetch, askForView, h]

theorem refetchAll_cons (r : Resource) (rs : List Resource) (s : Session σ) :
    refetchAll L (r :: rs) s = refetchAll L rs (refetch L r s).2 := rfl

/-- The view stands and stays open. -/
def IsLive (s : Session σ) : Prop := s.watch = {}

theorem IsLive.tick {s : Session σ} (h : s.IsLive) : s.watch.tick = {} := by
  rw [h]
  rfl

theorem refetch_apply_of_live {s : Session σ} (h : s.IsLive) (r : Resource) :
    refetch L r s = ((), {
      desk := r.record s.desk (L.answer r.query s.ledger).1
      watch := s.watch
      ledger := (L.answer r.query s.ledger).2 }) := by
  rw [refetch_apply, h]
  rfl

theorem isLive_refetch {s : Session σ} (h : s.IsLive) (r : Resource) :
    (refetch L r s).2.IsLive := by
  rw [refetch_apply_of_live L h]
  exact h

/-- For a view that stays open, all that was fetched is written in the order of its arrival. -/
theorem refetchAll_apply_of_live {s : Session σ} (h : s.IsLive) (rs : List Resource) :
    refetchAll L rs s = ((), {
      desk := s.desk.recordAll (L.arrivals rs s.ledger).1
      watch := s.watch
      ledger := (L.arrivals rs s.ledger).2 }) := by
  induction rs generalizing s with
  | nil => rfl
  | cons r rs ih =>
    rw [refetchAll_cons, ih (isLive_refetch L h r), refetch_apply_of_live L h]
    rfl

theorem start_apply (s : Session σ) :
    let fetched := (refresh L .startup s).2
    start L s = ((), { fetched with desk := fetched.desk.navigate fetched.desk.startPage }) := by
  simp only [start, bind_apply, change_apply]

theorem openBill_apply (name : String) (s : Session σ) :
    openBill L name s = refresh L (.billOpened name)
      { s with desk := (s.desk.openBill name).navigate (.bill name) } := by
  simp only [openBill, bind_apply, change_apply, navigate_apply]

/-! ## An action on the open bill -/

theorem checkCaughtUp_apply (name : String) (a : Bill.Action) (s : Session σ) :
    checkCaughtUp name a s = ((), { s with desk := s.desk.checkedFor name a }) := by
  simp only [checkCaughtUp, Desk.checkedFor, bind_apply, get_apply]
  cases a.expectedFlag? with
  | none => rfl
  | some flag =>
    cases openLoaded? s.desk name with
    | none => rfl
    | some b =>
      by_cases h : b.status.has flag = true <;> simp [h]

theorem afterSubmission_apply (name : String) (a : Bill.Action) (s : Session σ) :
    let told : Session σ := { s with
      desk := s.desk.notify .success (a.label ++ " was submitted for bill " ++ name ++ ".") }
    let fetched := (refresh L (.billActionSucceeded name) told).2
    afterSubmission L name a s = (.submitted a, { fetched with
      desk := (fetched.desk.checkedFor name a).navigate .home }) := by
  simp only [afterSubmission, bind_apply, notify_apply, checkCaughtUp_apply, navigate_apply,
    pure_apply]

theorem afterSubmission_apply_of_live {s : Session σ} (h : s.IsLive) (name : String)
    (a : Bill.Action) :
    let arrived := L.arrivals (Occasion.billActionSucceeded name).resources s.ledger
    let told := s.desk.notify .success (a.label ++ " was submitted for bill " ++ name ++ ".")
    afterSubmission L name a s = (.submitted a, {
      desk := ((told.recordAll arrived.1).checkedFor name a).navigate .home
      watch := s.watch
      ledger := arrived.2 }) := by
  intro arrived told
  have hlive : IsLive { s with desk := told } := h
  rw [afterSubmission_apply, refresh, refetchAll_apply_of_live L hlive]

theorem requirePayment_apply (a : Bill.Action) (i : Bill.Instruction) (s : Session σ) :
    let due := "Pay " ++ Nat.repr i.amount.toNat ++ " " ++ i.currency ++ " to " ++
      i.receiver.name ++ " to complete " ++ a.label ++ "."
    requirePayment a i s = (.paymentRequired a i,
      { s with desk := (s.desk.notify .info due).navigate (instructionPage a i) }) := by
  simp only [requirePayment, bind_apply, notify_apply, navigate_apply, pure_apply]

section Execute

variable {L} {r : Bill.Request} {s : Session σ} {o : OpenBill} {peer : PeerId}

theorem execute_of_not_there (h : s.desk.openBill? = none ∨ s.desk.peer? = none) :
    execute L r s =
      (none, { s with desk := s.desk.notify .error "The bill is not loaded yet." }) := by
  simp only [execute, bind_apply, get_apply]
  rcases h with h | h
  · rw [h]
    rfl
  · rw [h]
    cases s.desk.openBill? <;> rfl

theorem execute_of_refused {e : BillError} (hopen : s.desk.openBill? = some o)
    (hpeer : s.desk.peer? = some peer) (h : r.dispatch o.snapshot peer = .error e) :
    execute L r s =
      (none, { s with desk := s.desk.notify .error ("Action failed: " ++ e.message) }) := by
  simp only [execute, bind_apply, get_apply, hopen, hpeer, h]
  rfl

theorem execute_of_instructed {i : Bill.Instruction} (hopen : s.desk.openBill? = some o)
    (hpeer : s.desk.peer? = some peer) (h : r.dispatch o.snapshot peer = .ok (.pay i)) :
    execute L r s =
      (some (requirePayment r.action i s).1, (requirePayment r.action i s).2) := by
  simp only [execute, bind_apply, get_apply, hopen, hpeer, h, map_apply]

/-- The ledger refuses the order. -/
theorem execute_of_rejected {order : Order} {e : LedgerError} (hopen : s.desk.openBill? = some o)
    (hpeer : s.desk.peer? = some peer) (h : r.dispatch o.snapshot peer = .ok (.send order))
    (hobey : (L.obey order s.ledger).1 = .error e) :
    execute L r s = (none, {
      desk := s.desk.notify .error ("Action failed: " ++ (BillError.ledger e).message)
      watch := s.watch.tick
      ledger := (L.obey order s.ledger).2 }) := by
  simp only [execute, bind_apply, get_apply, hopen, hpeer, h, tell_apply, hobey]
  rfl

/-- The ledger takes the order. -/
theorem execute_of_taken {order : Order} (hopen : s.desk.openBill? = some o)
    (hpeer : s.desk.peer? = some peer) (h : r.dispatch o.snapshot peer = .ok (.send order))
    (hobey : (L.obey order s.ledger).1 = .ok ()) :
    let after := afterSubmission L o.name r.action {
      s with ledger := (L.obey order s.ledger).2, watch := s.watch.tick }
    execute L r s = (some after.1, after.2) := by
  simp only [execute, bind_apply, get_apply, hopen, hpeer, h, tell_apply, hobey, map_apply]

end Execute

/-! ## Changes and looks -/

section Make

variable {L} {c : Change} {s : Session σ} {order : Order}

theorem make_of_refused {e : FormError} :
    make L c (.error e) s =
      (false, { s with desk := s.desk.notify .error (c.failed ++ ": " ++ c.refusal e) }) := rfl

theorem make_of_rejected {e : LedgerError} (hobey : (L.obey order s.ledger).1 = .error e) :
    make L c (.ok order) s = (false, {
      desk := s.desk.notify .error (c.failed ++ ": " ++ (ServiceError.ledger e).message)
      watch := s.watch.tick
      ledger := (L.obey order s.ledger).2 }) := by
  simp only [make, bind_apply, tell_apply, hobey]
  rfl

theorem make_of_taken (hobey : (L.obey order s.ledger).1 = .ok ()) :
    let told : Session σ := {
      desk := s.desk.notify .success c.saved
      watch := s.watch.tick
      ledger := (L.obey order s.ledger).2 }
    let fetched := (refresh L c.occasion told).2
    make L c (.ok order) s = (true, { fetched with desk := fetched.desk.navigate c.page }) := by
  simp only [make, bind_apply, tell_apply, hobey]
  rfl

end Make

theorem addContact_apply (name : String) (peer : PeerId) (s : Session σ) :
    addContact L name peer s =
      make L savingContacts (Contact.addOrder s.desk.contacts name peer) s := by
  simp only [addContact, bind_apply, get_apply]

theorem editContact_apply (oldName name : String) (peer : PeerId) (s : Session σ) :
    editContact L oldName name peer s =
      make L savingContacts (Contact.editOrder s.desk.contacts oldName name peer) s := by
  simp only [editContact, bind_apply, get_apply]

theorem removeContact_apply (name : String) (s : Session σ) :
    removeContact L name s =
      make L savingContacts (Contact.removeOrder s.desk.contacts name) s := by
  simp only [removeContact, bind_apply, get_apply]

section Look

variable {L} {q : Query} {failure : String} {s : Session σ}

theorem look_of_answered {a : q.Answer} (h : (L.answer q s.ledger).1 = .ok a) :
    look L q failure s =
      (some a, { s with ledger := (L.answer q s.ledger).2, watch := s.watch.tick }) := by
  simp only [look, bind_apply, ask_apply, h]
  rfl

theorem look_of_failed {e : LedgerError} (h : (L.answer q s.ledger).1 = .error e) :
    look L q failure s = (none, {
      desk := s.desk.notify .error (failure ++ ": " ++ (ServiceError.ledger e).message)
      watch := s.watch.tick
      ledger := (L.answer q s.ledger).2 }) := by
  simp only [look, bind_apply, ask_apply, h]
  rfl

end Look

/-- A look leaves the desk as it is, but for the notice of a failure. -/
theorem look_apply (q : Query) (failure : String) (s : Session σ) :
    (look L q failure s).2 = {
      desk := match (L.answer q s.ledger).1 with
        | .ok _ => s.desk
        | .error e => s.desk.notify .error (failure ++ ": " ++ (ServiceError.ledger e).message)
      watch := s.watch.tick
      ledger := (L.answer q s.ledger).2 } := by
  rcases h : (L.answer q s.ledger).1 with e | a
  · rw [look_of_failed h]
  · rw [look_of_answered h]

end Session

end BillDesk
