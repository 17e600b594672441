import BillDesk.Proofs.Session.Journal

/-!
# Runs

A run is what a user does, one operation after the other, in a view that stays open. Between two
operations nothing is under way, so what a run keeps can be said of the bill that is open and of the
ledger alone.

Results:
1. `Kept.play`: what every call of the ledger keeps, in the state of the desk in which it is made,
   holds after every run.
2. `Shadows.play`: the journal only watches a run.
-/

namespace BillDesk

/-- The action on a bill that an order stands for, and the name that it is sent with. -/
def Order.submission? : Order → Option (Bill.Action × String)
  | .accept bill => some (.accept, bill)
  | .endorse bill _ => some (.endorse, bill)
  | .sell bill _ _ => some (.sell, bill)
  | .requestToAccept bill => some (.requestToAccept, bill)
  | .requestToPay bill => some (.requestToPay, bill)
  | _ => none

theorem Order.submission?_of_checked {check : Check} {order order' : Order}
    (h : Order.checked check order = .ok order') : order'.submission? = order.submission? := by
  unfold Order.checked at h
  split at h
  · rw [Except.ok.inj h]
  · cases h

namespace Bill.Request

theorem submission?_of_settle {r : Request} {b : Bill} {order : Order}
    (h : r.settle b = .ok (.send order)) : order.submission? = some (r.action, b.name) := by
  cases r with
  | pay | buy =>
    simp only [settle, instructed] at h
    split at h <;> cases h
  | accept | endorse | sell | requestToAccept | requestToPay =>
    cases h
    rfl

/-- What is sent was eligible. -/
theorem mem_eligibleActions_of_decide {r : Request} {b : Bill} {peer : PeerId} {order : Order}
    (h : r.decide b peer = .ok (.send order)) :
    r.action ∈ b.eligibleActions peer ∧ r.settle b = .ok (.send order) := by
  unfold decide at h
  split at h
  · cases h
  · split at h
    · next hmem => exact ⟨List.contains_iff_mem.1 hmem, h⟩
    · cases h

end Bill.Request

theorem Bill.Snapshot.ofAnswer_eq_loaded {a : Except LedgerError Bill} {b : Bill} :
    Bill.Snapshot.ofAnswer a = .loaded b ↔ a = .ok b := by
  cases a <;> simp [Bill.Snapshot.ofAnswer]

/-! ## Operations and runs -/

/-- What a user does. -/
inductive Move where
  | start
  | refresh (o : Occasion)
  | navigate (p : Page)
  | dismiss (id : Nat)
  | openBill (name : String)
  | closeBill
  | chain (bill : String)
  | operations
  | execute (r : Bill.Request)
  | issue (f : Bill.IssueForm)
  | createIdentity (today : Date) (f : Identity.Form)
  | changeIdentity (today : Date) (f : Identity.Form)
  | addContact (name : String) (peer : PeerId)
  | editContact (oldName name : String) (peer : PeerId)
  | removeContact (name : String)

namespace Session

variable {σ : Type}

/-- The session after an operation. -/
def step (L : Ledger σ) (s : Session σ) : Move → Session σ
  | .start => (start L s).2
  | .refresh o => (refresh L o s).2
  | .navigate p => (navigate p s).2
  | .dismiss id => (dismiss id s).2
  | .openBill name => (openBill L name s).2
  | .closeBill => (closeBill s).2
  | .chain bill => (chain L bill s).2
  | .operations => (operations L s).2
  | .execute r => (execute L r s).2
  | .issue f => (issue L f s).2
  | .createIdentity today f => (createIdentity L today f s).2
  | .changeIdentity today f => (changeIdentity L today f s).2
  | .addContact name peer => (addContact L name peer s).2
  | .editContact oldName name peer => (editContact L oldName name peer s).2
  | .removeContact name => (removeContact L name s).2

/-- The session after a run. -/
def play (L : Ledger σ) (s : Session σ) (moves : List Move) : Session σ :=
  moves.foldl (step L) s

/-! ## What fetching does to the open bill -/

@[simp]
theorem openBill?_navigate (d : Desk) (p : Page) : (d.navigate p).openBill? = d.openBill? := rfl

@[simp]
theorem openBill?_notify (d : Desk) (kind : NoticeKind) (text : String) :
    (d.notify kind text).openBill? = d.openBill? := rfl

theorem openBill?_record_openBill (d : Desk) (name : String) (a : Except LedgerError Bill) :
    ((Resource.openBill name).record d a).openBill? =
      d.openBill?.map fun o => if o.name = name then ⟨name, .ofAnswer a⟩ else o := by
  simp only [Resource.record, Desk.setSnapshot]
  rcases hopen : d.openBill? with _ | o
  · simp [hopen]
  · by_cases h : o.name = name <;> simp [h, hopen]

/-- Only an answer about the open bill changes what is shown of it. -/
theorem openBill?_record {d : Desk} {r : Resource}
    (h : ∀ x, d.openBill? = some x → r ≠ .openBill x.name)
    (a : Except LedgerError r.query.Answer) : (r.record d a).openBill? = d.openBill? := by
  cases r with
  | identity | peerId | contacts | bills => cases a <;> rfl
  | openBill name =>
    rw [openBill?_record_openBill]
    rcases hopen : d.openBill? with _ | x
    · rfl
    · have hname : x.name ≠ name := by
        rintro rfl
        exact h x hopen rfl
      simp [hname]

theorem openBill?_checkedFor (d : Desk) (name : String) (a : Bill.Action) :
    (d.checkedFor name a).openBill? = d.openBill? := by
  unfold Desk.checkedFor
  split
  · split <;> rfl
  · rfl

/-- After an action that the ledger took, the open bill is what the ledger answers last. -/
theorem afterSubmission_of_live {L : Ledger σ} {s : Session σ} (hlive : s.IsLive) {name : String}
    {snap : Bill.Snapshot} (hopen : s.desk.openBill? = some ⟨name, snap⟩) (a : Bill.Action) :
    let last := L.answer (.bill name) (L.answer .bills (L.answer .identity s.ledger).2).2
    (afterSubmission L name a s).2.IsLive ∧
      (afterSubmission L name a s).2.desk.openBill? = some ⟨name, .ofAnswer last.1⟩ ∧
      (afterSubmission L name a s).2.ledger = last.2 := by
  rw [afterSubmission_apply_of_live L hlive]
  refine ⟨hlive, ?_, rfl⟩
  simp only [openBill?_navigate, openBill?_checkedFor, Desk.recordAll, Ledger.arrivals,
    Occasion.resources, List.foldl_cons, List.foldl_nil]
  rw [openBill?_record_openBill, openBill?_record (by simp), openBill?_record (by simp),
    openBill?_notify, hopen]
  simp

/-! ## What a run keeps -/

/-- What holds of the open bill and the ledger is kept by every call of the ledger, in the state of
the desk in which it is made. The open bill counts as loading from the moment on that the ledger has
taken an action on it, until it is fetched again. -/
structure Kept (L : Ledger σ) (I : Option OpenBill → σ → Prop) : Prop where
  closed {o t} : I o t → I none t
  opened {o t} (name : String) : I o t → I (some ⟨name, .loading⟩) t
  asked {o t} (q : Query) : (∀ x, o = some x → q ≠ .bill x.name) → I o t → I o (L.answer q t).2
  shown {name snap t} : I (some ⟨name, snap⟩) t →
    I (some ⟨name, .ofAnswer (L.answer (.bill name) t).1⟩) (L.answer (.bill name) t).2
  told {o t order} : order.submission? = none → I o t → I o (L.obey order t).2
  rejected {name b t e} {r : Bill.Request} {peer order} : I (some ⟨name, .loaded b⟩) t →
    r.decide b peer = .ok (.send order) → (L.obey order t).1 = .error e →
    I (some ⟨name, .loaded b⟩) (L.obey order t).2
  taken {name b t} {r : Bill.Request} {peer order} : I (some ⟨name, .loaded b⟩) t →
    r.decide b peer = .ok (.send order) → (L.obey order t).1 = .ok () →
    I (some ⟨name, .loading⟩) (L.obey order t).2

/-- The view stays open, and `I` holds of the open bill and the ledger. -/
def Holds (I : Option OpenBill → σ → Prop) (s : Session σ) : Prop :=
  s.IsLive ∧ I s.desk.openBill? s.ledger

theorem Holds.of_openBill?_eq {I : Option OpenBill → σ → Prop} {s : Session σ} (h : s.Holds I)
    {d : Desk} (hd : d.openBill? = s.desk.openBill?) : Holds I { s with desk := d } :=
  ⟨h.1, hd ▸ h.2⟩

theorem holds_new {I : Option OpenBill → σ → Prop} {t : σ} (h : I none t) :
    Holds I { ledger := t } := ⟨rfl, h⟩

namespace Kept

variable {L : Ledger σ} {I : Option OpenBill → σ → Prop} {s : Session σ}

theorem refetch (hk : Kept L I) (h : s.Holds I) (r : Resource) :
    (refetch L r s).2.Holds I := by
  obtain ⟨hlive, hI⟩ := h
  rw [refetch_apply_of_live L hlive]
  refine ⟨hlive, ?_⟩
  by_cases hr : ∃ x, s.desk.openBill? = some x ∧ r = .openBill x.name
  · obtain ⟨⟨name, snap⟩, hopen, rfl⟩ := hr
    rw [hopen] at hI
    rw [openBill?_record_openBill, hopen]
    simpa using hk.shown hI
  · -- The answer is about something else than the open bill, or comes too late for it.
    rw [openBill?_record fun x hx hrx => hr ⟨x, hx, hrx⟩]
    refine hk.asked r.query ?_ hI
    intro x hx hq
    cases r with
    | openBill name =>
      cases hq
      exact hr ⟨x, hx, rfl⟩
    | identity | peerId | contacts | bills => cases hq

theorem refetchAll (hk : Kept L I) (h : s.Holds I) (rs : List Resource) :
    (refetchAll L rs s).2.Holds I := by
  induction rs generalizing s with
  | nil => exact h
  | cons r rs ih =>
    rw [refetchAll_cons]
    exact ih (hk.refetch h r)

theorem refresh (hk : Kept L I) (h : s.Holds I) (o : Occasion) : (refresh L o s).2.Holds I :=
  hk.refetchAll h o.resources

theorem look (hk : Kept L I) (h : s.Holds I) {q : Query} (hq : ∀ name, q ≠ .bill name)
    (failure : String) : (look L q failure s).2.Holds I := by
  obtain ⟨hlive, hI⟩ := h
  rw [look_apply]
  refine ⟨hlive.tick, ?_⟩
  have hI' := hk.asked q (fun x _ => hq x.name) hI
  cases (L.answer q s.ledger).1 <;> exact hI'

theorem make (hk : Kept L I) (h : s.Holds I) {order : Except FormError Order}
    (horder : ∀ o, order = .ok o → o.submission? = none) (c : Change) :
    (make L c order s).2.Holds I := by
  obtain ⟨hlive, hI⟩ := h
  rcases order with e | o
  · rw [make_of_refused]
    exact ⟨hlive, hI⟩
  · have hI' := hk.told (horder o rfl) hI
    rcases hobey : (L.obey o s.ledger).1 with e | _
    · rw [make_of_rejected hobey]
      exact ⟨hlive.tick, hI'⟩
    · rw [make_of_taken hobey]
      refine Holds.of_openBill?_eq (hk.refresh ?_ c.occasion) (openBill?_navigate _ _)
      exact ⟨hlive.tick, hI'⟩

/-- An order that is sent is either refused and leaves the bill as it is shown, or taken, and the
bill is fetched again last of all. -/
theorem submit (hk : Kept L I) (h : s.Holds I) {r : Bill.Request} {name : String} {b : Bill}
    {peer : PeerId} {order : Order} (hopen : s.desk.openBill? = some ⟨name, .loaded b⟩)
    (hpeer : s.desk.peer? = some peer) (hdecide : r.decide b peer = .ok (.send order)) :
    (execute L r s).2.Holds I := by
  have hdispatch : r.dispatch (.loaded b) peer = .ok (.send order) := hdecide
  obtain ⟨hlive, hI⟩ := h
  rw [hopen] at hI
  rcases hobey : (L.obey order s.ledger).1 with e | _
  · rw [execute_of_rejected hopen hpeer hdispatch hobey]
    refine ⟨hlive.tick, ?_⟩
    rw [openBill?_notify, hopen]
    exact hk.rejected hI hdecide hobey
  · rw [execute_of_taken hopen hpeer hdispatch hobey]
    obtain ⟨hlive', hopen', hledger⟩ := afterSubmission_of_live (L := L)
      (s := { s with ledger := (L.obey order s.ledger).2, watch := s.watch.tick }) hlive.tick
      hopen r.action
    refine ⟨hlive', ?_⟩
    rw [hopen', hledger]
    have htold := hk.taken hI hdecide hobey
    have hidentity := hk.asked .identity (by simp) htold
    have hbills := hk.asked .bills (by simp) hidentity
    exact hk.shown hbills

theorem execute (hk : Kept L I) (h : s.Holds I) (r : Bill.Request) :
    (execute L r s).2.Holds I := by
  rcases hopen : s.desk.openBill? with _ | ⟨name, snap⟩
  · rw [execute_of_not_there (.inl hopen)]
    exact h.of_openBill?_eq rfl
  rcases hpeer : s.desk.peer? with _ | peer
  · rw [execute_of_not_there (.inr hpeer)]
    exact h.of_openBill?_eq rfl
  rcases hdispatch : r.dispatch snap peer with e | order | i
  · rw [execute_of_refused hopen hpeer hdispatch]
    exact h.of_openBill?_eq rfl
  · rcases snap with _ | reason | b
    · cases hdispatch
    · cases hdispatch
    · exact hk.submit h hopen hpeer hdispatch
  · rw [execute_of_instructed hopen hpeer hdispatch, requirePayment_apply]
    exact h.of_openBill?_eq rfl

theorem step (hk : Kept L I) (h : s.Holds I) (m : Move) : (step L s m).Holds I := by
  -- Every change is a checked order, and none of them is an action on a bill.
  have hchecked : ∀ (check : Check) (order : Order) (c : Change), order.submission? = none →
      (Session.make L c (Order.checked check order) s).2.Holds I := by
    intro check order c hnone
    exact hk.make h (fun _ ho => (Order.submission?_of_checked ho).trans hnone) c
  cases m with
  | start =>
    rw [Session.step, start_apply]
    exact (hk.refresh h .startup).of_openBill?_eq (openBill?_navigate _ _)
  | refresh o => exact hk.refresh h o
  | navigate p => exact h
  | dismiss id => exact h
  | openBill name =>
    rw [Session.step, openBill_apply]
    refine hk.refresh ?_ (.billOpened name)
    exact ⟨h.1, hk.opened name h.2⟩
  | closeBill => exact ⟨h.1, hk.closed h.2⟩
  | chain bill => exact hk.look h (by simp) _
  | operations => exact hk.look h (by simp) _
  | execute r => exact hk.execute h r
  | issue f => exact hchecked _ (.issue f) issuing rfl
  | createIdentity today f => exact hchecked _ (.createIdentity f) savingIdentity rfl
  | changeIdentity today f => exact hchecked _ (.changeIdentity f) savingIdentity rfl
  | addContact name peer =>
    rw [Session.step, addContact_apply]
    exact hchecked _ (.addContact (Text.trim name) peer) savingContacts rfl
  | editContact oldName name peer =>
    rw [Session.step, editContact_apply]
    exact hchecked _ (.editContact (Text.trim oldName) (Text.trim name) peer) savingContacts rfl
  | removeContact name =>
    rw [Session.step, removeContact_apply]
    exact hchecked _ (.removeContact (Text.trim name)) savingContacts rfl

/-- What every call of the ledger keeps holds after every run. -/
theorem play (hk : Kept L I) (h : s.Holds I) (moves : List Move) : (play L s moves).Holds I := by
  induction moves generalizing s with
  | nil => exact h
  | cons m moves ih => exact ih (hk.step h m)

end Kept

/-! ## The journal only watches a run -/

namespace Shadows

variable (L : Ledger σ)

theorem step (s : Session (σ × List Exchange)) (m : Move) :
    (s.step L.journaled m).forget = s.forget.step L m := by
  have hsnd : ∀ {α : Type} {w : Work (σ × List Exchange) α} {v : Work σ α},
      Shadows w v → (w s).2.forget = (v s.forget).2 := by
    intro α w v h
    rw [h s]
  cases m with
  | start => exact hsnd (start L)
  | refresh o => exact hsnd (refresh L o)
  | navigate p => rfl
  | dismiss id => rfl
  | openBill name => exact hsnd (openBill L name)
  | closeBill => rfl
  | chain bill => exact hsnd (look L _ _)
  | operations => exact hsnd (look L _ _)
  | execute r => exact hsnd (execute L r)
  | issue f => exact hsnd (make L issuing f.order)
  | createIdentity today f => exact hsnd (make L savingIdentity (f.createOrder today))
  | changeIdentity today f => exact hsnd (make L savingIdentity (f.changeOrder today))
  | addContact name peer => exact hsnd (addContact L name peer)
  | editContact oldName name peer => exact hsnd (editContact L oldName name peer)
  | removeContact name => exact hsnd (removeContact L name)

/-- A run leaves the same session with a journal and without it. -/
theorem play (s : Session (σ × List Exchange)) (moves : List Move) :
    (s.play L.journaled moves).forget = s.forget.play L moves := by
  induction moves generalizing s with
  | nil => rfl
  | cons m moves ih =>
    show ((s.step L.journaled m).play L.journaled moves).forget = _
    rw [ih, step]
    rfl

end Shadows

end Session

end BillDesk
