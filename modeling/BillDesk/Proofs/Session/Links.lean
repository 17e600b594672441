import BillDesk.Proofs.Desk.Arrivals
import BillDesk.Proofs.Session.Run

/-!
# What every operation links

Every operation is put together of few pieces: the desk is edited, a resource is fetched, an order
is told, and something that is not kept is asked for. A relation may say how a session and the one
that comes out of it belong together. If each piece links them so, and the links can be chained,
then every operation does, whatever becomes of the view and whatever the ledger answers.

Results:
1. `Links.execute`, `Links.make` and `Links.look`: the operations on the ledger.
2. `Links.step`: every operation.
-/

namespace BillDesk.Session

variable {σ : Type}

/-- Every piece of an operation links the session before it to the session after it. -/
structure Links (L : Ledger σ) (R : Session σ → Session σ → Prop) : Prop where
  refl (s : Session σ) : R s s
  trans {s s' s'' : Session σ} : R s s' → R s' s'' → R s s''
  /-- The desk is edited by the client alone, not with what was fetched. -/
  edited (s : Session σ) {e : Desk.Edit} (he : e.source? = none) :
    R s { s with desk := s.desk.edit e }
  fetched (s : Session σ) (r : Resource) : R s (refetch L r s).2
  told (s : Session σ) (o : Order) : R s (tell L o s).2
  /-- What no resource stands for is asked for. -/
  asked (s : Session σ) {q : Query} (hq : ∀ r : Resource, r.query ≠ q) : R s (ask L q s).2

namespace Links

variable {L : Ledger σ} {R : Session σ → Session σ → Prop} (h : Links L R)

include h

theorem notify (s : Session σ) (kind : NoticeKind) (text : String) :
    R s { s with desk := s.desk.notify kind text } := h.edited s (e := .notify kind text) rfl

theorem navigate (s : Session σ) (p : Page) : R s { s with desk := s.desk.navigate p } :=
  h.edited s (e := .navigate p) rfl

theorem checkedFor (s : Session σ) (name : String) (a : Bill.Action) :
    R s { s with desk := s.desk.checkedFor name a } := by
  unfold Desk.checkedFor
  split
  · split
    · exact h.refl s
    · exact h.notify s _ _
  · exact h.refl s

theorem refetchAll (rs : List Resource) (s : Session σ) : R s (refetchAll L rs s).2 := by
  induction rs generalizing s with
  | nil => exact h.refl s
  | cons r rs ih => exact h.trans (h.fetched s r) (ih _)

theorem refresh (o : Occasion) (s : Session σ) : R s (refresh L o s).2 :=
  h.refetchAll o.resources s

theorem look {q : Query} (hq : ∀ r : Resource, r.query ≠ q) (failure : String) (s : Session σ) :
    R s (look L q failure s).2 := by
  rcases hanswer : (L.answer q s.ledger).1 with e | a
  · rw [look_of_failed hanswer]
    exact h.trans (h.asked s hq) (h.notify _ _ _)
  · rw [look_of_answered hanswer]
    exact h.asked s hq

theorem make (c : Change) (order : Except FormError Order) (s : Session σ) :
    R s (make L c order s).2 := by
  rcases order with e | o
  · exact h.notify s _ _
  · rcases hobey : (L.obey o s.ledger).1 with e | _
    · rw [make_of_rejected hobey]
      exact h.trans (h.told s o) (h.notify _ _ _)
    · rw [make_of_taken hobey]
      have hnotified := h.trans (h.told s o) (h.notify _ .success c.saved)
      exact h.trans (h.trans hnotified (h.refresh c.occasion _)) (h.navigate _ _)

theorem afterSubmission (name : String) (a : Bill.Action) (s : Session σ) :
    R s (afterSubmission L name a s).2 := by
  rw [afterSubmission_apply]
  have hfetched := h.trans
    (h.notify s .success (a.label ++ " was submitted for bill " ++ name ++ "."))
    (h.refresh (.billActionSucceeded name) _)
  exact h.trans hfetched (h.trans (h.checkedFor _ name a) (h.navigate _ .home))

theorem execute (r : Bill.Request) (s : Session σ) : R s (execute L r s).2 := by
  rcases hopen : s.desk.openBill? with _ | o
  · rw [execute_of_not_there (.inl hopen)]
    exact h.notify s _ _
  rcases hpeer : s.desk.peer? with _ | peer
  · rw [execute_of_not_there (.inr hpeer)]
    exact h.notify s _ _
  rcases hdispatch : r.dispatch o.snapshot peer with e | order | i
  · rw [execute_of_refused hopen hpeer hdispatch]
    exact h.notify s _ _
  · rcases hobey : (L.obey order s.ledger).1 with e | _
    · rw [execute_of_rejected hopen hpeer hdispatch hobey]
      exact h.trans (h.told s order) (h.notify _ _ _)
    · rw [execute_of_taken hopen hpeer hdispatch hobey]
      exact h.trans (h.told s order) (h.afterSubmission o.name r.action _)
  · rw [execute_of_instructed hopen hpeer hdispatch, requirePayment_apply]
    exact h.trans (h.notify s _ _) (h.navigate _ _)

/-- Every operation links the session before it to the session after it. -/
theorem step (m : Move) (s : Session σ) : R s (step L s m) := by
  cases m with
  | start =>
    rw [Session.step, start_apply]
    exact h.trans (h.refresh .startup s) (h.navigate _ _)
  | refresh o => exact h.refresh o s
  | navigate p => exact h.navigate s p
  | dismiss id => exact h.edited s (e := .dismiss id) rfl
  | openBill name =>
    rw [Session.step, openBill_apply]
    have hopened := h.trans (h.edited s (e := .openBill name) rfl) (h.navigate _ (.bill name))
    exact h.trans hopened (h.refresh (.billOpened name) _)
  | closeBill => exact h.edited s (e := .closeBill) rfl
  | chain bill => exact h.look (by rintro (_ | _) <;> simp) _ s
  | operations => exact h.look (by rintro (_ | _) <;> simp) _ s
  | execute r => exact h.execute r s
  | issue f => exact h.make issuing f.order s
  | createIdentity today f => exact h.make savingIdentity (f.createOrder today) s
  | changeIdentity today f => exact h.make savingIdentity (f.changeOrder today) s
  | addContact name peer =>
    rw [Session.step, addContact_apply]
    exact h.make savingContacts _ s
  | editContact oldName name peer =>
    rw [Session.step, editContact_apply]
    exact h.make savingContacts _ s
  | removeContact name =>
    rw [Session.step, removeContact_apply]
    exact h.make savingContacts _ s

end Links

end BillDesk.Session
