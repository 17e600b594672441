import BillDesk.Proofs.Session.Projection

/-!
# The journal of a ledger

A ledger with a journal answers like the ledger itself and writes down every exchange, oldest
first. What the client asked and told in the course of its work is read off the journal.

Results:
1. `forgetting`: leaving the journal aside is a projection. So with or without it, a piece of work
   has the same result and leaves the same desk, view and ledger, which is what `Shadows` says.
2. `journal_refetchAll`: fetching asks and never tells, whatever becomes of the view.
-/

namespace BillDesk

variable {σ α : Type}

/-- A call of the ledger with its answer. -/
inductive Exchange where
  | asked (query : Query) (answer : Except LedgerError query.Answer)
  | told (order : Order) (answer : Except LedgerError Unit)

def Exchange.isAsk : Exchange → Bool
  | asked .. => true
  | told .. => false

/-- The exchange in which something arrived. -/
def Arrival.exchange (a : Arrival) : Exchange := .asked a.resource.query a.answer

/-- The ledger with a journal, oldest exchange first. -/
def Ledger.journaled (L : Ledger σ) : Ledger (σ × List Exchange) where
  answer q t := ((L.answer q t.1).1, (L.answer q t.1).2, t.2 ++ [.asked q (L.answer q t.1).1])
  obey o t := ((L.obey o t.1).1, (L.obey o t.1).2, t.2 ++ [.told o (L.obey o t.1).1])

namespace Session

variable (L : Ledger σ)

@[simp]
theorem answer_journaled (q : Query) (t : σ × List Exchange) :
    L.journaled.answer q t =
      ((L.answer q t.1).1, (L.answer q t.1).2, t.2 ++ [.asked q (L.answer q t.1).1]) := rfl

@[simp]
theorem obey_journaled (o : Order) (t : σ × List Exchange) :
    L.journaled.obey o t =
      ((L.obey o t.1).1, (L.obey o t.1).2, t.2 ++ [.told o (L.obey o t.1).1]) := rfl

/-! ## The journal only watches -/

/-- The session without its journal. -/
def forget (s : Session (σ × List Exchange)) : Session σ where
  desk := s.desk
  watch := s.watch
  ledger := s.ledger.1

/-- Leaving the journal aside is a projection. -/
def forgetting : Projection L.journaled L where
  desk := id
  state := Prod.fst
  value _ := id
  answer_state q t := by
    rw [answer_journaled]
    exact Prod.ext (congrFun Except.map_id _).symm rfl
  obey_state _ _ := rfl
  openBill?_desk _ := rfl
  peer?_desk _ := rfl
  contacts_desk _ := rfl
  startPage_desk _ := rfl
  notify_desk _ _ _ := rfl
  navigate_desk _ _ := rfl
  openBill_desk _ _ := rfl
  record_desk d r answer := congrArg (r.record d) (congrFun Except.map_id answer)

/-- `w` is the work `v` with a journal: it has the same result and, the journal left aside, leaves
the same session. -/
def Shadows (w : Work (σ × List Exchange) α) (v : Work σ α) : Prop :=
  ∀ s, v s.forget = ((w s).1, (w s).2.forget)

namespace Shadows

theorem of_carries {w : Work (σ × List Exchange) α} {v : Work σ α}
    (h : (forgetting L).Carries w v) : Shadows w v := h

theorem refresh (o : Occasion) : Shadows (Session.refresh L.journaled o) (Session.refresh L o) :=
  of_carries L ((forgetting L).carries_refresh o)

theorem start : Shadows (Session.start L.journaled) (Session.start L) :=
  of_carries L (forgetting L).carries_start

theorem openBill (name : String) :
    Shadows (Session.openBill L.journaled name) (Session.openBill L name) :=
  of_carries L ((forgetting L).carries_openBill name)

theorem execute (r : Bill.Request) :
    Shadows (Session.execute L.journaled r) (Session.execute L r) :=
  of_carries L ((forgetting L).carries_execute r)

theorem make (c : Change) (order : Except FormError Order) :
    Shadows (Session.make L.journaled c order) (Session.make L c order) :=
  of_carries L ((forgetting L).carries_make c order)

theorem addContact (name : String) (peer : PeerId) :
    Shadows (Session.addContact L.journaled name peer) (Session.addContact L name peer) :=
  of_carries L ((forgetting L).carries_addContact name peer)

theorem editContact (oldName name : String) (peer : PeerId) :
    Shadows (Session.editContact L.journaled oldName name peer)
      (Session.editContact L oldName name peer) :=
  of_carries L ((forgetting L).carries_editContact oldName name peer)

theorem removeContact (name : String) :
    Shadows (Session.removeContact L.journaled name) (Session.removeContact L name) :=
  of_carries L ((forgetting L).carries_removeContact name)

theorem look (q : Query) (failure : String) :
    Shadows (Session.look L.journaled q failure) (Session.look L q failure) := by
  intro s
  have hlook := (forgetting L).look_session q failure s
  rwa [show (forgetting L).value q = id from rfl, Option.map_id_fun] at hlook

end Shadows

/-! ## Fetching asks and never tells -/

theorem journal_refetch (r : Resource) (s : Session (σ × List Exchange)) :
    ∃ asked, (refetch L.journaled r s).2.ledger.2 = s.ledger.2 ++ asked ∧
      ∀ e ∈ asked, e.isAsk = true := by
  rw [refetch_apply]
  by_cases h : s.watch.standing = true
  · exact ⟨[.asked r.query (L.answer r.query s.ledger.1).1], by simp [h], by simp [Exchange.isAsk]⟩
  · exact ⟨[], by simp [h], by simp⟩

theorem journal_refetchAll (rs : List Resource) (s : Session (σ × List Exchange)) :
    ∃ asked, (refetchAll L.journaled rs s).2.ledger.2 = s.ledger.2 ++ asked ∧
      ∀ e ∈ asked, e.isAsk = true := by
  induction rs generalizing s with
  | nil => exact ⟨[], (List.append_nil _).symm, by simp⟩
  | cons r rs ih =>
    obtain ⟨first, hfirst, hask⟩ := journal_refetch L r s
    obtain ⟨rest, hrest, hasks⟩ := ih (refetch L.journaled r s).2
    refine ⟨first ++ rest, ?_, ?_⟩
    · rw [refetchAll_cons, hrest, hfirst, List.append_assoc]
    · intro e he
      rcases List.mem_append.1 he with h | h
      · exact hask e h
      · exact hasks e h

/-- What arrives does not depend on the journal, which has all of it. -/
theorem arrivals_journaled (rs : List Resource) (t : σ × List Exchange) :
    L.journaled.arrivals rs t =
      ((L.arrivals rs t.1).1, (L.arrivals rs t.1).2,
        t.2 ++ (L.arrivals rs t.1).1.map Arrival.exchange) := by
  induction rs generalizing t with
  | nil => simp [Ledger.arrivals]
  | cons r rs ih => simp [Ledger.arrivals, ih, Arrival.exchange]

/-- After an action that the ledger took, nothing more is told. -/
theorem journal_afterSubmission (name : String) (a : Bill.Action)
    (s : Session (σ × List Exchange)) :
    ∃ asked, (afterSubmission L.journaled name a s).2.ledger.2 = s.ledger.2 ++ asked ∧
      ∀ e ∈ asked, e.isAsk = true := by
  rw [afterSubmission_apply]
  exact journal_refetchAll L _ _

end Session

end BillDesk
