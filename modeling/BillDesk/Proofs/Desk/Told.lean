import BillDesk.Proofs.Desk.Arrivals
import BillDesk.Proofs.Session.Work

/-!
# What the user is told

Notices are put up at the end of the board, so what the user has been told in the course of some
work is what stands behind the notices that were there before. An answer that failed is told under
the name of what was to be loaded. A bill that is open is shown as unavailable instead.

Results:
1. `Tells.trans`: what is told adds up, oldest first.
2. `tells_recordAll`: of the answers that arrive, each failure is told once, in their order.
3. `tells_checkedFor`: after an action, the user is told of a ledger that lags behind.
-/

namespace BillDesk

/-- The words for an answer that failed. -/
def Resource.failed? : Resource → Option String
  | .identity => some "Could not load identity"
  | .peerId => some "Could not load peer id"
  | .contacts => some "Could not load contacts"
  | .bills => some "Could not load bills"
  | .openBill _ => none

/-- What the user is told of an answer. -/
def Arrival.complaint? (a : Arrival) : Option (NoticeKind × String) :=
  match a.answer with
  | .ok _ => none
  | .error e =>
      a.resource.failed?.map fun failed =>
        (.error, failed ++ ": " ++ (ServiceError.ledger e).message)

/-- What the user is told when the bill does not show yet what the action has done to it. -/
def Bill.Action.unconfirmed? (a : Action) (name : String) (answer : Except LedgerError Bill) :
    Option (NoticeKind × String) :=
  match a.expectedFlag?, answer with
  | some flag, .ok b =>
      if b.status.has flag then none
      else some (.info, a.label ++ " on bill " ++ name ++ " is not confirmed by the ledger yet.")
  | _, _ => none

namespace Desk

/-- From `d` to `d'` the user is told this, oldest first. What stood on the board stays there. -/
def Tells (d d' : Desk) (told : List (NoticeKind × String)) : Prop :=
  ∃ new, d'.board.notices = d.board.notices ++ new ∧ new.map Notice.entry = told

section Tells

variable {d d' d'' : Desk}

theorem tells_nothing (h : d'.board = d.board) : d.Tells d' [] :=
  ⟨[], by rw [h, List.append_nil], rfl⟩

theorem tells_notify (d : Desk) (kind : NoticeKind) (text : String) :
    d.Tells (d.notify kind text) [(kind, text)] := ⟨[_], rfl, rfl⟩

theorem Tells.trans {told told' : List (NoticeKind × String)} (h : d.Tells d' told)
    (h' : d'.Tells d'' told') : d.Tells d'' (told ++ told') := by
  obtain ⟨new, hnew, rfl⟩ := h
  obtain ⟨new', hnew', rfl⟩ := h'
  exact ⟨new ++ new', by rw [hnew', hnew, List.append_assoc], List.map_append⟩

end Tells

/-- An answer that failed is told once. -/
theorem tells_record (d : Desk) (a : Arrival) :
    d.Tells (a.resource.record d a.answer) a.complaint?.toList := by
  rcases a with ⟨r, answer⟩
  cases r with
  | identity | peerId | contacts | bills =>
    cases answer with
    | ok => exact tells_nothing rfl
    | error e => exact tells_notify d _ _
  | openBill name =>
    have hquiet : (Arrival.mk (.openBill name) answer).complaint? = none := by
      cases answer <;> rfl
    have hboard : ((Resource.openBill name).record d answer).board = d.board := by
      rw [Resource.record, setSnapshot_snd]
    rw [hquiet]
    exact tells_nothing hboard

theorem tells_recordAll (d : Desk) (as : List Arrival) :
    d.Tells (d.recordAll as) (as.filterMap Arrival.complaint?) := by
  induction as generalizing d with
  | nil => exact tells_nothing rfl
  | cons a as ih =>
    have htold := (tells_record d a).trans (ih (a.resource.record d a.answer))
    have hcomplaints : (a :: as).filterMap Arrival.complaint? =
        a.complaint?.toList ++ as.filterMap Arrival.complaint? := by
      rw [List.filterMap_cons]
      cases a.complaint? <;> rfl
    rw [hcomplaints]
    exact htold

/-- The check whether the ledger has caught up leaves all but the board as it is. -/
theorem checkedFor_eq (d : Desk) (name : String) (a : Bill.Action) :
    d.checkedFor name a = { d with board := (d.checkedFor name a).board } := by
  unfold checkedFor
  split
  · split <;> rfl
  · rfl

theorem tells_checkedFor {d : Desk} {name : String} {answer : Except LedgerError Bill}
    (h : d.openBill? = some ⟨name, .ofAnswer answer⟩) (a : Bill.Action) :
    d.Tells (d.checkedFor name a) (a.unconfirmed? name answer).toList := by
  have hloaded : Session.openLoaded? d name = answer.toOption := by
    rw [Session.openLoaded?, h]
    cases answer <;> simp [Bill.Snapshot.ofAnswer, Bill.Snapshot.bill?, Except.toOption]
  rcases hflag : a.expectedFlag? with _ | flag
  · simp only [checkedFor, Bill.Action.unconfirmed?, hflag]
    exact tells_nothing rfl
  rcases answer with e | b
  · simp only [checkedFor, Bill.Action.unconfirmed?, hloaded, hflag, Except.toOption]
    exact tells_nothing rfl
  · simp only [checkedFor, Bill.Action.unconfirmed?, hloaded, hflag, Except.toOption]
    by_cases hflagged : b.status.has flag = true
    · rw [if_pos hflagged, if_pos hflagged]
      exact tells_nothing rfl
    · rw [if_neg hflagged, if_neg hflagged]
      exact tells_notify d _ _

end Desk

end BillDesk
