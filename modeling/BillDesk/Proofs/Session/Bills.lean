import BillDesk.Proofs.Desk.History
import BillDesk.Proofs.Portfolio.NewestFirst
import BillDesk.Proofs.Session.Steady

/-!
# The bills over a run

The bills on the desk are fetched for a view, and each view hears of the answers that come while it
stands. The answer with which it falls is lost, and so is every later one, even where the ledger
has given it. So the journal of the ledger does not say what is on the desk, but the journal and the
views together do: there are the bills that a view has heard of last, newest first.

Results:
1. `heard_append`: what a view hears of exchanges, one after the other.
2. `keepsUp_refetch` and `links_keepsUp`: what every fetch and every operation does to the bills.
3. `bills_playFor`: the bills after a run of operations, each for a view of its own.
4. `journal_playFor`: what is heard is part of what was answered, and all of it where no view falls.
-/

namespace BillDesk

variable {σ : Type}

/-! ## What a view hears -/

/-- The list of bills that an exchange brings. -/
def Exchange.bills? : Exchange → Option (List Bill)
  | asked .bills (.ok bs) => some bs
  | _ => none

/-- An arrival writes the bills that it brings, newest first. -/
theorem bills_record (d : Desk) (a : Arrival) :
    (a.resource.record d a.answer).bills =
      (a.exchange.bills?.map Portfolio.newestFirst).getD d.bills := by
  rcases a with ⟨r, answer⟩
  cases r with
  | identity | peerId | contacts | bills => cases answer <;> rfl
  | openBill name =>
    show (d.setSnapshot name (Bill.Snapshot.ofAnswer answer)).2.bills = d.bills
    rw [Desk.setSnapshot_snd]

namespace Watch

variable {w : Watch}

/-- The watch after the answers of some exchanges. -/
def after (w : Watch) (es : List Exchange) : Watch := es.foldl (fun w _ => w.tick) w

/-- The exchanges that a view hears of. The answer with which it falls is lost, with all that comes
after it. -/
def heard : Watch → List Exchange → List Exchange
  | _, [] => []
  | w, e :: es => if w.tick.standing then e :: w.tick.heard es else []

theorem after_cons (w : Watch) (e : Exchange) (es : List Exchange) :
    w.after (e :: es) = w.tick.after es := rfl

theorem after_append (w : Watch) (es fs : List Exchange) :
    w.after (es ++ fs) = (w.after es).after fs := List.foldl_append

/-- What has fallen stays fallen. -/
theorem standing_tick_of_fallen (h : w.standing = false) : w.tick.standing = false := by
  unfold tick
  split
  · exact h
  · split
    · rfl
    · exact h

theorem heard_of_fallen (h : w.standing = false) (es : List Exchange) : w.heard es = [] := by
  cases es with
  | nil => rfl
  | cons e es => rw [heard, standing_tick_of_fallen h, if_neg Bool.false_ne_true]

theorem standing_after_of_fallen (h : w.standing = false) (es : List Exchange) :
    (w.after es).standing = false := by
  induction es generalizing w with
  | nil => exact h
  | cons e es ih => exact ih (standing_tick_of_fallen h)

theorem heard_append (w : Watch) (es fs : List Exchange) :
    w.heard (es ++ fs) = w.heard es ++ (w.after es).heard fs := by
  induction es generalizing w with
  | nil => rfl
  | cons e es ih =>
    rw [List.cons_append, heard, heard, after_cons]
    by_cases h : w.tick.standing = true
    · rw [if_pos h, if_pos h, ih, List.cons_append]
    · have hfallen := standing_after_of_fallen (Bool.not_eq_true _ ▸ h) es
      rw [if_neg h, if_neg h, heard_of_fallen hfallen, List.nil_append]

theorem heard_sublist (w : Watch) (es : List Exchange) : (w.heard es).Sublist es := by
  induction es generalizing w with
  | nil => exact .slnil
  | cons e es ih =>
    rw [heard]
    split
    · exact (ih _).cons_cons e
    · exact List.nil_sublist _

/-- A view that stays open hears everything. -/
theorem heard_of_open (es : List Exchange) : ({} : Watch).heard es = es := by
  induction es with
  | nil => rfl
  | cons e es ih => exact congrArg (e :: ·) ih

end Watch

namespace Session

variable {s s' s'' : Session (σ × List Exchange)}

/-! ## What a piece of work does to the bills -/

/-- The session `s'` comes from `s` by exchanges that its journal has. The watch has gone on with
each of them, and the bills are those that the view has heard of last, if it has heard of any. -/
def KeepsUp (s s' : Session (σ × List Exchange)) : Prop :=
  ∃ es, s'.ledger.2 = s.ledger.2 ++ es ∧ s'.watch = s.watch.after es ∧
    s'.desk.bills = ((lastWritten Exchange.bills? (s.watch.heard es)).map
      Portfolio.newestFirst).getD s.desk.bills

namespace KeepsUp

/-- What does not concern the bills may be done to the desk. -/
theorem of_bills_eq {d : Desk} (hd : d.bills = s.desk.bills) : KeepsUp s { s with desk := d } :=
  ⟨[], (List.append_nil _).symm, rfl, hd⟩

theorem refl (s : Session (σ × List Exchange)) : KeepsUp s s := of_bills_eq rfl

theorem trans (h : KeepsUp s s') (h' : KeepsUp s' s'') : KeepsUp s s'' := by
  obtain ⟨es, hjournal, hwatch, hbills⟩ := h
  obtain ⟨fs, hjournal', hwatch', hbills'⟩ := h'
  refine ⟨es ++ fs, ?_, ?_, ?_⟩
  · rw [hjournal', hjournal, List.append_assoc]
  · rw [hwatch', hwatch, Watch.after_append]
  · rw [hbills', hbills, hwatch, Watch.heard_append, lastWritten_append]
    cases lastWritten Exchange.bills? ((s.watch.after es).heard fs) <;> rfl

/-- An exchange that brings no bills leaves them as they are. -/
theorem of_exchange {e : Exchange} (he : e.bills? = none) (t : σ) :
    KeepsUp s { s with watch := s.watch.tick, ledger := (t, s.ledger.2 ++ [e]) } := by
  refine ⟨[e], rfl, rfl, ?_⟩
  rw [lastWritten_eq_none]
  · rfl
  · intro e' he'
    rw [List.mem_singleton.1 ((s.watch.heard_sublist [e]).subset he')]
    exact he

end KeepsUp

/-! ## Operations -/

variable (L : Ledger σ)

theorem keepsUp_refetch (r : Resource) (s : Session (σ × List Exchange)) :
    KeepsUp s (refetch L.journaled r s).2 := by
  rw [refetch_apply]
  by_cases hstands : s.watch.standing = true
  · rw [if_pos hstands]
    let arrival : Arrival := ⟨r, (L.answer r.query s.ledger.1).1⟩
    refine ⟨[arrival.exchange], rfl, rfl, ?_⟩
    by_cases hstill : s.watch.tick.standing = true
    · rw [Watch.heard, if_pos hstill, if_pos hstill]
      have hlast : lastWritten Exchange.bills? (arrival.exchange :: s.watch.tick.heard []) =
          arrival.exchange.bills? := by
        rw [Watch.heard, ← List.nil_append [_], lastWritten_snoc]
        exact Option.or_none
      rw [hlast]
      exact bills_record s.desk arrival
    · -- The view fell while the answer was awaited.
      rw [Watch.heard, if_neg hstill, if_neg hstill]
      rfl
  · rw [if_neg hstands]
    exact .refl s

/-- Every operation keeps up with what the view hears. -/
theorem links_keepsUp : Links L.journaled (KeepsUp (σ := σ)) where
  refl := .refl
  trans := .trans
  edited s e he := by
    refine .of_bills_eq ?_
    cases e with
    | openBill | closeBill | navigate | notify | dismiss => rfl
    | _ => cases he
  fetched s r := keepsUp_refetch L r s
  told s o := .of_exchange rfl _
  asked s q hq := by
    refine .of_exchange ?_ _
    cases q with
    | bills => exact absurd rfl (hq .bills)
    | _ => rfl

/-! ## Runs -/

/-- What the views of a run hear of, one after the other. -/
def heardFor (L : Ledger σ) : Session (σ × List Exchange) → List (Watch × Move) → List Exchange
  | _, [] => []
  | s, m :: ms =>
      let next := s.stepFor L.journaled m
      m.1.heard (next.ledger.2.drop s.ledger.2.length) ++ heardFor L next ms

/-- The exchanges of one operation for its view, and the bills after it. -/
theorem keepsUp_stepFor (m : Watch × Move) (s : Session (σ × List Exchange)) :
    let next := s.stepFor L.journaled m
    let since := next.ledger.2.drop s.ledger.2.length
    next.ledger.2 = s.ledger.2 ++ since ∧
      next.desk.bills = ((lastWritten Exchange.bills? (m.1.heard since)).map
        Portfolio.newestFirst).getD s.desk.bills := by
  intro next since
  obtain ⟨es, hjournal, _, hbills⟩ := (links_keepsUp L).step m.2 { s with watch := m.1 }
  have hsince : since = es := by
    show next.ledger.2.drop s.ledger.2.length = es
    rw [show next.ledger.2 = s.ledger.2 ++ es from hjournal, List.drop_left]
  rw [hsince]
  exact ⟨hjournal, hbills⟩

/-- After a run the desk has the bills that a view has heard of last, or those that it had. -/
theorem bills_playFor (s : Session (σ × List Exchange)) (moves : List (Watch × Move)) :
    (s.playFor L.journaled moves).desk.bills =
      ((lastWritten Exchange.bills? (heardFor L s moves)).map
        Portfolio.newestFirst).getD s.desk.bills := by
  induction moves generalizing s with
  | nil => rfl
  | cons m moves ih =>
    show ((s.stepFor L.journaled m).playFor L.journaled moves).desk.bills = _
    rw [ih, (keepsUp_stepFor L m s).2, heardFor, lastWritten_append]
    cases lastWritten Exchange.bills? (heardFor L (s.stepFor L.journaled m) moves) <;> rfl

/-- The journal goes on with what the views hear of, and with what is lost on them. -/
theorem journal_playFor (s : Session (σ × List Exchange)) (moves : List (Watch × Move)) :
    ∃ since, (s.playFor L.journaled moves).ledger.2 = s.ledger.2 ++ since ∧
      (heardFor L s moves).Sublist since ∧
      ((∀ m ∈ moves, m.1 = {}) → heardFor L s moves = since) := by
  induction moves generalizing s with
  | nil => exact ⟨[], (List.append_nil _).symm, .slnil, fun _ => rfl⟩
  | cons m moves ih =>
    let next := s.stepFor L.journaled m
    let first := next.ledger.2.drop s.ledger.2.length
    have hfirst : next.ledger.2 = s.ledger.2 ++ first := (keepsUp_stepFor L m s).1
    obtain ⟨rest, hrest, hsublist, hopen⟩ := ih next
    refine ⟨first ++ rest, ?_, (m.1.heard_sublist first).append hsublist, ?_⟩
    · show (next.playFor L.journaled moves).ledger.2 = _
      rw [hrest, hfirst, List.append_assoc]
    · intro hmoves
      obtain ⟨hm, hmoves⟩ := List.forall_mem_cons.1 hmoves
      show m.1.heard first ++ heardFor L next moves = first ++ rest
      rw [hm, Watch.heard_of_open, hopen hmoves]

end Session

end BillDesk
