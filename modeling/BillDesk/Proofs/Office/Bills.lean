import BillDesk.Proofs.Office.Basic
import BillDesk.Proofs.Session.Bills

/-!
# The bills on the desk

Only what arrives for a view that stands is written to the desk. So whatever happens there, with
one view or with many, and whatever the ledger answers, the bills are those of the last list that
came through, in the order newest first. A fetch that failed leaves them as they were, and so does
one that was lost on a view that had fallen.

Results:
1. `bills_play`: the bills of an office after a run.
2. `bills_stand_newest_first`: the order of the bills, in every list and at every desk.
-/

namespace BillDesk

namespace Office

/-- The list of bills that an event brings to the desk: it is written, after it was handed back to a
view that stood. -/
def brought? (s : Office) (e : Event) : Option (List Bill) :=
  (s.written? e).bind fun d => d.arrival.exchange.bills?

/-- The lists of bills that a run brings to the desk, oldest first. -/
def brought : Office → List Event → List (List Bill)
  | _, [] => []
  | s, e :: es => (s.brought? e).toList ++ (s.step e).brought es

theorem bills_step (s : Office) (e : Event) :
    (s.step e).desk.bills = ((s.brought? e).map Portfolio.newestFirst).getD s.desk.bills := by
  cases e with
  | enter | takeToken | cloneToken | fall | openBill | closeBill | navigate => rfl
  | ask | arrive =>
    rw [step]
    split <;> rfl
  | write place =>
    rw [brought?, written?]
    cases hwaits : s.handed[place]? with
    | none => rw [step_write_of_length_le (List.getElem?_eq_none_iff.1 hwaits)]; rfl
    | some d =>
      rw [step_write hwaits]
      exact bills_record s.desk d.arrival

/-- After a run the desk has the bills of the last list that was brought, or those that it had. -/
theorem bills_play (s : Office) (es : List Event) :
    (s.play es).desk.bills =
      ((s.brought es).getLast?.map Portfolio.newestFirst).getD s.desk.bills := by
  induction es generalizing s with
  | nil => rfl
  | cons e es ih =>
    show ((s.step e).play es).desk.bills = _
    rw [ih, bills_step, brought, List.getLast?_append]
    cases ((s.step e).brought es).getLast? with
    | some bs => rfl
    | none => cases s.brought? e <;> rfl

end Office

open Portfolio in
/-- Bills are compared by a total preorder, whatever is written for their dates: bills of one day
are equal in it, and so are bills without a day. Every list is sorted into this order. Bills whose
day can be read come first, no bill comes before a newer one, and bills of one day, or without one,
stay in the order that they had. Sorting a second time changes nothing. After every run, of a
session or of views that work at once, and whatever the ledger answers, the bills on the desk are in
this order. They are those of the last list that was fetched for a view that stood. In a session
whose views stay open, that is the last list in the journal. -/
theorem bills_stand_newest_first :
    (∀ a, issueOrder a a = .eq) ∧
    (∀ a b, (issueOrder a b).swap = issueOrder b a) ∧
    (∀ a b c, issueOrder a b ≠ .gt → issueOrder b c ≠ .gt → issueOrder a c ≠ .gt) ∧
    (∀ a b, issueOrder a b = .eq ↔ a.issueDate? = b.issueDate?) ∧
    (∀ a b, mayPrecede a b = true ↔ issueOrder a b ≠ .gt) ∧
    (∀ bills, (newestFirst bills).Perm bills ∧ IsNewestFirst (newestFirst bills) ∧
      (∀ date? : Option Date, (newestFirst bills).filter (fun b => b.issueDate? = date?) =
        bills.filter fun b => b.issueDate? = date?) ∧
      newestFirst (newestFirst bills) = newestFirst bills) ∧
    (∀ (σ : Type) (L : Ledger σ) (t : σ) (moves : List (Watch × Move)),
      let s : Session (σ × List Exchange) := { ledger := (t, []) }
      let done := s.playFor L.journaled moves
      let heard := Session.heardFor L s moves
      let fetched := (lastWritten Exchange.bills? heard).getD []
      done.desk.bills = newestFirst fetched ∧ IsNewestFirst done.desk.bills ∧
        done.desk.bills.Perm fetched ∧ heard.Sublist done.ledger.2 ∧
        ((∀ m ∈ moves, m.1 = {}) → heard = done.ledger.2)) ∧
    ∀ es : List Office.Event,
      let done := ({} : Office).play es
      let fetched := (({} : Office).brought es).getLast?.getD []
      done.desk.bills = newestFirst fetched ∧ IsNewestFirst done.desk.bills ∧
        done.desk.bills.Perm fetched := by
  -- Where nothing was fetched there is no bill, as there is none on the empty list.
  have hnone : ∀ fetched? : Option (List Bill),
      (fetched?.map newestFirst).getD [] = newestFirst (fetched?.getD []) := by
    intro fetched?
    cases fetched? with
    | none => exact List.mergeSort_nil.symm
    | some bs => rfl
  refine ⟨issueOrder_self, swap_issueOrder, fun _ _ _ => issueOrder_trans,
    fun _ _ => issueOrder_eq_eq_iff, fun _ _ => mayPrecede_iff, ?_, ?_, ?_⟩
  · intro bills
    exact ⟨newestFirst_perm bills, isNewestFirst_newestFirst bills,
      fun date? => filter_newestFirst date? bills, newestFirst_newestFirst bills⟩
  · intro σ L t moves s done heard fetched
    have hbills : done.desk.bills = newestFirst fetched :=
      (Session.bills_playFor L s moves).trans (hnone _)
    obtain ⟨since, hjournal, hsublist, hopen⟩ := Session.journal_playFor L s moves
    have hsince : done.ledger.2 = since := hjournal
    rw [hbills, hsince]
    exact ⟨rfl, isNewestFirst_newestFirst _, newestFirst_perm _, hsublist, hopen⟩
  · intro es done fetched
    have hbills : done.desk.bills = newestFirst fetched :=
      (Office.bills_play {} es).trans (hnone _)
    rw [hbills]
    exact ⟨rfl, isNewestFirst_newestFirst _, newestFirst_perm _⟩

/-- A bill of the far future. As a text, its day comes before every day with a year of four
digits. -/
def farBill : Bill := { exampleBill with name := "bill-3", dateOfIssue := "+10000-01-01" }

def undatedBill : Bill := { exampleBill with name := "bill-4", dateOfIssue := "soon" }

/-- A ledger that answers with one bill the first time, and with one more from then on. -/
def Ledger.growing : Ledger Nat where
  answer
    | .bills, 0 => (.ok [exampleBill], 1)
    | .bills, n + 1 => (.ok [exampleBill, farBill], n + 2)
    | _, n => (.error .noAnswer, n)
  obey _ n := (.error .noAnswer, n)

open Portfolio in
/-- The second list is lost where the view falls with it, and otherwise it is put in order. -/
theorem bills_stand_newest_first_secondList :
    let s : Session (Nat × List Exchange) := { ledger := (0, []) }
    let fetchFor (w : Watch) : Watch × Move := (w, .refresh .billIssued)
    let lost := s.playFor Ledger.growing.journaled [fetchFor {}, fetchFor { fallsAfter := some 1 }]
    let kept := s.playFor Ledger.growing.journaled [fetchFor {}, fetchFor {}]
    (issueOrder farBill exampleBill ≠ .gt ∧ issueOrder exampleBill undatedBill ≠ .gt ∧
      issueOrder farBill undatedBill ≠ .gt) ∧
    lost.desk.bills = [exampleBill] ∧ lost.ledger.1 = 2 ∧
    kept.desk.bills = [farBill, exampleBill] ∧
    Session.heardFor Ledger.growing s [fetchFor {}, fetchFor {}] = kept.ledger.2 := by
  intro s fetchFor lost kept
  obtain ⟨_, _, htrans, _, _, _, hsession, _⟩ := bills_stand_newest_first
  have hfar : issueOrder farBill exampleBill ≠ .gt := by decide
  have hundated : issueOrder exampleBill undatedBill ≠ .gt := by decide
  obtain ⟨hlost, _⟩ :=
    hsession Nat Ledger.growing 0 [fetchFor {}, fetchFor { fallsAfter := some 1 }]
  obtain ⟨hkept, _, _, _, hopen⟩ := hsession Nat Ledger.growing 0 [fetchFor {}, fetchFor {}]
  have hone : newestFirst [exampleBill] = [exampleBill] := List.mergeSort_singleton _
  have hlater : mayPrecede exampleBill farBill = false := by decide
  have htwo : newestFirst [exampleBill, farBill] = [farBill, exampleBill] := by
    simp [newestFirst, List.mergeSort, List.MergeSort.Internal.splitInTwo, hlater]
  have hviews : ∀ m ∈ [fetchFor {}, fetchFor {}], m.1 = {} := by
    intro m hm
    simp only [List.mem_cons, List.not_mem_nil, or_false, or_self] at hm
    rw [hm]
  exact ⟨⟨hfar, hundated, htrans _ _ _ hfar hundated⟩, hlost.trans hone, rfl, hkept.trans htwo,
    hopen hviews⟩

end BillDesk
