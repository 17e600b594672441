import BillDesk.Proofs.Session.Links

/-!
# Runs for views that may fall

In a run like this, every operation works for a view of its own, which may have fallen before it or
fall in the midst of it. What is asked for is then written or dropped, so less is kept than in a
view that stays open: each call of the ledger is followed by its answer or by nothing.

Results:
1. `Steady.playFor`: what every call of the ledger keeps, whether its answer is written or dropped,
   holds after every such run.
2. `steady_fetched`: a loaded bill is on screen only if the ledger has answered with it.
-/

namespace BillDesk.Session

variable {σ : Type}

/-- An operation for a view of its own. -/
def stepFor (L : Ledger σ) (s : Session σ) (m : Watch × Move) : Session σ :=
  step L { s with watch := m.1 } m.2

/-- The session after operations, each for a view of its own. -/
def playFor (L : Ledger σ) (s : Session σ) (moves : List (Watch × Move)) : Session σ :=
  moves.foldl (stepFor L) s

/-- What holds of the open bill and the ledger is kept by every call of the ledger, and by writing
what it answers. -/
structure Steady (L : Ledger σ) (I : Option OpenBill → σ → Prop) : Prop where
  closed {o t} : I o t → I none t
  opened {o t} (name : String) : I o t → I (some ⟨name, .loading⟩) t
  asked {o t} (q : Query) : I o t → I o (L.answer q t).2
  shown {name snap t} : I (some ⟨name, snap⟩) t →
    I (some ⟨name, .ofAnswer (L.answer (.bill name) t).1⟩) (L.answer (.bill name) t).2
  told {o t} (order : Order) : I o t → I o (L.obey order t).2

/-- `I` holds of the open bill and the ledger, whatever becomes of the view. -/
def Meets (I : Option OpenBill → σ → Prop) (s : Session σ) : Prop := I s.desk.openBill? s.ledger

namespace Steady

variable {L : Ledger σ} {I : Option OpenBill → σ → Prop} {s : Session σ}

theorem refetch (hs : Steady L I) (h : s.Meets I) (r : Resource) :
    (refetch L r s).2.Meets I := by
  rw [refetch_apply]
  by_cases hnow : s.watch.standing = true
  · rw [if_pos hnow]
    by_cases hthen : s.watch.tick.standing = true
    · rw [if_pos hthen]
      by_cases hr : ∃ x, s.desk.openBill? = some x ∧ r = .openBill x.name
      · obtain ⟨⟨name, snap⟩, hopen, rfl⟩ := hr
        rw [Meets, hopen] at h
        rw [Meets, openBill?_record_openBill, hopen]
        simpa using hs.shown h
      · rw [Meets, openBill?_record fun x hx hrx => hr ⟨x, hx, hrx⟩]
        exact hs.asked r.query h
    · -- The view fell while the answer was awaited.
      rw [if_neg hthen]
      exact hs.asked r.query h
  · rw [if_neg hnow]
    exact h

/-- What holds before an operation holds after it. -/
theorem links (hs : Steady L I) : Links L fun s s' => s.Meets I → s'.Meets I where
  refl _ h := h
  trans h h' hI := h' (h hI)
  edited s e he h := by
    cases e with
    | openBill name => exact hs.opened name h
    | closeBill => exact hs.closed h
    | navigate | notify | dismiss => exact h
    | _ => cases he
  fetched s r h := hs.refetch h r
  told s o h := hs.told o h
  asked s q _ h := hs.asked q h

theorem stepFor (hs : Steady L I) (h : s.Meets I) (m : Watch × Move) :
    (stepFor L s m).Meets I :=
  hs.links.step m.2 { s with watch := m.1 } h

theorem playFor (hs : Steady L I) (h : s.Meets I)
    (moves : List (Watch × Move)) :
    (playFor L s moves).Meets I := by
  induction moves generalizing s with
  | nil => exact h
  | cons m moves ih => exact ih (hs.stepFor h m)

end Steady

/-! ## A loaded bill was fetched -/

/-- The bill that is shown as loaded is what the ledger has answered for its name, since a point of
the journal. -/
def FetchedSince (before : List Exchange) (o? : Option OpenBill) (t : σ × List Exchange) : Prop :=
  ∃ since, t.2 = before ++ since ∧
    ∀ name b, o? = some ⟨name, .loaded b⟩ → .asked (.bill name) (.ok b) ∈ since

theorem FetchedSince.journal {before : List Exchange} {o? : Option OpenBill}
    {t t' : σ × List Exchange} (h : FetchedSince before o? t) {e : Exchange}
    (ht : t'.2 = t.2 ++ [e]) : FetchedSince before o? t' := by
  obtain ⟨since, hsince, hfetched⟩ := h
  refine ⟨since ++ [e], by rw [ht, hsince, List.append_assoc], fun name b hopen => ?_⟩
  exact List.mem_append_left _ (hfetched name b hopen)

theorem steady_fetched (L : Ledger σ) (before : List Exchange) :
    Steady L.journaled (FetchedSince before) where
  closed := fun ⟨since, hsince, _⟩ => ⟨since, hsince, by simp⟩
  opened := fun _ ⟨since, hsince, _⟩ => ⟨since, hsince, by simp⟩
  asked := fun _ h => h.journal rfl
  told := fun _ h => h.journal rfl
  shown := by
    rintro name snap t ⟨since, hsince, _⟩
    let answer := (L.answer (.bill name) t.1).1
    refine ⟨since ++ [.asked (.bill name) answer], ?_, ?_⟩
    · show t.2 ++ _ = _
      rw [hsince, List.append_assoc]
    · intro name' b hopen
      obtain ⟨rfl, hsnap⟩ := OpenBill.mk.inj (Option.some.inj hopen)
      have hanswer : answer = .ok b := Bill.Snapshot.ofAnswer_eq_loaded.1 hsnap
      rw [hanswer]
      exact List.mem_append_right _ (List.mem_singleton_self _)

end BillDesk.Session
