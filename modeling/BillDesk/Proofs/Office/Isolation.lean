import BillDesk.Proofs.Office.Refresh

/-!
# Views that fall while they fetch

A view may fall at any moment, also between two answers that it waits for. What arrived before is
written, what arrives later is dropped, whether it is a value or a failure. A view that has fallen
is cut off: a run goes as if the view had neither asked nor got anything since then.

Results:
1. `aside_play`: leave a fallen view out of a run, and all but its own fetches is the same.
2. `desk_cut`: what is written of a refresh that is cut.
3. `desk_refetchAll_of_fallsAfter`: what a session writes whose view falls.
4. `fall_cuts_refresh`: the guarantee for every refresh, every order and every cut.
-/

namespace BillDesk

namespace Office

/-- The view asks for something, or waits for it. -/
def Event.isUnder (token : Nat) : Event → Bool
  | ask token' _ | arrive token' _ => token' = token
  | _ => false

variable {s : Office} {token : Nat}

/-! ## A run without the view -/

/-- The office with the fetches of a token left out. -/
def aside (s : Office) (token : Nat) : Office :=
  { s with underWay := s.underWay.filter (·.token ≠ token) }

theorem aside_step_of_isUnder (h : ¬ s.Stands token) {e : Event} (he : e.isUnder token = true) :
    (s.step e).aside token = s.aside token := by
  rw [not_stands_iff] at h
  cases e with
  | ask token' r =>
    obtain rfl : token' = token := of_decide_eq_true he
    rw [step, if_pos h]
  | arrive token' a =>
    obtain rfl : token' = token := of_decide_eq_true he
    simp only [step, h, if_true]
    split
    · simp [aside, ← List.erase_filter, List.erase_of_not_mem]
    · rfl
  | _ => cases he

theorem aside_step_of_not_isUnder {e : Event} (he : e.isUnder token = false) :
    (s.step e).aside token = (s.aside token).step e := by
  cases e with
  | ask token' r =>
    have hother : token' ≠ token := of_decide_eq_false he
    cases hcancelled : s.scopes.isCancelled token' <;> simp [step, aside, hcancelled, hother]
  | arrive token' a =>
    have hother : token' ≠ token := of_decide_eq_false he
    by_cases hunderWay : ⟨a.resource, token'⟩ ∈ s.underWay
    · have hkept : ⟨a.resource, token'⟩ ∈ (s.aside token).underWay :=
        List.mem_filter.2 ⟨hunderWay, decide_eq_true hother⟩
      rw [step, if_pos hunderWay, step, if_pos hkept]
      simp only [aside]
      rw [List.erase_filter]
      rfl
    · simp [step, aside, hunderWay]
  | write place =>
    simp only [step, aside]
    split <;> rfl
  | _ => rfl

/-- What a fallen view does leaves no trace but in its own fetches. -/
theorem aside_play (h : s.HasFallen token) (es : List Event) :
    (s.play es).aside token = (s.aside token).play (es.filter fun e => !e.isUnder token) := by
  induction es using List.reverseRecOn with
  | nil => rfl
  | append_singleton es e ih =>
    rw [play_snoc, List.filter_append, play_append, ← ih]
    cases he : e.isUnder token with
    | true =>
      rw [aside_step_of_isUnder (h.play es).2 he]
      simp [he, play]
    | false =>
      rw [aside_step_of_not_isUnder he]
      simp [he, play]

/-- The desk is as if the view had done nothing since it fell. -/
theorem desk_play_of_hasFallen (h : s.HasFallen token) (es : List Event) :
    (s.play es).desk = (s.play (es.filter fun e => !e.isUnder token)).desk := by
  have hplayed := aside_play h es
  have hfiltered := aside_play h (es.filter fun e => !e.isUnder token)
  rw [List.filter_filter] at hfiltered
  simp only [Bool.and_self] at hfiltered
  have haside : ((s.play es).aside token).desk = (aside (s.play _) token).desk :=
    congrArg desk (hplayed.trans hfiltered.symm)
  exact haside

theorem play_asks_of_not_stands (h : ¬ s.Stands token) (rs : List Resource) :
    s.play (rs.map (.ask token)) = s := by
  rw [not_stands_iff] at h
  induction rs with
  | nil => rfl
  | cons r rs ih =>
    show (s.step (.ask token r)).play (rs.map (.ask token)) = s
    rw [step, if_pos h, ih]

theorem play_arrivals_of_not_stands (h : ¬ s.Stands token) (as : List Arrival) :
    (s.play (as.map (.arrive token))).desk = s.desk ∧
      (s.play (as.map (.arrive token))).handed = s.handed := by
  induction as generalizing s with
  | nil => exact ⟨rfl, rfl⟩
  | cons a as ih =>
    obtain ⟨hdesk, hhanded⟩ := step_arrive_of_not_stands h a
    have hdelivers : (Event.arrive token a).delivers token = true := decide_eq_true rfl
    have hlater : ¬ (s.step (.arrive token a)).Stands token :=
      (stands_step_of_delivers hdelivers).not.2 h
    rw [List.map_cons, play_cons, (ih hlater).1, (ih hlater).2, hdesk, hhanded]
    exact ⟨rfl, rfl⟩

/-! ## A refresh that is cut -/

/-- The office after everything that an occasion makes out of date has been asked for under the
token, where something falls between the events that bring the answers. -/
def cut (s : Office) (token : Nat) (o : Occasion) (before : List Event) (e : Scopes.Event)
    (after : List Event) : Office :=
  s.refreshed token o (before ++ .fall e :: after)

section Cut

variable {scope : Nat} {o : Occasion} {e : Scopes.Event}

/-- What arrived before the view fell is written, but for what waits in the end, and nothing else
is. -/
theorem desk_cut (hbelongs : s.scopes.Belongs token scope) (hstands : s.Stands token)
    (he : e.scope = scope) {before after : List Event}
    (hdelivers : ∀ x ∈ before ++ after, x.delivers token = true)
    (harrivals : ((before.filterMap Event.arrival?).map Arrival.resource).Subperm o.resources) :
    ∃ written, (s.cut token o before e after).desk =
        s.desk.recordAll (written.map Delivery.arrival) ∧
      (written ++ (s.cut token o before e after).handed).Perm
        (s.handed ++ (before.filterMap Event.arrival?).map (Delivery.mk token)) := by
  have hbefore : ∀ x ∈ before, x.delivers token = true :=
    fun x hx => hdelivers x (List.mem_append_left _ hx)
  have hafter : ∀ x ∈ after, x.delivers token = true :=
    fun x hx => hdelivers x (List.mem_append_right _ hx)
  obtain ⟨written, hdesk, hwritten⟩ :=
    desk_refreshed_of_delivers hstands hbefore harrivals
  -- The cut: the view stands in `reached` and has fallen one step later.
  let reached := s.refreshed token o before
  have hfallen : (reached.step (.fall e)).HasFallen token :=
    hasFallen_step_fall (belongs_play hbelongs _) he
  have hcut : s.cut token o before e after = (reached.step (.fall e)).play after := by
    rw [cut, refreshed, ← List.append_assoc, play_append, play_cons]
    rfl
  have hlate := writes_perm (reached.step (.fall e)) after
  rw [handsBack_of_not_stands hfallen.2 hafter, List.append_nil] at hlate
  refine ⟨written ++ (reached.step (.fall e)).writes after, ?_, ?_⟩
  · rw [hcut, desk_play_of_delivers hafter, List.map_append, Desk.recordAll_append, ← hdesk]
    rfl
  · rw [hcut, List.append_assoc]
    exact (hlate.append_left written).trans hwritten

/-- Where every answer is written before the next one arrives, the desk is what arrived before the
view fell. -/
theorem desk_cut_promptly (hbelongs : s.scopes.Belongs token scope) (hstands : s.Stands token)
    (he : e.scope = scope) {done : List Arrival}
    (hdone : (done.map Arrival.resource).Subperm o.resources) (late : List Arrival) :
    (s.cut token o (promptly s.handed.length token done) e (late.map (.arrive token))).desk =
      s.desk.recordAll done := by
  let reached := (s.asked token o).play (promptly s.handed.length token done)
  have hfallen : (reached.step (.fall e)).HasFallen token :=
    hasFallen_step_fall (belongs_play (s := s.asked token o) hbelongs _) he
  calc
    _ = ((reached.step (.fall e)).play (late.map (.arrive token))).desk := by
        rw [cut, refreshed_of_stands hstands, play_append]
        rfl
    _ = reached.desk := (play_arrivals_of_not_stands hfallen.2 _).1
    _ = s.desk.recordAll done := (play_promptly (hstands.asked o) (subperm_underWay hdone)).1

end Cut

end Office

/-! ## A session whose view falls -/

namespace Session

variable {σ : Type} (L : Ledger σ)

theorem refetchAll_apply_of_fallen {s : Session σ} (h : s.watch.standing = false)
    (rs : List Resource) : refetchAll L rs s = ((), s) := by
  induction rs with
  | nil => rfl
  | cons r rs ih => rw [refetchAll_cons, refetch_apply, h, if_neg Bool.false_ne_true, ih]

/-- The answer with which the view falls is dropped, and nothing is asked after it. -/
theorem desk_refetchAll_of_fallsAfter {s : Session σ} {n : Nat}
    (h : s.watch = { fallsAfter := some n }) (rs : List Resource) :
    (refetchAll L rs s).2.desk = s.desk.recordAll (L.arrivals (rs.take (n - 1)) s.ledger).1 := by
  induction rs generalizing s n with
  | nil => simp [refetchAll, Ledger.arrivals, Desk.recordAll]
  | cons r rs ih =>
    by_cases hn : n ≤ 1
    · have htick : s.watch.tick = { standing := false } := by simp [h, Watch.tick, hn]
      have hnone : n - 1 = 0 := by omega
      have hfetched : (refetch L r s).2 =
          ⟨s.desk, { standing := false }, (L.answer r.query s.ledger).2⟩ := by
        rw [refetch_apply, htick, h]
        rfl
      rw [refetchAll_cons, refetchAll_apply_of_fallen L (by rw [hfetched]), hfetched, hnone]
      rfl
    · obtain ⟨m, rfl⟩ : ∃ m, n = m + 2 := ⟨n - 2, by omega⟩
      have htick : s.watch.tick = { fallsAfter := some (m + 1) } := by simp [h, Watch.tick]
      have hfetched : (refetch L r s).2 = ⟨r.record s.desk (L.answer r.query s.ledger).1,
          { fallsAfter := some (m + 1) }, (L.answer r.query s.ledger).2⟩ := by
        rw [refetch_apply, htick, h]
        rfl
      have hrest := ih (s := (refetch L r s).2) (n := m + 1) (by rw [hfetched])
      rw [refetchAll_cons, hrest, hfetched]
      rfl

end Session

/-! ## The guarantee -/

/-- A view may be cancelled or dropped at any point of a refresh, for every desk, occasion and order
of arrival. The desk ends as what arrived before that point leaves it, be it values or failures, in
the order in which it is written, but for what waits in the end. Where each answer is written before
the next one arrives, that is the order of arrival. With other views at work too, the desk ends as
if the view had neither asked nor got anything since then. For a view that has fallen before,
nothing is asked and nothing changes. A session, which asks for one resource after the other, writes
what it got before the answer with which its view falls. -/
theorem fall_cuts_refresh :
    -- A view alone, cut between any two events.
    (∀ (s : Office) (token scope : Nat) (o : Occasion) (before after : List Office.Event)
        (e : Scopes.Event),
      s.scopes.tokens[token]? = some scope → s.scopes.standing? scope = some .live →
      (∀ x ∈ before ++ after, x.delivers token = true) →
      ((before.filterMap Office.Event.arrival?).map Arrival.resource).Subperm o.resources →
      e.scope = scope →
      let done := s.cut token o before e after
      ∃ written, done.desk = s.desk.recordAll (written.map Delivery.arrival) ∧
        (written ++ done.handed).Perm
          (s.handed ++ (before.filterMap Office.Event.arrival?).map (Delivery.mk token))) ∧
    -- A view alone, cut between two arrivals that are written at once.
    (∀ (s : Office) (token scope : Nat) (o : Occasion) (done late : List Arrival)
        (e : Scopes.Event),
      s.scopes.tokens[token]? = some scope → s.scopes.standing? scope = some .live →
      (done.map Arrival.resource).Subperm o.resources → e.scope = scope →
      (s.cut token o (Office.promptly s.handed.length token done) e
        (late.map (.arrive token))).desk = s.desk.recordAll done) ∧
    -- A view among others, in any run.
    (∀ (s : Office) (token scope : Nat) (standing : ScopeStanding)
        (before after : List Office.Event) (e : Scopes.Event),
      s.scopes.tokens[token]? = some scope → s.scopes.standing? scope = some standing →
      e.scope = scope →
      (s.play (before ++ .fall e :: after)).desk =
        (s.play (before ++ .fall e :: after.filter fun x => !x.isUnder token)).desk) ∧
    -- A view that has fallen before it asks.
    (∀ (s : Office) (token : Nat) (o : Occasion) (as : List Arrival), ¬ s.Stands token →
      s.play (o.resources.map (.ask token)) = s ∧
        (s.refreshed token o (as.map (.arrive token))).desk = s.desk ∧
        (s.refreshed token o (as.map (.arrive token))).handed = s.handed) ∧
    (∀ (σ : Type) (L : Ledger σ) (o : Occasion) (s : Session σ), s.watch.standing = false →
      Session.refresh L o s = ((), s)) ∧
    -- A session whose view falls with the answer to its call of that number.
    ∀ (σ : Type) (L : Ledger σ) (o : Occasion) (s : Session σ) (n : Nat),
      s.watch = { fallsAfter := some n } →
      (Session.refresh L o s).2.desk =
        s.desk.recordAll (L.arrivals (o.resources.take (n - 1)) s.ledger).1 := by
  refine ⟨?_, ?_, ?_, ?_, ?_, ?_⟩
  · intro s token scope o before after e htoken hlive hdelivers harrivals he
    exact Office.desk_cut ⟨htoken, _, hlive⟩ ⟨scope, htoken, hlive⟩ he hdelivers harrivals
  · intro s token scope o done late e htoken hlive hdone he
    exact Office.desk_cut_promptly ⟨htoken, _, hlive⟩ ⟨scope, htoken, hlive⟩ he hdone late
  · intro s token scope standing before after e htoken hstanding he
    have hfallen : ((s.play before).step (.fall e)).HasFallen token :=
      Office.hasFallen_step_fall (Office.belongs_play ⟨htoken, _, hstanding⟩ before) he
    rw [Office.play_append, Office.play_append]
    exact Office.desk_play_of_hasFallen hfallen after
  · intro s token o as hfallen
    rw [Office.refreshed, Office.play_append, Office.play_asks_of_not_stands hfallen]
    exact ⟨rfl, Office.play_arrivals_of_not_stands hfallen as⟩
  · intro σ L o s hfallen
    exact Session.refetchAll_apply_of_fallen L hfallen o.resources
  · intro σ L o s n hwatch
    exact Session.desk_refetchAll_of_fallsAfter L hwatch o.resources

/-- The view is dropped between the peer and the bills. What fails afterwards is not told. -/
theorem fall_cuts_refresh_betweenAnswers :
    let done := Outcomes.partly.arrivals [.contacts, .peerId]
    let cut := Office.oneView.cut 0 .startup (Office.promptly 0 0 done) (.drop 0)
      ((Outcomes.partly.arrivals [.bills, .identity]).map (.arrive 0))
    cut.desk = ({} : Desk).recordAll done ∧ cut.desk.peer? = some ⟨"node"⟩ ∧
      cut.desk.bills = [] ∧ cut.desk.board.entries.length = 1 := by
  intro done cut
  have hdone : (done.map Arrival.resource).Subperm Occasion.startup.resources := by decide
  obtain ⟨-, hprompt, -⟩ := fall_cuts_refresh
  have hcut : cut.desk = ({} : Desk).recordAll done :=
    hprompt Office.oneView 0 0 .startup done _ (.drop 0) rfl rfl hdone rfl
  rw [hcut]
  exact ⟨rfl, rfl, rfl, rfl⟩

end BillDesk
