import BillDesk.Desk.Refresh
import BillDesk.Proofs.Desk.Arrivals
import BillDesk.Proofs.Scope.History
import Mathlib.Data.List.Perm.Subperm

/-!
# Several views at one desk

An office is a desk at which any number of views work at once. Each view has a scope and takes
tokens of it. What it fetches is asked for under a token and arrives later, while other views go on,
so that many fetches are under way together.

A run of the office is a list of events, in any order. Each event is one access to the desk or to
the scopes, so the steps of one view may stand between those of another, and whatever a scheduler
does is a run. What is under way may arrive in any order, late, or not at all. An answer that
arrives is checked against its scope, and handed back if the scope stands. It is written later, when
it is let to the desk: everything that wants the desk has to wait for it, and anything may happen
meanwhile. The scope is not looked at again.

Results:
1. `handed_arrive_eq_run`: an answer is handed back exactly when what runs under its token, from the
   asking on, is handed back.
2. `stands_play_iff`: a view stands until its own scope falls.
3. `desk_play_of_delivers`: a run of deliveries leaves the desk as what it writes.
4. `writes_perm`: what is handed back is written or waits, and nothing else is written.
5. `play_asks` and `play_promptly`: the fetches of a view that stands are all under way at once, and
   may be written one after the other in any order.
-/

namespace BillDesk

/-! ## The office -/

/-- A fetch for a view, under a token of its scope. -/
structure Fetch where
  resource : Resource
  token : Nat
  deriving DecidableEq

/-- An answer that was handed back to a view, and is to be written. -/
structure Delivery where
  token : Nat
  arrival : Arrival

structure Office where
  desk : Desk := {}
  scopes : Scopes := {}
  /-- The fetches that have not come to their end, oldest first. -/
  underWay : List Fetch := []
  /-- What waits to be written, oldest first. -/
  handed : List Delivery := []

namespace Office

inductive Event where
  /-- A view comes, with a scope of its own. -/
  | enter
  | takeToken (scope : Nat)
  | cloneToken (token : Nat)
  /-- A scope is cancelled or dropped. -/
  | fall (e : Scopes.Event)
  | openBill (name : String)
  | closeBill
  | navigate (p : Page)
  /-- A resource is asked for under a token. -/
  | ask (token : Nat) (r : Resource)
  /-- The answer to a fetch arrives, and is handed back if the scope stands. -/
  | arrive (token : Nat) (a : Arrival)
  /-- What waits at that place is let to the desk. -/
  | write (place : Nat)

/-- The office after an event. What the scopes do not grant, is not under way, or does not wait,
does not happen: under a cancelled token nothing is asked, and what arrives for it is dropped. -/
def step (s : Office) : Event → Office
  | .enter => { s with scopes := s.scopes.addScope }
  | .takeToken scope => { s with scopes := (s.scopes.addToken? scope).getD s.scopes }
  | .cloneToken token => { s with scopes := (s.scopes.cloneToken? token).getD s.scopes }
  | .fall e => { s with scopes := s.scopes.apply e }
  | .openBill name => { s with desk := s.desk.openBill name }
  | .closeBill => { s with desk := s.desk.closeBill }
  | .navigate p => { s with desk := s.desk.navigate p }
  | .ask token r =>
      if s.scopes.isCancelled token then s else { s with underWay := s.underWay ++ [⟨r, token⟩] }
  | .arrive token a =>
      if ⟨a.resource, token⟩ ∈ s.underWay then
        { s with
          underWay := s.underWay.erase ⟨a.resource, token⟩
          handed := if s.scopes.isCancelled token then s.handed else s.handed ++ [⟨token, a⟩] }
      else s
  | .write place =>
      match s.handed[place]? with
      | some d =>
          { s with
            desk := d.arrival.resource.record s.desk d.arrival.answer
            handed := s.handed.eraseIdx place }
      | none => s

/-- The office after a run. -/
def play (s : Office) (es : List Event) : Office := es.foldl step s

theorem play_cons (s : Office) (e : Event) (es : List Event) :
    s.play (e :: es) = (s.step e).play es := rfl

theorem play_snoc (s : Office) (es : List Event) (e : Event) :
    s.play (es ++ [e]) = (s.play es).step e := by
  simp [play]

theorem play_append (s : Office) (es fs : List Event) :
    s.play (es ++ fs) = (s.play es).play fs := List.foldl_append

/-- The scope of the token was neither cancelled nor dropped. -/
def Stands (s : Office) (token : Nat) : Prop :=
  ∃ scope, s.scopes.tokens[token]? = some scope ∧ s.scopes.standing? scope = some .live

theorem stands_iff {s : Office} {token : Nat} :
    s.Stands token ↔ s.scopes.isCancelled token = false :=
  Scopes.isCancelled_iff.symm

theorem not_stands_iff {s : Office} {token : Nat} :
    ¬ s.Stands token ↔ s.scopes.isCancelled token = true := by
  rw [stands_iff, Bool.not_eq_false]

theorem step_ask {s : Office} {token : Nat} (h : s.Stands token) (r : Resource) :
    s.step (.ask token r) = { s with underWay := s.underWay ++ [⟨r, token⟩] } := by
  rw [step, stands_iff.1 h]
  rfl

theorem step_arrive {s : Office} {token : Nat} (h : s.Stands token) {a : Arrival}
    (ha : ⟨a.resource, token⟩ ∈ s.underWay) :
    s.step (.arrive token a) = { s with
      underWay := s.underWay.erase ⟨a.resource, token⟩
      handed := s.handed ++ [⟨token, a⟩] } := by
  rw [step, if_pos ha, stands_iff.1 h]
  rfl

theorem step_write {s : Office} {place : Nat} {d : Delivery} (h : s.handed[place]? = some d) :
    s.step (.write place) = { s with
      desk := d.arrival.resource.record s.desk d.arrival.answer
      handed := s.handed.eraseIdx place } := by
  rw [step, h]

/-- What arrives for a view that has fallen is dropped. -/
theorem step_arrive_of_not_stands {s : Office} {token : Nat} (h : ¬ s.Stands token) (a : Arrival) :
    (s.step (.arrive token a)).desk = s.desk ∧ (s.step (.arrive token a)).handed = s.handed := by
  simp only [step, not_stands_iff.1 h]
  split <;> exact ⟨rfl, rfl⟩

/-- Where nothing waits, nothing is written. -/
theorem step_write_of_length_le {s : Office} {place : Nat} (h : s.handed.length ≤ place) :
    s.step (.write place) = s := by
  rw [step, List.getElem?_eq_none h]

/-! ## What becomes of the scopes -/

/-- What is done with scopes and tokens in an event. -/
def Event.deed? : Event → Option Scopes.Deed
  | enter => some .addScope
  | takeToken scope => some (.takeToken scope)
  | cloneToken token => some (.cloneToken token)
  | fall e => some (.fall e)
  | _ => none

/-- What falls in an event. -/
def Event.fall? : Event → Option Scopes.Event
  | fall e => some e
  | _ => none

theorem fall_mem_deeds_iff {es : List Event} {e : Scopes.Event} :
    .fall e ∈ es.filterMap Event.deed? ↔ .fall e ∈ es := by
  rw [List.mem_filterMap]
  constructor
  · rintro ⟨x, hx, hdeed⟩
    cases x with
    | fall e' =>
      cases hdeed
      exact hx
    | _ => cases hdeed
  · exact fun h => ⟨_, h, rfl⟩

theorem mem_falls_iff {es : List Event} {e : Scopes.Event} :
    e ∈ es.filterMap Event.fall? ↔ .fall e ∈ es := by
  rw [List.mem_filterMap]
  constructor
  · rintro ⟨x, hx, hfall⟩
    cases x with
    | fall e' =>
      cases hfall
      exact hx
    | _ => cases hfall
  · exact fun h => ⟨_, h, rfl⟩

theorem scopes_step (s : Office) (e : Event) :
    (s.step e).scopes = s.scopes.actAll e.deed?.toList := by
  cases e with
  | ask | arrive | write =>
    simp only [step]
    split <;> rfl
  | _ => rfl

/-- The scopes depend on nothing but what is done with them. -/
theorem scopes_play (s : Office) (es : List Event) :
    (s.play es).scopes = s.scopes.actAll (es.filterMap Event.deed?) := by
  induction es generalizing s with
  | nil => rfl
  | cons e es ih =>
    rw [play_cons, ih, scopes_step, ← Scopes.actAll_append]
    cases h : e.deed? <;> simp [h]

section Standing

variable {s : Office} {token scope : Nat}

theorem Stands.belongs (h : s.Stands token) : ∃ scope, s.scopes.Belongs token scope := by
  obtain ⟨scope, htoken, hlive⟩ := h
  exact ⟨scope, htoken, .live, hlive⟩

theorem belongs_play (h : s.scopes.Belongs token scope) (es : List Event) :
    (s.play es).scopes.Belongs token scope := by
  rw [scopes_play]
  exact h.actAll _

/-- A view stands until its own scope falls. -/
theorem stands_play_iff (h : s.scopes.Belongs token scope) (es : List Event) :
    (s.play es).Stands token ↔ s.Stands token ∧ ∀ e, .fall e ∈ es → e.scope ≠ scope := by
  rw [← not_iff_not, not_stands_iff, scopes_play, Scopes.isCancelled_actAll_iff h,
    not_and_or, not_stands_iff]
  simp only [fall_mem_deeds_iff, not_forall, not_not, exists_prop]

/-- The scope of the token was cancelled or dropped. -/
def HasFallen (s : Office) (token : Nat) : Prop :=
  (∃ scope, s.scopes.Belongs token scope) ∧ ¬ s.Stands token

theorem HasFallen.play (h : s.HasFallen token) (es : List Event) : (s.play es).HasFallen token := by
  obtain ⟨⟨scope, hbelongs⟩, hfallen⟩ := h
  refine ⟨⟨scope, belongs_play hbelongs es⟩, ?_⟩
  rw [stands_play_iff hbelongs]
  exact fun hstands => hfallen hstands.1

theorem hasFallen_step_fall (h : s.scopes.Belongs token scope) {e : Scopes.Event}
    (he : e.scope = scope) : (s.step (.fall e)).HasFallen token := by
  have hplay : s.step (.fall e) = s.play [.fall e] := rfl
  rw [hplay]
  refine ⟨⟨scope, belongs_play h _⟩, ?_⟩
  rw [stands_play_iff h]
  exact fun hstands => hstands.2 e List.mem_cons_self he

end Standing

/-! ## What is handed back and written -/

/-- What an event hands back. -/
def handedBack? (s : Office) : Event → Option Delivery
  | .arrive token a =>
      if ⟨a.resource, token⟩ ∈ s.underWay ∧ s.scopes.isCancelled token = false then some ⟨token, a⟩
      else none
  | _ => none

/-- What an event writes. -/
def written? (s : Office) : Event → Option Delivery
  | .write place => s.handed[place]?
  | _ => none

/-- What is handed back in a run, oldest first. -/
def handsBack : Office → List Event → List Delivery
  | _, [] => []
  | s, e :: es => (s.handedBack? e).toList ++ (s.step e).handsBack es

/-- What is written in a run, oldest first. -/
def writes : Office → List Event → List Delivery
  | _, [] => []
  | s, e :: es => (s.written? e).toList ++ (s.step e).writes es

/-- What arrives is handed back exactly when it is handed back by what runs under the token: it was
started when it was asked for, and waited while everything else happened. -/
theorem handed_arrive_eq_run {s : Office} {token : Nat} (h : s.Stands token) (es : List Event)
    {a : Arrival} (ha : ⟨a.resource, token⟩ ∈ (s.play es).underWay) :
    ((s.play es).step (.arrive token a)).handed = (s.play es).handed ++
      ((Scopes.run token s.scopes (Scopes.waits (es.filterMap Event.fall?) a)).1.map
        (Delivery.mk token)).toList := by
  obtain ⟨scope, hbelongs⟩ := h.belongs
  have hcancelled : (s.play es).scopes.isCancelled token =
      ((es.filterMap Event.fall?).foldl Scopes.apply s.scopes).isCancelled token := by
    rw [Bool.eq_iff_iff, scopes_play, ← Scopes.actAll_falls, Scopes.isCancelled_actAll_iff hbelongs,
      Scopes.isCancelled_actAll_iff hbelongs]
    simp only [fall_mem_deeds_iff, List.mem_map, Scopes.Deed.fall.injEq, exists_eq_right,
      mem_falls_iff]
  rw [step, if_pos ha, Scopes.run_of_waits, ← hcancelled]
  cases (s.play es).scopes.isCancelled token with
  | true => exact (List.append_nil _).symm
  | false => rfl

/-- What an event hands back comes to what waits, and what it writes goes from there. -/
theorem written?_perm (s : Office) (e : Event) :
    ((s.written? e).toList ++ (s.step e).handed).Perm (s.handed ++ (s.handedBack? e).toList) := by
  cases e with
  | ask token r =>
    simp only [step]
    split <;> simp [written?, handedBack?]
  | arrive token a =>
    by_cases hunderWay : ⟨a.resource, token⟩ ∈ s.underWay
    · cases hcancelled : s.scopes.isCancelled token <;>
        simp [step, written?, handedBack?, hunderWay, hcancelled]
    · simp [step, written?, handedBack?, hunderWay]
  | write place =>
    simp only [step, written?, handedBack?, Option.toList_none, List.append_nil]
    rcases h : s.handed[place]? with _ | d
    · rfl
    · obtain ⟨hplace, rfl⟩ := List.getElem?_eq_some_iff.1 h
      exact List.getElem_cons_eraseIdx_perm hplace
  | _ => simp [step, written?, handedBack?]

/-- In every run, what was handed back is written or waits, and nothing else is written. -/
theorem writes_perm (s : Office) (es : List Event) :
    (s.writes es ++ (s.play es).handed).Perm (s.handed ++ s.handsBack es) := by
  induction es generalizing s with
  | nil => simp [writes, handsBack, play]
  | cons e es ih =>
    rw [play_cons, writes, handsBack, List.append_assoc]
    calc
      ((s.written? e).toList ++ ((s.step e).writes es ++ ((s.step e).play es).handed)).Perm
        ((s.written? e).toList ++ ((s.step e).handed ++ (s.step e).handsBack es)) :=
          (ih (s.step e)).append_left _
      _ = (s.written? e).toList ++ (s.step e).handed ++ (s.step e).handsBack es :=
          (List.append_assoc ..).symm
      List.Perm _ (s.handed ++ (s.handedBack? e).toList ++ (s.step e).handsBack es) :=
          (written?_perm s e).append_right _
      _ = s.handed ++ ((s.handedBack? e).toList ++ (s.step e).handsBack es) :=
          List.append_assoc ..

theorem handedBack?_eq_some_iff {s : Office} {e : Event} {d : Delivery} :
    s.handedBack? e = some d ↔ e = .arrive d.token d.arrival ∧
      ⟨d.arrival.resource, d.token⟩ ∈ s.underWay ∧ s.Stands d.token := by
  cases e with
  | arrive token a =>
    rw [handedBack?, Option.ite_none_right_eq_some]
    constructor
    · rintro ⟨⟨hunderWay, hstands⟩, ⟨⟩⟩
      exact ⟨rfl, hunderWay, stands_iff.2 hstands⟩
    · rintro ⟨⟨⟩, hunderWay, hstands⟩
      exact ⟨⟨hunderWay, stands_iff.1 hstands⟩, rfl⟩
  | _ => simp [handedBack?]

/-- What waits after an event waited before it, or was handed back in it. -/
theorem mem_handed_step {s : Office} {e : Event} {d : Delivery} (h : d ∈ (s.step e).handed) :
    d ∈ s.handed ∨ s.handedBack? e = some d := by
  have hbefore := (written?_perm s e).subset (List.mem_append_right _ h)
  rwa [List.mem_append, Option.mem_toList] at hbefore

/-- Nothing more waits for a view that has fallen. -/
theorem mem_handed_of_hasFallen {s : Office} {token : Nat} (h : s.HasFallen token)
    {es : List Event} {d : Delivery} (htoken : d.token = token) (hd : d ∈ (s.play es).handed) :
    d ∈ s.handed := by
  induction es using List.reverseRecOn with
  | nil => exact hd
  | append_singleton es e ih =>
    rw [play_snoc] at hd
    rcases mem_handed_step hd with hbefore | hback
    · exact ih hbefore
    · have hstands := (handedBack?_eq_some_iff.1 hback).2.2
      rw [htoken] at hstands
      exact absurd hstands (h.play es).2

/-! ## Deliveries -/

/-- The event brings an answer under the token a step further, or writes something. -/
def Event.delivers (token : Nat) : Event → Bool
  | arrive token' _ => token' = token
  | write _ => true
  | _ => false

/-- What arrives in an event. -/
def Event.arrival? : Event → Option Arrival
  | arrive _ a => some a
  | _ => none

section Deliveries

variable {s : Office} {token : Nat} {es : List Event}

/-- A run of deliveries leaves the desk as what it writes. -/
theorem desk_play_of_delivers (h : ∀ e ∈ es, e.delivers token = true) :
    (s.play es).desk = s.desk.recordAll ((s.writes es).map Delivery.arrival) := by
  induction es generalizing s with
  | nil => rfl
  | cons e es ih =>
    have hstep : (s.step e).desk =
        s.desk.recordAll ((s.written? e).toList.map Delivery.arrival) := by
      cases e with
      | arrive token' a =>
        simp only [step]
        split <;> rfl
      | write place =>
        simp only [step, written?]
        split <;> next h => rw [h]; rfl
      | _ => cases h _ List.mem_cons_self
    rw [play_cons, ih fun x hx => h x (List.mem_cons_of_mem _ hx), hstep, writes, List.map_append,
      Desk.recordAll_append]

theorem stands_step_of_delivers {e : Event} (h : e.delivers token = true) {token' : Nat} :
    (s.step e).Stands token' ↔ s.Stands token' := by
  have hscopes : (s.step e).scopes = s.scopes := by
    rw [scopes_step]
    cases e with
    | arrive | write => rfl
    | _ => cases h
  rw [stands_iff, stands_iff, hscopes]

/-- For a view that stands, everything that arrives from what is under way is handed back. -/
theorem handsBack_of_stands (h : s.Stands token) (hes : ∀ e ∈ es, e.delivers token = true)
    (has : ((es.filterMap Event.arrival?).map fun a => (⟨a.resource, token⟩ : Fetch)).Subperm
      s.underWay) :
    s.handsBack es = (es.filterMap Event.arrival?).map (Delivery.mk token) := by
  induction es generalizing s with
  | nil => rfl
  | cons e es ih =>
    have hrest : ∀ x ∈ es, x.delivers token = true := fun x hx => hes x (List.mem_cons_of_mem _ hx)
    cases e with
    | arrive token' a =>
      obtain rfl : token' = token := of_decide_eq_true (hes _ List.mem_cons_self)
      have ha : ⟨a.resource, token'⟩ ∈ s.underWay := has.subset (by simp [Event.arrival?])
      have hlater : ((es.filterMap Event.arrival?).map
          fun a => (⟨a.resource, token'⟩ : Fetch)).Subperm
          (s.underWay.erase ⟨a.resource, token'⟩) := by
        simpa [Event.arrival?] using has.erase ⟨a.resource, token'⟩
      have hstands : Stands { s with
          underWay := s.underWay.erase ⟨a.resource, token'⟩
          handed := s.handed ++ [⟨token', a⟩] } token' := h
      rw [handsBack, step_arrive h ha, ih hstands hrest hlater, handedBack?,
        if_pos ⟨ha, stands_iff.1 h⟩]
      rfl
    | write place =>
      have hunderWay : (s.step (.write place)).underWay = s.underWay := by
        simp only [step]
        split <;> rfl
      rw [← hunderWay] at has
      exact ih ((stands_step_of_delivers (hes _ List.mem_cons_self)).2 h) hrest has
    | _ => cases hes _ List.mem_cons_self

/-- For a view that has fallen, nothing that arrives is handed back. -/
theorem handsBack_of_not_stands (h : ¬ s.Stands token) (hes : ∀ e ∈ es, e.delivers token = true) :
    s.handsBack es = [] := by
  induction es generalizing s with
  | nil => rfl
  | cons e es ih =>
    have hlater : ¬ (s.step e).Stands token :=
      (stands_step_of_delivers (hes _ List.mem_cons_self)).not.2 h
    have hnone : s.handedBack? e = none := by
      cases e with
      | arrive token' a =>
        obtain rfl : token' = token := of_decide_eq_true (hes _ List.mem_cons_self)
        exact if_neg fun hback => h (stands_iff.2 hback.2)
      | write => rfl
      | _ => cases hes _ List.mem_cons_self
    rw [handsBack, hnone, ih hlater fun x hx => hes x (List.mem_cons_of_mem _ hx)]
    rfl

/-! ## One after the other -/

/-- The fetches of a view that stands are all under way at once. -/
theorem play_asks (h : s.Stands token) (rs : List Resource) :
    s.play (rs.map (.ask token)) =
      { s with underWay := s.underWay ++ rs.map fun r => ⟨r, token⟩ } := by
  induction rs generalizing s with
  | nil => simp [play]
  | cons r rs ih =>
    show (s.step (.ask token r)).play (rs.map (.ask token)) = _
    rw [step_ask h]
    have hstands : Stands { s with underWay := s.underWay ++ [⟨r, token⟩] } token := h
    rw [ih hstands, List.append_assoc]
    rfl

/-- Answers that arrive under the token, each written from that place before the next one. -/
def promptly (place token : Nat) (as : List Arrival) : List Event :=
  as.flatMap fun a => [.arrive token a, .write place]

theorem delivers_promptly (place token : Nat) (as : List Arrival) :
    ∀ e ∈ promptly place token as, e.delivers token = true := by
  intro e he
  obtain ⟨a, -, ha⟩ := List.mem_flatMap.1 he
  rcases ha with _ | ⟨_, _ | ⟨_, ⟨⟩⟩⟩
  · exact decide_eq_true rfl
  · rfl

theorem arrivals_promptly (place token : Nat) (as : List Arrival) :
    (promptly place token as).filterMap Event.arrival? = as := by
  induction as with
  | nil => rfl
  | cons a as ih => exact congrArg (a :: ·) ih

/-- What is under way for a view that stands may be written in any order, and then nothing more
waits than before. -/
theorem play_promptly (h : s.Stands token) {as : List Arrival}
    (has : (as.map fun a => (⟨a.resource, token⟩ : Fetch)).Subperm s.underWay) :
    (s.play (promptly s.handed.length token as)).desk = s.desk.recordAll as ∧
      (s.play (promptly s.handed.length token as)).handed = s.handed := by
  induction as generalizing s with
  | nil => exact ⟨rfl, rfl⟩
  | cons a as ih =>
    have ha : ⟨a.resource, token⟩ ∈ s.underWay := has.subset (by simp)
    have hrest : (as.map fun a => (⟨a.resource, token⟩ : Fetch)).Subperm
        (s.underWay.erase ⟨a.resource, token⟩) := by
      simpa using has.erase ⟨a.resource, token⟩
    let written : Office := { s with
      desk := a.resource.record s.desk a.answer
      underWay := s.underWay.erase ⟨a.resource, token⟩ }
    have hwritten : (s.step (.arrive token a)).step (.write s.handed.length) = written := by
      rw [step_arrive h ha, step_write (d := ⟨token, a⟩) List.getElem?_concat_length]
      simp [written, List.eraseIdx_append_of_length_le]
    show (((s.step (.arrive token a)).step (.write s.handed.length)).play _).desk = _ ∧
      (((s.step (.arrive token a)).step (.write s.handed.length)).play _).handed = _
    rw [hwritten]
    exact ih (s := written) h hrest

end Deliveries

end Office

end BillDesk
