import BillDesk.Proofs.Scope.History

/-!
# Errands

An errand is work that runs under a token. Any number of errands are under way together, while
scopes are made and fall and tokens are taken and cloned. An errand that is sent under a cancelled
token is over at once. Otherwise its work races with a wait for the fall of the scope, and both are
polled together, the work first: it goes on for a while, in which it may do something to scopes
itself, and is ready then or not. When it is ready, the token is looked at once more, and the errand
brings back the value, or nothing if the token is cancelled. When it is not ready, the wait is
polled, and if the scope has fallen the errand is over and brings nothing back.

What happens is a list of events, and what the work does in a poll is part of the event. So whatever
work is done and whatever a scheduler does is such a list. An errand that goes on is woken by its
work or by its wait, so a fall of its scope has it polled again. When that is done is up to the
scheduler, and what is said here of an errand whose scope has fallen is said of its next poll.

Results:
1. `scopes_play`: what becomes of the scopes is told by the deeds that were really done.
2. `progress_play`: what an errand brings back, by the polls of its work.
3. `sent_play_trace`: `Scopes.run` is an errand that is polled until it is over.
4. `errands_follow_scopes`: tokens and errands follow their own scopes, in every history.
-/

namespace BillDesk

open Scopes (Deed Fell)

/-- How an errand stands. -/
inductive Errand.Progress (α : Type) where
  | underWay
  /-- It is over, and it has brought back a value or nothing. -/
  | ended (value? : Option α)

structure Errand (α : Type) where
  token : Nat
  progress : Errand.Progress α
  /-- How often its work was polled. -/
  polls : Nat := 0

namespace Errand

variable {α : Type}

/-- What the errand has brought back. -/
def value? (x : Errand α) : Option α :=
  match x.progress with
  | .underWay => none
  | .ended value? => value?

def isUnderWay (x : Errand α) : Bool :=
  match x.progress with
  | .underWay => true
  | .ended _ => false

/-- The errand after a poll of its work and of the wait for the fall of its scope. -/
def polled (x : Errand α) (cancelled : Bool) (ready : Option α) : Errand α where
  token := x.token
  progress :=
    match ready with
    -- The work has won the race, and the token is looked at once more.
    | some a => .ended (if cancelled then none else some a)
    -- The wait is over when the scope has fallen.
    | none => if cancelled then .ended none else .underWay
  polls := x.polls + 1

theorem progress_polled_of_cancelled (x : Errand α) (ready : Option α) :
    (x.polled true ready).progress = .ended none := by
  cases ready <;> rfl

end Errand

/-- All scopes, and all errands that were ever sent, numbered in the order of their sending. -/
structure Errands (α : Type) where
  scopes : Scopes := {}
  sent : List (Errand α) := []

namespace Errands

variable {α : Type}

inductive Event (α : Type) where
  | deed (d : Deed)
  /-- Work is to be run under a token. -/
  | send (token : Nat)
  /-- An errand is polled: what its work does meanwhile, and the value if it is ready then. -/
  | poll (errand : Nat) (deeds : List Deed) (ready : Option α)

/-- The errand of that number, while it is under way. -/
def underWay? (s : Errands α) (errand : Nat) : Option (Errand α) :=
  s.sent[errand]?.filter Errand.isUnderWay

/-- What happens after an event. The work of an errand that is over is not polled. -/
def step (s : Errands α) : Event α → Errands α
  | .deed d => { s with scopes := s.scopes.act d }
  | .send token =>
      let progress := if s.scopes.isCancelled token then .ended none else .underWay
      { s with sent := s.sent ++ [{ token, progress }] }
  | .poll errand deeds ready =>
      match s.underWay? errand with
      | some x =>
          let scopes := s.scopes.actAll deeds
          { scopes, sent := s.sent.set errand (x.polled (scopes.isCancelled x.token) ready) }
      | none => s

/-- What has become of scopes and errands after events, oldest first. -/
def play (s : Errands α) (es : List (Event α)) : Errands α := es.foldl step s

theorem play_append (s : Errands α) (es fs : List (Event α)) :
    s.play (es ++ fs) = (s.play es).play fs := List.foldl_append

/-! ## What is done to the scopes -/

/-- What is really done to scopes and tokens in an event. -/
def Event.done (s : Errands α) : Event α → List Deed
  | .deed d => [d]
  | .send _ => []
  | .poll errand deeds _ => if (s.underWay? errand).isSome then deeds else []

/-- What is really done in the course of events, oldest first. -/
def done (s : Errands α) : List (Event α) → List Deed
  | [] => []
  | e :: es => e.done s ++ done (s.step e) es

theorem scopes_step (s : Errands α) (e : Event α) :
    (s.step e).scopes = s.scopes.actAll (e.done s) := by
  cases e with
  | deed d => rfl
  | send token => rfl
  | poll errand deeds ready =>
    simp only [step, Event.done]
    cases s.underWay? errand <;> rfl

theorem scopes_play (s : Errands α) (es : List (Event α)) :
    (s.play es).scopes = s.scopes.actAll (s.done es) := by
  induction es generalizing s with
  | nil => rfl
  | cons e es ih =>
    show ((s.step e).play es).scopes = _
    rw [ih, scopes_step, ← Scopes.actAll_append]
    rfl

/-! ## What becomes of an errand -/

theorem underWay?_eq_some_iff {s : Errands α} {k : Nat} {x : Errand α} :
    s.underWay? k = some x ↔ s.sent[k]? = some x ∧ x.progress = .underWay := by
  rw [underWay?, Option.filter_eq_some_iff, Errand.isUnderWay]
  cases x.progress <;> simp

/-- Only a poll of the errand changes it. -/
theorem sent_step_of_ne {s : Errands α} {k : Nat} {x : Errand α} (h : s.sent[k]? = some x)
    {e : Event α} (he : ∀ deeds ready, e ≠ .poll k deeds ready) :
    (s.step e).sent[k]? = some x := by
  have hk : k < s.sent.length := (List.getElem?_eq_some_iff.1 h).1
  cases e with
  | deed d => exact h
  | send token => exact (List.getElem?_append_left hk).trans h
  | poll k' deeds ready =>
    have hne : k' ≠ k := by
      rintro rfl
      exact he deeds ready rfl
    simp only [step]
    cases s.underWay? k' with
    | none => exact h
    | some y => exact (List.getElem?_set_ne hne).trans h

/-- An errand that is over stays as it is. -/
theorem sent_step_of_ended {s : Errands α} {k : Nat} {x : Errand α} (h : s.sent[k]? = some x)
    {value? : Option α} (hx : x.progress = .ended value?) (e : Event α) :
    (s.step e).sent[k]? = some x := by
  by_cases he : ∃ deeds ready, e = .poll k deeds ready
  · obtain ⟨deeds, ready, rfl⟩ := he
    have hover : s.underWay? k = none := by
      rw [underWay?, h, Option.filter_some, Errand.isUnderWay, hx]
      rfl
    rw [step, hover]
    exact h
  · exact sent_step_of_ne h fun deeds ready heq => he ⟨deeds, ready, heq⟩

theorem sent_play_of_ended {s : Errands α} {k : Nat} {x : Errand α} (h : s.sent[k]? = some x)
    {value? : Option α} (hx : x.progress = .ended value?) (es : List (Event α)) :
    (s.play es).sent[k]? = some x := by
  induction es generalizing s with
  | nil => exact h
  | cons e es ih => exact ih (sent_step_of_ended h hx e)

/-- A poll of an errand that is under way. -/
theorem step_poll {s : Errands α} {k : Nat} {x : Errand α} (h : s.underWay? k = some x)
    (deeds : List Deed) (ready : Option α) :
    s.step (.poll k deeds ready) = {
      scopes := s.scopes.actAll deeds
      sent := s.sent.set k (x.polled ((s.scopes.actAll deeds).isCancelled x.token) ready) } := by
  rw [step, h]

/-- What a poll ends an errand with, by whether the scope has fallen by then. -/
def Brings (fallen : Prop) (ready value? : Option α) : Prop :=
  (fallen ∧ value? = none) ∨ (¬fallen ∧ ready.isSome = true ∧ value? = ready)

/-- The errand ends with that in a poll before which its work has not been ready. -/
def EndsWith (s : Errands α) (k token : Nat) (es : List (Event α)) (value? : Option α) : Prop :=
  ∃ mid deeds ready later, es = mid ++ .poll k deeds ready :: later ∧
    (∀ deeds' ready', .poll k deeds' ready' ∈ mid → ready' = none) ∧
    Brings ((s.play (mid ++ [.poll k deeds ready])).scopes.isCancelled token = true) ready value?

theorem endsWith_cons {s : Errands α} {k token : Nat} {e : Event α} {es : List (Event α)}
    {value? : Option α} : EndsWith s k token (e :: es) value? ↔
      (∃ deeds ready, e = .poll k deeds ready ∧
        Brings ((s.step e).scopes.isCancelled token = true) ready value?) ∨
      (∀ deeds ready, e = .poll k deeds ready → ready = none) ∧
        EndsWith (s.step e) k token es value? := by
  constructor
  · rintro ⟨mid, deeds, ready, later, hes, hmid, hend⟩
    cases mid with
    | nil =>
      obtain ⟨rfl, rfl⟩ := List.cons.inj hes
      exact .inl ⟨deeds, ready, rfl, hend⟩
    | cons e' mid =>
      obtain ⟨rfl, rfl⟩ := List.cons.inj hes
      refine .inr ⟨?_, mid, deeds, ready, later, rfl, ?_, hend⟩
      · rintro deeds' ready' rfl
        exact hmid deeds' ready' List.mem_cons_self
      · exact fun deeds' ready' h => hmid deeds' ready' (List.mem_cons_of_mem _ h)
  · rintro (⟨deeds, ready, rfl, hend⟩ | ⟨he, mid, deeds, ready, later, rfl, hmid, hend⟩)
    · exact ⟨[], deeds, ready, es, rfl, by simp, hend⟩
    · refine ⟨e :: mid, deeds, ready, later, rfl, ?_, hend⟩
      intro deeds' ready' h
      rcases List.mem_cons.1 h with heq | h
      · exact he deeds' ready' heq.symm
      · exact hmid deeds' ready' h

/-- A token that is cancelled stays so. -/
theorem isCancelled_play {s : Errands α} {token scope : Nat} (h : s.scopes.Belongs token scope)
    (hcancelled : s.scopes.isCancelled token = true) (es : List (Event α)) :
    (s.play es).scopes.isCancelled token = true := by
  rw [scopes_play, Scopes.isCancelled_actAll_iff h]
  exact .inl hcancelled

/-- Under a cancelled token an errand brings nothing back. -/
theorem eq_none_of_endsWith {s : Errands α} {k token scope : Nat}
    (h : s.scopes.Belongs token scope) (hcancelled : s.scopes.isCancelled token = true)
    {es : List (Event α)} {value? : Option α} (hends : EndsWith s k token es value?) :
    value? = none := by
  obtain ⟨mid, deeds, ready, later, -, -, ⟨-, hnone⟩ | ⟨hstands, -⟩⟩ := hends
  · exact hnone
  · exact absurd (isCancelled_play h hcancelled _) hstands

section EndsWith

variable {s : Errands α} {k token : Nat} {es : List (Event α)} {value? : Option α}

theorem endsWith_cons_of_ne {e : Event α} (he : ∀ deeds ready, e ≠ .poll k deeds ready) :
    EndsWith s k token (e :: es) value? ↔ EndsWith (s.step e) k token es value? := by
  rw [endsWith_cons]
  constructor
  · rintro (⟨deeds, ready, heq, -⟩ | ⟨-, hends⟩)
    · exact absurd heq (he deeds ready)
    · exact hends
  · exact fun hends => .inr ⟨fun deeds ready heq => absurd heq (he deeds ready), hends⟩

variable {deeds : List Deed}

theorem endsWith_poll_of_cancelled {scope : Nat} {ready : Option α}
    (h : (s.step (.poll k deeds ready)).scopes.Belongs token scope)
    (hcancelled : (s.step (.poll k deeds ready)).scopes.isCancelled token = true) :
    EndsWith s k token (.poll k deeds ready :: es) value? ↔ value? = none := by
  rw [endsWith_cons]
  constructor
  · rintro (⟨_, _, _, ⟨-, hnone⟩ | ⟨hstands, -⟩⟩ | ⟨-, hends⟩)
    · exact hnone
    · exact absurd hcancelled hstands
    · exact eq_none_of_endsWith h hcancelled hends
  · intro hnone
    exact .inl ⟨deeds, ready, rfl, .inl ⟨hcancelled, hnone⟩⟩

theorem endsWith_poll_of_ready {a : α}
    (hstands : ¬(s.step (.poll k deeds (some a))).scopes.isCancelled token = true) :
    EndsWith s k token (.poll k deeds (some a) :: es) value? ↔ value? = some a := by
  rw [endsWith_cons]
  constructor
  · rintro (⟨_, _, ⟨⟩, ⟨hcancelled, -⟩ | ⟨-, -, hvalue⟩⟩ | ⟨hready, -⟩)
    · exact absurd hcancelled hstands
    · exact hvalue
    · cases hready deeds (some a) rfl
  · intro hvalue
    exact .inl ⟨deeds, some a, rfl, .inr ⟨hstands, rfl, hvalue⟩⟩

theorem endsWith_poll_of_pending
    (hstands : ¬(s.step (.poll k deeds none)).scopes.isCancelled token = true) :
    EndsWith s k token (.poll k deeds none :: es) value? ↔
      EndsWith (s.step (.poll k deeds none)) k token es value? := by
  rw [endsWith_cons]
  constructor
  · rintro (⟨_, _, ⟨⟩, ⟨hcancelled, -⟩ | ⟨-, hready, -⟩⟩ | ⟨-, hends⟩)
    · exact absurd hcancelled hstands
    · cases hready
    · exact hends
  · refine fun hends => .inr ⟨?_, hends⟩
    rintro deeds' ready' heq
    cases heq
    rfl

end EndsWith

/-- What an errand that is under way brings back in the course of events. -/
theorem progress_play {s : Errands α} {k scope : Nat} {x : Errand α}
    (hsent : s.sent[k]? = some x) (hx : x.progress = .underWay)
    (hbelongs : s.scopes.Belongs x.token scope) (es : List (Event α)) :
    ∃ y, (s.play es).sent[k]? = some y ∧ y.token = x.token ∧
      ∀ value?, y.progress = .ended value? ↔ EndsWith s k x.token es value? := by
  induction es generalizing s x with
  | nil =>
    refine ⟨x, hsent, rfl, fun value? => ?_⟩
    simp [hx, EndsWith]
  | cons e es ih =>
    have hthen : (s.step e).scopes.Belongs x.token scope := by
      rw [scopes_step]
      exact hbelongs.actAll _
    by_cases he : ∃ deeds ready, e = .poll k deeds ready
    · obtain ⟨deeds, ready, rfl⟩ := he
      have hstep := step_poll (underWay?_eq_some_iff.2 ⟨hsent, hx⟩) deeds ready
      have hpolled : (s.step (.poll k deeds ready)).sent[k]? = some
          (x.polled ((s.step (.poll k deeds ready)).scopes.isCancelled x.token) ready) := by
        rw [hstep]
        exact List.getElem?_set_self (List.getElem?_eq_some_iff.1 hsent).1
      cases hcancelled : (s.step (.poll k deeds ready)).scopes.isCancelled x.token with
      | true =>
        rw [hcancelled] at hpolled
        have hended := x.progress_polled_of_cancelled ready
        refine ⟨_, sent_play_of_ended hpolled hended es, rfl, fun value? => ?_⟩
        rw [endsWith_poll_of_cancelled hthen hcancelled, hended]
        simp [eq_comm]
      | false =>
        rw [hcancelled] at hpolled
        have hstands : ¬(s.step (.poll k deeds ready)).scopes.isCancelled x.token = true := by
          simp [hcancelled]
        cases ready with
        | some a =>
          refine ⟨_, sent_play_of_ended hpolled rfl es, rfl, fun value? => ?_⟩
          rw [endsWith_poll_of_ready hstands]
          simp [Errand.polled, eq_comm]
        | none =>
          simp only [endsWith_poll_of_pending hstands]
          exact ih (x := x.polled false none) hpolled rfl hthen
    · have hne : ∀ deeds ready, e ≠ .poll k deeds ready :=
        fun deeds ready heq => he ⟨deeds, ready, heq⟩
      simp only [endsWith_cons_of_ne hne]
      exact ih (sent_step_of_ne hsent hne) hx hthen

/-! ## A single run -/

/-- A run of work, as events: what happens elsewhere, and the polls of the errand of that number. -/
def trace (k : Nat) (work : List (Scopes.Poll α)) : List (Event α) :=
  work.flatMap fun p =>
    (p.elsewhere.map Deed.fall).map .deed ++ [.poll k (p.byWork.map .fall) p.ready]

theorem play_deeds (s : Errands α) (ds : List Deed) :
    s.play (ds.map .deed) = { s with scopes := s.scopes.actAll ds } := by
  induction ds generalizing s with
  | nil => rfl
  | cons d ds ih => exact ih (s.step (.deed d))

theorem play_trace_cons {s : Errands α} {k : Nat} {x : Errand α} (h : s.underWay? k = some x)
    (p : Scopes.Poll α) (work : List (Scopes.Poll α)) :
    let scopes := p.byWork.foldl Scopes.apply (p.elsewhere.foldl Scopes.apply s.scopes)
    s.play (trace k (p :: work)) = play
      { scopes, sent := s.sent.set k (x.polled (scopes.isCancelled x.token) p.ready) }
      (trace k work) := by
  intro scopes
  let elsewhere : Errands α := { s with scopes := s.scopes.actAll (p.elsewhere.map .fall) }
  have hscopes : elsewhere.scopes.actAll (p.byWork.map .fall) = scopes := by
    show (s.scopes.actAll _).actAll _ = _
    rw [Scopes.actAll_falls, Scopes.actAll_falls]
  have hunderWay : elsewhere.underWay? k = some x := h
  have htrace : trace k (p :: work) = (p.elsewhere.map Deed.fall).map .deed ++
      (.poll k (p.byWork.map .fall) p.ready :: trace k work) := by
    simp [trace]
  rw [htrace, play_append, play_deeds]
  show (elsewhere.step (.poll k (p.byWork.map .fall) p.ready)).play (trace k work) = _
  rw [step_poll hunderWay, hscopes]

theorem value?_play_trace {s : Errands α} {k : Nat} {x : Errand α} (hsent : s.sent[k]? = some x)
    (hx : x.progress = .underWay) (work : List (Scopes.Poll α)) :
    ((s.play (trace k work)).sent[k]?).bind Errand.value? =
      (Scopes.poll x.token s.scopes work).1 := by
  induction work generalizing s x with
  | nil =>
    show (s.sent[k]?).bind Errand.value? = none
    rw [hsent, Option.bind_some, Errand.value?, hx]
  | cons p work ih =>
    rw [play_trace_cons (underWay?_eq_some_iff.2 ⟨hsent, hx⟩), Scopes.poll]
    generalize p.byWork.foldl Scopes.apply (p.elsewhere.foldl Scopes.apply s.scopes) = scopes
    have hset : ∀ y : Errand α, (s.sent.set k y)[k]? = some y :=
      fun _ => List.getElem?_set_self (List.getElem?_eq_some_iff.1 hsent).1
    cases p.ready with
    | some a =>
      rw [sent_play_of_ended (hset _) rfl]
      rfl
    | none =>
      cases hcancelled : scopes.isCancelled x.token with
      | true =>
        rw [sent_play_of_ended (hset _) rfl]
        rfl
      | false => exact ih (x := x.polled false none) (hset _) rfl

/-- What runs under a token is an errand that is sent and then polled. -/
theorem value?_play_send (s : Errands α) (token : Nat) (work : List (Scopes.Poll α)) :
    let k := s.sent.length
    ((s.play (.send token :: trace k work)).sent[k]?).bind Errand.value? =
      (Scopes.run token s.scopes work).1 := by
  intro k
  show (((s.step (.send token)).play (trace k work)).sent[k]?).bind Errand.value? = _
  have hsent : (s.step (.send token)).sent[k]? = some
      ⟨token, if s.scopes.isCancelled token then .ended none else .underWay, 0⟩ :=
    List.getElem?_concat_length
  rw [Scopes.run]
  cases hcancelled : s.scopes.isCancelled token with
  | true =>
    rw [hcancelled] at hsent
    rw [sent_play_of_ended hsent rfl]
    rfl
  | false =>
    rw [hcancelled] at hsent
    exact value?_play_trace hsent rfl work

/-! ## Every history -/

/-- The scope was cancelled or dropped in the course of the events. -/
def Fallen (es : List (Event α)) (scope : Nat) : Prop := Fell (({} : Errands α).done es) scope

section History

variable {es : List (Event α)} {token scope : Nat}

/-- A token stays with its scope. -/
theorem tokens_play {s : Errands α} (h : s.scopes.tokens[token]? = some scope)
    (es : List (Event α)) : (s.play es).scopes.tokens[token]? = some scope := by
  rw [scopes_play]
  exact Scopes.tokens_actAll h _

theorem belongs_play (h : (({} : Errands α).play es).scopes.tokens[token]? = some scope) :
    (({} : Errands α).play es).scopes.Belongs token scope := by
  rw [scopes_play] at h ⊢
  exact Scopes.belongs_history h

/-- A token is cancelled exactly when its own scope has fallen. -/
theorem isCancelled_play_iff
    (h : (({} : Errands α).play es).scopes.tokens[token]? = some scope) :
    (({} : Errands α).play es).scopes.isCancelled token = true ↔ Fallen es scope := by
  rw [scopes_play] at h ⊢
  exact Scopes.isCancelled_history_iff h

/-- The end of an errand, by whether the scope has fallen until then. -/
theorem endsWith_send_iff
    (h : (({} : Errands α).play es).scopes.tokens[token]? = some scope) {k : Nat}
    {after : List (Event α)} {value? : Option α} :
    EndsWith ((({} : Errands α).play es).step (.send token)) k token after value? ↔
      ∃ mid deeds ready later, after = mid ++ .poll k deeds ready :: later ∧
        (∀ deeds' ready', .poll k deeds' ready' ∈ mid → ready' = none) ∧
        Brings (Fallen (es ++ .send token :: (mid ++ [.poll k deeds ready])) scope) ready
          value? := by
  refine exists_congr fun mid => exists_congr fun deeds => exists_congr fun ready =>
    exists_congr fun later => and_congr_right fun _ => and_congr_right fun _ => ?_
  let polled : List (Event α) := .send token :: (mid ++ [.poll k deeds ready])
  have htoken := tokens_play h polled
  have hplay : ((({} : Errands α).play es).step (.send token)).play (mid ++ [.poll k deeds ready]) =
      ({} : Errands α).play (es ++ polled) := (play_append _ es polled).symm
  rw [← play_append] at htoken
  rw [hplay, isCancelled_play_iff htoken]

variable (h : (({} : Errands α).play es).scopes.tokens[token]? = some scope) {k : Nat}
  {after : List (Event α)}

include h

/-- An errand brings back the value with which its work is ready, if the scope stands then. -/
theorem endsWith_send_some_iff {a : α} :
    EndsWith ((({} : Errands α).play es).step (.send token)) k token after (some a) ↔
      ∃ mid deeds later, after = mid ++ .poll k deeds (some a) :: later ∧
        (∀ deeds' ready, .poll k deeds' ready ∈ mid → ready = none) ∧
        ¬Fallen (es ++ .send token :: (mid ++ [.poll k deeds (some a)])) scope := by
  rw [endsWith_send_iff h]
  constructor
  · rintro ⟨mid, deeds, _, later, hafter, hmid, ⟨-, hnone⟩ | ⟨hstands, -, rfl⟩⟩
    · cases hnone
    · exact ⟨mid, deeds, later, hafter, hmid, hstands⟩
  · rintro ⟨mid, deeds, later, hafter, hmid, hstands⟩
    exact ⟨mid, deeds, some a, later, hafter, hmid, .inr ⟨hstands, rfl, rfl⟩⟩

/-- It brings back nothing if the scope has fallen by the end of a poll that its work comes to. -/
theorem endsWith_send_none_iff :
    EndsWith ((({} : Errands α).play es).step (.send token)) k token after none ↔
      ∃ mid deeds ready later, after = mid ++ .poll k deeds ready :: later ∧
        (∀ deeds' ready', .poll k deeds' ready' ∈ mid → ready' = none) ∧
        Fallen (es ++ .send token :: (mid ++ [.poll k deeds ready])) scope := by
  rw [endsWith_send_iff h]
  constructor
  · rintro ⟨mid, deeds, ready, later, hafter, hmid, ⟨hfell, -⟩ | ⟨-, hready, rfl⟩⟩
    · exact ⟨mid, deeds, ready, later, hafter, hmid, hfell⟩
    · cases hready
  · rintro ⟨mid, deeds, ready, later, hafter, hmid, hfell⟩
    exact ⟨mid, deeds, ready, later, hafter, hmid, .inl ⟨hfell, rfl⟩⟩

end History

/-- Tokens and errands follow their own scopes, in every history of scopes, tokens and errands. A
token, or a clone of one, is cancelled exactly when its own scope was cancelled or dropped at some
time. It stays so, and what does not make that scope fall leaves it as it is. An errand brings back
a value exactly when its scope stood when it was sent and its work became ready with that value in a
poll by the end of which the scope had not fallen. It brings back nothing exactly when the scope had
fallen before it was sent, and then its work is never polled, or by the end of a poll before which
the work had not become ready. Until then it is under way. Work that is run on its own is such an
errand. -/
theorem errands_follow_scopes (es : List (Event α)) :
    let s := ({} : Errands α).play es
    (∀ token scope, s.scopes.tokens[token]? = some scope →
      (s.scopes.isCancelled token = true ↔ Fallen es scope) ∧
      (∀ later, (s.play later).scopes.tokens[token]? = some scope ∧
        (s.scopes.isCancelled token = true → (s.play later).scopes.isCancelled token = true)) ∧
      (∀ e : Event α, (∀ f, .fall f ∈ e.done s → f.scope ≠ scope) →
        (s.step e).scopes.isCancelled token = s.scopes.isCancelled token) ∧
      ∀ after, let k := s.sent.length
        ∃ x, (s.play (.send token :: after)).sent[k]? = some x ∧ x.token = token ∧
          (∀ a, x.progress = .ended (some a) ↔ ¬Fallen es scope ∧ ∃ mid deeds later,
            after = mid ++ .poll k deeds (some a) :: later ∧
            (∀ deeds' ready, .poll k deeds' ready ∈ mid → ready = none) ∧
            ¬Fallen (es ++ .send token :: (mid ++ [.poll k deeds (some a)])) scope) ∧
          (x.progress = .ended none ↔ Fallen es scope ∨ ∃ mid deeds ready later,
            after = mid ++ .poll k deeds ready :: later ∧
            (∀ deeds' ready', .poll k deeds' ready' ∈ mid → ready' = none) ∧
            Fallen (es ++ .send token :: (mid ++ [.poll k deeds ready])) scope) ∧
          (Fallen es scope → x.polls = 0)) ∧
    ∀ token work, let k := s.sent.length
      ((s.play (.send token :: trace k work)).sent[k]?).bind Errand.value? =
        (Scopes.run token s.scopes work).1 := by
  intro s
  refine ⟨?_, fun token work => value?_play_send s token work⟩
  intro token scope htoken
  have hbelongs := belongs_play htoken
  have hnow : s.scopes.isCancelled token = true ↔ Fallen es scope := isCancelled_play_iff htoken
  refine ⟨hnow, fun later => ⟨tokens_play htoken later, fun h => isCancelled_play hbelongs h later⟩,
    ?_, ?_⟩
  · intro e he
    rw [Bool.eq_iff_iff, scopes_step, Scopes.isCancelled_actAll_iff hbelongs]
    refine or_iff_left ?_
    rintro ⟨f, hf, hscope⟩
    exact he f hf hscope
  · intro after k
    have hsent : (s.step (.send token)).sent[k]? = some
        ⟨token, if s.scopes.isCancelled token then .ended none else .underWay, 0⟩ :=
      List.getElem?_concat_length
    by_cases hfallen : Fallen es scope
    · -- The errand is over before its work is polled.
      rw [hnow.2 hfallen] at hsent
      refine ⟨_, sent_play_of_ended hsent rfl after, rfl, ?_, ?_, fun _ => rfl⟩
      · exact fun a => ⟨fun h => (by cases h), fun h => absurd hfallen h.1⟩
      · exact ⟨fun _ => .inl hfallen, fun _ => rfl⟩
    · rw [Bool.eq_false_iff.2 fun h => hfallen (hnow.1 h)] at hsent
      obtain ⟨x, hx, hxtoken, hprogress⟩ := progress_play hsent rfl hbelongs after
      refine ⟨x, hx, hxtoken, ?_, ?_, fun h => absurd h hfallen⟩
      · intro a
        rw [hprogress, endsWith_send_some_iff htoken]
        exact (and_iff_right hfallen).symm
      · rw [hprogress, endsWith_send_none_iff htoken]
        exact (or_iff_right hfallen).symm

/-- Two scopes with a token each, and a clone of the first token. -/
def twoScopes : List (Event Nat) :=
  [.deed .addScope, .deed .addScope, .deed (.takeToken 0), .deed (.takeToken 1),
    .deed (.cloneToken 0)]

/-- The work cancels the other scope, is ready in its second poll, and then its own scope falls. -/
def lateDrop : List (Event Nat) :=
  [.poll 0 [.fall (.cancel 1)] none, .poll 0 [] (some 42), .deed (.fall (.drop 0))]

theorem errands_follow_scopes_lateDrop :
    let s := ({} : Errands Nat).play twoScopes
    s.scopes.tokens[2]? = some 0 ∧ ¬Fallen twoScopes 0 ∧
      Fallen (twoScopes ++ .send 2 :: lateDrop) 0 ∧
      ∃ x, (s.play (.send 2 :: lateDrop)).sent[0]? = some x ∧ x.progress = .ended (some 42) := by
  have htoken : (({} : Errands Nat).play twoScopes).scopes.tokens[2]? = some 0 := by decide
  obtain ⟨hcancelled, _, _, herrand⟩ := (errands_follow_scopes twoScopes).1 2 0 htoken
  obtain ⟨x, hx, _, hvalue, _⟩ := herrand lateDrop
  have hstands : ¬Fallen twoScopes 0 := by
    rw [← hcancelled]
    decide
  have hpolled : ¬Fallen (twoScopes ++ .send 2 :: lateDrop.take 2) 0 := by
    have hkept := tokens_play htoken (.send 2 :: lateDrop.take 2)
    rw [← play_append] at hkept
    rw [← isCancelled_play_iff hkept]
    decide
  have hgone : Fallen (twoScopes ++ .send 2 :: lateDrop) 0 := by
    have hkept := tokens_play htoken (.send 2 :: lateDrop)
    rw [← play_append] at hkept
    rw [← isCancelled_play_iff hkept]
    decide
  refine ⟨htoken, hstands, hgone, x, hx, (hvalue 42).2 ⟨hstands, ?_⟩⟩
  refine ⟨lateDrop.take 1, [], [.deed (.fall (.drop 0))], rfl, ?_, hpolled⟩
  intro deeds ready h
  cases List.mem_singleton.1 h
  rfl

end Errands

end BillDesk
