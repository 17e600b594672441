import BillDesk.Scope

/-!
# Scopes that fall

A scope falls when it is cancelled or dropped. It falls alone, and nothing revives it.

Results:
1. `standing?_apply`: what a fall does to each scope.
2. `isCancelled_foldl_apply`: a cancelled token stays cancelled, whatever falls.
3. `run_of_waits`: what waited under a token is handed back exactly when its scope stands then.
-/

namespace BillDesk

namespace Scopes

/-- The scope that falls. -/
def Event.scope : Event → Nat
  | .cancel scope | .drop scope => scope

/-- How it stands then. -/
def Event.fallen : Event → ScopeStanding
  | .cancel _ => .cancelled
  | .drop _ => .dropped

/-- A fall concerns one scope, which falls unless it is gone already. -/
theorem standing?_apply (s : Scopes) (e : Event) (scope : Nat) :
    (s.apply e).standing? scope =
      (s.standing? scope).map fun standing =>
        if e.scope = scope ∧ standing ≠ .dropped then e.fallen else standing := by
  have hset : ∀ (scope' : Nat) (fallen : ScopeStanding),
      (if s.isPresent scope' then { s with standings := s.standings.set scope' fallen }
        else s).standing? scope =
      (s.standing? scope).map fun standing =>
        if scope' = scope ∧ standing ≠ .dropped then fallen else standing := by
    intro scope' fallen
    by_cases hscope : scope' = scope
    · subst hscope
      rcases h : s.standing? scope' with _ | standing
      · simp [isPresent, h]
      · have hself : (s.standings.set scope' fallen)[scope']? = some fallen :=
          List.getElem?_set_self (List.getElem?_eq_some_iff.1 h).1
        rw [isPresent, h]
        cases standing with
        | live | cancelled => simpa [standing?] using hself
        | dropped => simpa using h
    · split <;> simp [standing?, hscope]
  cases e with
  | cancel scope' => exact hset scope' .cancelled
  | drop scope' => exact hset scope' .dropped

/-- Nothing revives a scope. -/
theorem standing?_of_apply {s : Scopes} {e : Event} {scope : Nat}
    (h : (s.apply e).standing? scope = some .live) : s.standing? scope = some .live := by
  rw [standing?_apply, Option.map_eq_some_iff] at h
  obtain ⟨standing, hstanding, hlive⟩ := h
  split at hlive
  · cases e <;> cases hlive
  · rw [hstanding, hlive]

theorem tokens_apply (s : Scopes) (e : Event) : (s.apply e).tokens = s.tokens := by
  cases e <;> simp only [apply] <;> split <;> rfl

/-- A token that is cancelled stays so. -/
theorem isCancelled_apply {s : Scopes} {token : Nat} (h : s.isCancelled token = true) (e : Event) :
    (s.apply e).isCancelled token = true := by
  rw [← Bool.not_eq_false, isCancelled_iff] at h ⊢
  rintro ⟨scope, htoken, hlive⟩
  rw [tokens_apply] at htoken
  exact h ⟨scope, htoken, standing?_of_apply hlive⟩

theorem isCancelled_foldl_apply {s : Scopes} {token : Nat} (h : s.isCancelled token = true)
    (es : List Event) : (es.foldl apply s).isCancelled token = true := by
  induction es generalizing s with
  | nil => exact h
  | cons e es ih => exact ih (isCancelled_apply h e)

/-- Work that waits while something happens elsewhere, once for each event, and is ready then. -/
def waits {α : Type} (es : List Event) (a : α) : List (Poll α) :=
  es.map (fun e => { elsewhere := [e] }) ++ [{ ready := some a }]

theorem poll_waits {α : Type} (token : Nat) (s : Scopes) (es : List Event) (a : α) :
    (poll token s (waits es a)).1 =
      if (es.foldl apply s).isCancelled token then none else some a := by
  induction es generalizing s with
  | nil =>
    rfl
  | cons e es ih =>
    show (if (s.apply e).isCancelled token then (none, s.apply e)
      else poll token (s.apply e) (waits es a)).1 = _
    rw [List.foldl_cons]
    cases h : (s.apply e).isCancelled token with
    | true => simp [isCancelled_foldl_apply h]
    | false => simp [ih]

/-- What waited under a token is handed back exactly when the scope stands in the end. -/
theorem run_of_waits {α : Type} (token : Nat) (s : Scopes) (es : List Event) (a : α) :
    (run token s (waits es a)).1 =
      if (es.foldl apply s).isCancelled token then none else some a := by
  rw [run]
  cases h : s.isCancelled token with
  | true => simp [isCancelled_foldl_apply h]
  | false => simp [poll_waits]

end Scopes

end BillDesk
