import BillDesk.Proofs.Scope.Falls
import Mathlib.Data.List.Induction

/-!
# Scopes and their history

Scopes are made, tokens are taken and cloned, and scopes fall. Whether a token is cancelled can be
read off the history of these deeds: it is, exactly when its own scope fell in the course of it.

Results:
1. `tokens_actAll`: a token stays with its scope.
2. `isCancelled_history_iff`: a token is cancelled exactly when its own scope has fallen.
3. `isCancelled_actAll_iff`: what is done later cancels a token only as a fall of its scope, and
   revives none.
-/

namespace BillDesk.Scopes

/-- What is done with scopes and tokens, by whomever. -/
inductive Deed where
  | addScope
  | takeToken (scope : Nat)
  | cloneToken (token : Nat)
  | fall (e : Event)
  deriving DecidableEq

/-- The scopes after a deed. What is not granted does not happen. -/
def act (s : Scopes) : Deed → Scopes
  | .addScope => s.addScope
  | .takeToken scope => (s.addToken? scope).getD s
  | .cloneToken token => (s.cloneToken? token).getD s
  | .fall e => s.apply e

/-- The scopes after deeds, oldest first. -/
def actAll (s : Scopes) (ds : List Deed) : Scopes := ds.foldl act s

theorem actAll_snoc (s : Scopes) (ds : List Deed) (d : Deed) :
    s.actAll (ds ++ [d]) = (s.actAll ds).act d := by
  simp [actAll]

theorem actAll_append (s : Scopes) (ds ds' : List Deed) :
    s.actAll (ds ++ ds') = (s.actAll ds).actAll ds' := List.foldl_append

theorem actAll_falls (s : Scopes) (es : List Event) :
    s.actAll (es.map .fall) = es.foldl apply s := List.foldl_map

/-- The scope fell in the course of the deeds: it had been made and was cancelled or dropped. -/
def Fell (ds : List Deed) (scope : Nat) : Prop :=
  ∃ before e after, ds = before ++ .fall e :: after ∧ e.scope = scope ∧
    scope < before.count .addScope

/-- Only a scope that has been made can fall. -/
theorem Fell.lt {ds : List Deed} {scope : Nat} (h : Fell ds scope) :
    scope < ds.count .addScope := by
  obtain ⟨before, e, after, rfl, -, hmade⟩ := h
  rw [List.count_append]
  omega

theorem fell_snoc {ds : List Deed} {d : Deed} {scope : Nat} :
    Fell (ds ++ [d]) scope ↔ Fell ds scope ∨
      ∃ e, d = .fall e ∧ e.scope = scope ∧ scope < ds.count .addScope := by
  constructor
  · rintro ⟨before, e, after, hds, he, hmade⟩
    rcases List.eq_nil_or_concat after with rfl | ⟨after, d', rfl⟩
    · obtain ⟨rfl, hd⟩ := List.append_inj' hds rfl
      exact .inr ⟨e, List.singleton_inj.1 hd, he, hmade⟩
    · rw [List.concat_eq_append, ← List.cons_append, ← List.append_assoc] at hds
      obtain ⟨rfl, -⟩ := List.append_inj' hds rfl
      exact .inl ⟨before, e, after, rfl, he, hmade⟩
  · rintro (⟨before, e, after, rfl, he, hmade⟩ | ⟨e, rfl, he, hmade⟩)
    · exact ⟨before, e, after ++ [d], by simp, he, hmade⟩
    · exact ⟨ds, e, [], rfl, he, hmade⟩

/-! ## What a deed does -/

/-- Tokens are only ever added. -/
theorem tokens_act (s : Scopes) (d : Deed) : ∃ more, (s.act d).tokens = s.tokens ++ more := by
  cases d with
  | addScope => exact ⟨[], (List.append_nil _).symm⟩
  | takeToken scope =>
    simp only [act, addToken?]
    split
    · exact ⟨[scope], rfl⟩
    · exact ⟨[], (List.append_nil _).symm⟩
  | cloneToken token =>
    simp only [act, cloneToken?]
    cases s.tokens[token]? with
    | none => exact ⟨[], (List.append_nil _).symm⟩
    | some scope => exact ⟨[scope], rfl⟩
  | fall e => exact ⟨[], by rw [act, tokens_apply, List.append_nil]⟩

/-- A token stays with its scope. -/
theorem tokens_actAll {s : Scopes} {token scope : Nat} (h : s.tokens[token]? = some scope)
    (ds : List Deed) : (s.actAll ds).tokens[token]? = some scope := by
  induction ds generalizing s with
  | nil => exact h
  | cons d ds ih =>
    obtain ⟨more, hmore⟩ := tokens_act s d
    refine ih (s := s.act d) ?_
    rw [hmore, List.getElem?_append_left (List.getElem?_eq_some_iff.1 h).1, h]

/-- What a deed does to a scope that is there: it stands as before, unless it falls. -/
theorem standing?_act {s : Scopes} {scope : Nat} {standing : ScopeStanding}
    (h : s.standing? scope = some standing) (d : Deed) :
    ∃ standing', (s.act d).standing? scope = some standing' ∧
      (standing' = .live ↔ standing = .live ∧ ∀ e, d = .fall e → e.scope ≠ scope) := by
  have hthere : scope < s.standings.length := (List.getElem?_eq_some_iff.1 h).1
  cases d with
  | addScope => exact ⟨standing, (List.getElem?_append_left hthere).trans h, by simp⟩
  | takeToken scope' =>
    refine ⟨standing, ?_, by simp⟩
    simp only [act, addToken?]
    split <;> exact h
  | cloneToken token =>
    refine ⟨standing, ?_, by simp⟩
    simp only [act, cloneToken?]
    cases s.tokens[token]? <;> exact h
  | fall e =>
    refine ⟨_, by rw [act, standing?_apply, h, Option.map_some], ?_⟩
    by_cases he : e.scope = scope
    · -- It falls now, or it was gone before.
      cases standing <;> cases e <;> simp_all [Event.fallen]
    · simp [he]

theorem length_standings_act (s : Scopes) (d : Deed) :
    (s.act d).standings.length = s.standings.length + if d = .addScope then 1 else 0 := by
  cases d with
  | addScope => simp [act, addScope]
  | takeToken scope =>
    simp only [act, addToken?]
    split <;> simp
  | cloneToken token =>
    simp only [act, cloneToken?]
    cases s.tokens[token]? <;> simp
  | fall e => cases e <;> simp only [act, apply] <;> split <;> simp

/-! ## The history of all scopes -/

theorem length_standings_history (ds : List Deed) :
    (({} : Scopes).actAll ds).standings.length = ds.count .addScope := by
  induction ds using List.reverseRecOn with
  | nil => rfl
  | append_singleton ds d ih =>
    rw [actAll_snoc, length_standings_act, ih, List.count_append, List.count_singleton]
    simp

/-- Each token belongs to a scope that is there. -/
theorem lt_of_mem_tokens_act {s : Scopes} (h : ∀ scope ∈ s.tokens, scope < s.standings.length)
    (d : Deed) : ∀ scope ∈ (s.act d).tokens, scope < (s.act d).standings.length := by
  intro scope hscope
  rw [length_standings_act]
  refine Nat.lt_add_right _ ?_
  cases d with
  | addScope => exact h scope hscope
  | takeToken scope' =>
    simp only [act, addToken?] at hscope
    split at hscope
    · next hpresent =>
      rcases List.mem_append.1 hscope with hold | hnew
      · exact h scope hold
      · obtain ⟨standing, hstanding, -⟩ := (Option.any_eq_true _ _).1 hpresent
        rw [List.mem_singleton.1 hnew]
        exact (List.getElem?_eq_some_iff.1 hstanding).1
    · exact h scope hscope
  | cloneToken token =>
    simp only [act, cloneToken?] at hscope
    cases htoken : s.tokens[token]? with
    | none =>
      rw [htoken] at hscope
      exact h scope hscope
    | some scope' =>
      rw [htoken] at hscope
      rcases List.mem_append.1 hscope with hold | hnew
      · exact h scope hold
      · rw [List.mem_singleton.1 hnew]
        exact h scope' (List.mem_of_getElem? htoken)
  | fall e =>
    rw [act, tokens_apply] at hscope
    exact h scope hscope

theorem lt_count_of_tokens {ds : List Deed} {token scope : Nat}
    (h : (({} : Scopes).actAll ds).tokens[token]? = some scope) :
    scope < ds.count .addScope := by
  have hall : ∀ scope ∈ (({} : Scopes).actAll ds).tokens,
      scope < (({} : Scopes).actAll ds).standings.length := by
    clear h
    induction ds using List.reverseRecOn with
    | nil => simp [actAll]
    | append_singleton ds d ih =>
      rw [actAll_snoc]
      exact lt_of_mem_tokens_act ih d
  rw [← length_standings_history]
  exact hall scope (List.mem_of_getElem? h)

/-- A scope that was made stands exactly when it has not fallen. -/
theorem standing?_history {ds : List Deed} {scope : Nat} (hmade : scope < ds.count .addScope) :
    ∃ standing, (({} : Scopes).actAll ds).standing? scope = some standing ∧
      (standing = .live ↔ ¬Fell ds scope) := by
  induction ds using List.reverseRecOn with
  | nil => simp at hmade
  | append_singleton ds d ih =>
    rw [actAll_snoc]
    by_cases hbefore : scope < ds.count .addScope
    · obtain ⟨standing, hstanding, hlive⟩ := ih hbefore
      obtain ⟨standing', hstanding', hlive'⟩ := standing?_act hstanding d
      refine ⟨standing', hstanding', ?_⟩
      rw [hlive', hlive, fell_snoc]
      simp [hbefore]
    · -- The scope is made just now.
      have hnew : d = .addScope ∧ scope = ds.count .addScope := by
        rw [List.count_append, List.count_singleton] at hmade
        by_cases hd : d = .addScope
        · exact ⟨hd, by simp [hd] at hmade; omega⟩
        · simp [hd] at hmade
          omega
      obtain ⟨rfl, rfl⟩ := hnew
      refine ⟨.live, ?_, ?_⟩
      · rw [act, addScope, standing?, ← length_standings_history]
        simp
      · simp only [true_iff]
        intro hfell
        rcases fell_snoc.1 hfell with hbefore | ⟨e, he, -⟩
        · exact absurd hbefore.lt (Nat.lt_irrefl _)
        · cases he

/-! ## Tokens -/

/-- A token is cancelled exactly when its own scope was cancelled or dropped at some time. -/
theorem isCancelled_history_iff {ds : List Deed} {token scope : Nat}
    (h : (({} : Scopes).actAll ds).tokens[token]? = some scope) :
    (({} : Scopes).actAll ds).isCancelled token = true ↔ Fell ds scope := by
  obtain ⟨standing, hstanding, hlive⟩ := standing?_history (lt_count_of_tokens h)
  rw [isCancelled, h]
  simp [hstanding, hlive]

/-- The token belongs to a scope that is there. -/
structure Belongs (s : Scopes) (token scope : Nat) : Prop where
  token : s.tokens[token]? = some scope
  there : ∃ standing, s.standing? scope = some standing

theorem belongs_history {ds : List Deed} {token scope : Nat}
    (h : (({} : Scopes).actAll ds).tokens[token]? = some scope) :
    (({} : Scopes).actAll ds).Belongs token scope := by
  obtain ⟨standing, hstanding, -⟩ := standing?_history (lt_count_of_tokens h)
  exact ⟨h, standing, hstanding⟩

theorem Belongs.actAll {s : Scopes} {token scope : Nat} (h : s.Belongs token scope)
    (ds : List Deed) : (s.actAll ds).Belongs token scope := by
  refine ⟨tokens_actAll h.token ds, ?_⟩
  obtain ⟨standing, hstanding⟩ := h.there
  clear h
  induction ds generalizing s standing with
  | nil => exact ⟨standing, hstanding⟩
  | cons d ds ih =>
    obtain ⟨standing', hstanding', -⟩ := standing?_act hstanding d
    exact ih standing' hstanding'

/-- A deed cancels a token only as a fall of its scope, and revives none. -/
theorem isCancelled_act_iff {s : Scopes} {token scope : Nat} (h : s.Belongs token scope)
    (d : Deed) : (s.act d).isCancelled token = true ↔
      s.isCancelled token = true ∨ ∃ e, d = .fall e ∧ e.scope = scope := by
  obtain ⟨standing, hstanding⟩ := h.there
  obtain ⟨standing', hstanding', hlive⟩ := standing?_act hstanding d
  have htoken : (s.act d).tokens[token]? = some scope := tokens_actAll h.token [d]
  rw [isCancelled, isCancelled, htoken, h.token]
  simp only [hstanding, hstanding', bne_iff_ne, ne_eq, Option.some.injEq, hlive, not_and_or]
  simp

theorem isCancelled_actAll_iff {s : Scopes} {token scope : Nat} (h : s.Belongs token scope)
    (ds : List Deed) : (s.actAll ds).isCancelled token = true ↔
      s.isCancelled token = true ∨ ∃ e, .fall e ∈ ds ∧ e.scope = scope := by
  induction ds using List.reverseRecOn with
  | nil => simp [actAll]
  | append_singleton ds d ih =>
    rw [actAll_snoc, isCancelled_act_iff (h.actAll ds), ih, or_assoc]
    simp only [List.mem_append, List.mem_singleton, or_and_right, exists_or, eq_comm (a := d)]

end BillDesk.Scopes
