import BillDesk.Ledger.Http

/-!
# Appending to the path of a URL

The endpoints of the ledger lie below the base URL. Their segments are plain words that are appended
as they are, so the path of a request begins with the base path and the words of the endpoint. The
name at its end, if there is one, may be encoded, skipped, or cost the last word: it never gets at
the first one.

Results:
1. `foldl_pushSegment_of_plain`: plain segments are appended as they are.
2. `dropLast_isPrefix_pushSegment`: any segment costs one segment at most.
3. `exists_path_of_queryRequest`: how the path of the request for a query begins.
4. `eq_of_queryRequest`: no other query has the request of one that names nothing.
-/

namespace BillDesk

namespace Url

/-- The segment is appended as it is. -/
def IsPlain (s : String) : Prop := (∀ special, encodeSegment special s = s) ∧ s ∉ ["", ".", ".."]

instance (s : String) : Decidable (IsPlain s) := inferInstanceAs (Decidable (_ ∧ _))

/-- The segments that others come after. Those of the root give way. -/
def front (parts : List String) : List String := if parts = [""] then [] else parts

variable {special : Bool} {s : String} {parts : List String}

theorem front_append_of_plain (h : IsPlain s) : front (parts ++ [s]) = parts ++ [s] := by
  have hne : parts ++ [s] ≠ [""] := by
    intro heq
    have hlast : some s = some "" := by
      rw [← List.getLast?_concat (l := parts), heq, List.getLast?_singleton]
    cases hlast
    exact h.2 (List.mem_cons_self ..)
  rw [front, if_neg hne]

theorem pushSegment_of_plain (h : IsPlain s) :
    pushSegment special parts s = front parts ++ [s] := by
  obtain ⟨hencoded, hnot⟩ := h
  simp only [List.mem_cons, List.not_mem_nil, or_false, not_or] at hnot
  obtain ⟨_, hdot, hdots⟩ := hnot
  rw [pushSegment, if_neg (by simp [hdot, hdots]), hencoded]
  split <;> simp_all [front]

theorem foldl_pushSegment_of_front {words : List String} (hwords : ∀ s ∈ words, IsPlain s)
    (hparts : front parts = parts) : words.foldl (pushSegment special) parts = parts ++ words := by
  induction words generalizing parts with
  | nil => rw [List.foldl_nil, List.append_nil]
  | cons s words ih =>
    have hs : IsPlain s := hwords s (List.mem_cons_self ..)
    have hrest : ∀ w ∈ words, IsPlain w := fun w hw => hwords w (List.mem_cons_of_mem _ hw)
    rw [List.foldl_cons, pushSegment_of_plain hs, hparts, ih hrest (front_append_of_plain hs),
      List.append_assoc, List.singleton_append]

theorem foldl_pushSegment_of_plain {words : List String} (hwords : ∀ s ∈ words, IsPlain s)
    (hne : words ≠ []) : words.foldl (pushSegment special) parts = front parts ++ words := by
  cases words with
  | nil => exact absurd rfl hne
  | cons s words =>
    have hs : IsPlain s := hwords s (List.mem_cons_self ..)
    have hrest : ∀ w ∈ words, IsPlain w := fun w hw => hwords w (List.mem_cons_of_mem _ hw)
    rw [List.foldl_cons, pushSegment_of_plain hs,
      foldl_pushSegment_of_front hrest (front_append_of_plain hs), List.append_assoc,
      List.singleton_append]

/-- Whatever segment comes next, all but the last of those before it stay. -/
theorem dropLast_isPrefix_pushSegment (hparts : front parts = parts) :
    parts.dropLast <+: pushSegment special parts s := by
  simp only [pushSegment]
  rw [← front, hparts]
  split
  · exact List.dropLast_prefix parts
  · split
    · exact (List.dropLast_prefix parts).trans (List.prefix_append _ _)
    · exact List.prefix_append _ _
    · exact (List.dropLast_prefix parts).trans (List.prefix_append _ _)

end Url

open Url

/-! ## Settings -/

/-- Settings that are accepted. -/
theorem Settings.of_ofInput {url : String} {token : Option String} {timeoutSeconds : UInt64}
    {settings : Settings} (h : ofInput url token timeoutSeconds = .ok settings) :
    settings.base.cannotBeBase = false ∧
      settings.token = token.filter fun t => !Text.isBlank t := by
  rw [ofInput] at h
  split at h
  · cases h
  split at h
  · cases h
  next hbase =>
  split at h
  · cases h
  cases h
  exact ⟨eq_false_of_ne_true hbase, rfl⟩

/-! ## Requests for queries -/

namespace Query

/-- The words that the paths of queries consist of. -/
def words : List String :=
  ["identity", "peer_id", "contacts", "bills", "bill", "chain", "opcodes", "return"]

theorem isPlain_of_mem_words : ∀ s ∈ words, IsPlain s := by decide

theorem isPlain_path (q : Query) : ∀ s ∈ q.path, IsPlain s := by
  have hsub : q.path ⊆ words := by cases q <;> simp [path, words]
  exact fun s hs => isPlain_of_mem_words s (hsub hs)

/-- Every path ends with the same word. -/
theorem path_eq_dropLast_append (q : Query) : q.path = q.path.dropLast ++ ["return"] := by
  cases q <;> rfl

theorem path_ne_nil (q : Query) : q.path ≠ [] := by
  cases q <;> simp [path]

/-- The words of a query are appended as they are. -/
theorem foldl_pushSegment_path (special : Bool) (parts : List String) (q : Query) :
    q.path.foldl (pushSegment special) parts = front parts ++ q.path :=
  foldl_pushSegment_of_plain q.isPlain_path q.path_ne_nil

/-- Nothing gives way to what comes after the words of a query. -/
theorem front_append_path (parts : List String) (q : Query) :
    front (parts ++ q.path) = parts ++ q.path := by
  rw [path_eq_dropLast_append, ← List.append_assoc, front_append_of_plain (by decide)]

/-- Queries that name nothing differ in their paths. -/
theorem eq_of_path_eq {q q' : Query} (h : q.name? = none) (h' : q'.name? = none)
    (hpath : q.path = q'.path) : q = q' := by
  cases q <;> cases q' <;> simp_all [name?, path]

/-- The paths of those that name something begin with other words. -/
theorem not_isPrefix_path {q q' : Query} (h : q.name?.isSome = true) (h' : q'.name? = none) :
    ¬q.path.dropLast <+: q'.path := by
  cases q <;> cases q' <;> simp_all [name?, path]

end Query

namespace LedgerClient

variable {c : LedgerClient} {q : Query} {request : Http.Request}

/-- A query is a GET below the base URL. -/
theorem queryRequest_eq_ok_iff :
    c.queryRequest q = .ok request ↔
      ∃ url, c.base.append? (q.path ++ q.name?.toList) = some url ∧
        request = ⟨.get, url, c.authorization, []⟩ := by
  simp only [queryRequest, endpoint]
  cases c.base.append? (q.path ++ q.name?.toList) with
  | none => simp [bind, Except.bind]
  | some url => simp [pure, Except.pure, bind, Except.bind, eq_comm]

/-- Behind the base path, the path of the request begins with the words of the query. The last of
them may be lost. -/
theorem exists_path_of_queryRequest (h : c.queryRequest q = .ok request) :
    ∃ base parts, request.url.path = .segments parts ∧ c.base.path = .segments base ∧
      (q.name? = none → parts = front (popIfEmpty base) ++ q.path) ∧
      front (popIfEmpty base) ++ q.path.dropLast <+: parts := by
  obtain ⟨url, hurl, rfl⟩ := queryRequest_eq_ok_iff.1 h
  rw [append?] at hurl
  split at hurl
  · cases hurl
  next base hbase =>
  cases hurl
  refine ⟨base, _, rfl, hbase, ?_, ?_⟩
  · intro hname
    rw [hname, Option.toList_none, List.append_nil, q.foldl_pushSegment_path]
  · rw [List.foldl_append, q.foldl_pushSegment_path]
    cases q.name? with
    | none => exact (List.prefix_append_right_inj _).2 (List.dropLast_prefix _)
    | some name =>
      -- The last word is all that the name may cost.
      rw [← List.dropLast_append_of_ne_nil q.path_ne_nil]
      exact dropLast_isPrefix_pushSegment (q.front_append_path _)

/-- No other query has the request of one that names nothing. -/
theorem eq_of_queryRequest {q' : Query} (h : c.queryRequest q = .ok request)
    (h' : c.queryRequest q' = .ok request) (hname : q'.name? = none) : q = q' := by
  obtain ⟨base, parts, hparts, hbase, hwords, hprefix⟩ := exists_path_of_queryRequest h
  obtain ⟨base', parts', hparts', hbase', hwords', _⟩ := exists_path_of_queryRequest h'
  cases hparts.symm.trans hparts'
  cases hbase.symm.trans hbase'
  rw [hwords' hname, List.prefix_append_right_inj] at hprefix
  rcases hq : q.name? with _ | name
  · have hpath := (hwords hq).symm.trans (hwords' hname)
    exact Query.eq_of_path_eq hq hname (List.append_cancel_left hpath)
  · exact absurd hprefix (Query.not_isPrefix_path (by rw [hq]; rfl) hname)

end LedgerClient

end BillDesk
