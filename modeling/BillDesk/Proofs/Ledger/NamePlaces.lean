import BillDesk.Proofs.Ledger.Endpoint

/-!
# Names that mean a place

A bill is asked for under the words of an endpoint, with its name as one more segment. Two names are
none: `.` means the place itself and `..` the one above it. Typed like that they are skipped, and
what is asked for is the endpoint without a name. Behind a tab or a line break they are taken for a
name at first, and for a place when it has been dropped: then the path ends with an empty segment,
and `..` costs the last word before it.

No name gets further up. The first word of the endpoint stays, so whatever is asked for, it is not
what another query asks for.

Results:
1. `pushSegment_of_leads`: what a name does to the segments before it.
2. `queryRequest_of_name`: the request for a name.
3. `path_eq_of_queryRequest`: no name leads to another endpoint.
4. `namesOneSegment_iff`: which names are one segment behind the words of the endpoint.
5. `names_keep_to_their_endpoint`: all of it for settings that are accepted;
   `not_namesOneSegment_dot` for the name that is skipped.
-/

namespace BillDesk

namespace Url

variable {special : Bool} {name : String} {words parts before : List String}

/-! ## Names without what is dropped -/

/-- The name without tabs and line breaks. -/
def bareName (name : String) : String :=
  String.ofList (name.toList.filter fun c => !isDropped c)

theorem kept_bareName (name : String) : ∀ c ∈ (bareName name).toList, isDropped c = false := by
  intro c hc
  rw [bareName, String.toList_ofList, List.mem_filter] at hc
  simpa using hc.2

theorem encodeSegment_bareName (special : Bool) (name : String) :
    encodeSegment special (bareName name) = encodeSegment special name := by
  simp only [encodeSegment, bareName, String.toList_ofList, List.filter_filter, Bool.and_self]

theorem isSegmentName_bareName_iff :
    IsSegmentName (bareName name) ↔ bareName name ≠ "." ∧ bareName name ≠ ".." :=
  ⟨fun h => ⟨h.dot, h.dots⟩, fun h => ⟨h.1, h.2, kept_bareName name⟩⟩

/-- The characters that end a segment, or the whole path. -/
def delimiters (special : Bool) : List Char := ['/', '?', '#'] ++ if special then ['\\'] else []

/-- Whatever the name holds, its segment is one. -/
theorem not_mem_encodeSegment_of_delimiter (special : Bool) (name : String) :
    ∀ c ∈ delimiters special, c ∉ (encodeSegment special name).toList := by
  have hset : ∀ c ∈ delimiters special, segmentSet special c = true ∧ c ≠ '%' ∧
      ∀ n < 16, c ≠ upperHexDigit n := by
    cases special <;>
      simp only [delimiters, List.forall_mem_append, List.forall_mem_cons, List.not_mem_nil,
        false_implies, implies_true, and_true, if_true, Bool.false_eq_true, if_false] <;> decide
  intro c hc
  obtain ⟨hset, hpercent, hdigit⟩ := hset c hc
  rw [← encodeSegment_bareName, toList_encodeSegment (kept_bareName name)]
  exact not_mem_percentEncode hset hpercent hdigit

/-! ## Where a name leads -/

/-- The segments that a name leads to, from the words before it. -/
inductive Leads (special : Bool) (name : String) (words : List String) : List String → Prop
  | segment (h : IsSegmentName (bareName name)) :
      Leads special name words (words ++ [encodeSegment special name])
  | skipped (h : name = "." ∨ name = "..") : Leads special name words words
  | here (hne : name ≠ ".") (h : bareName name = ".") : Leads special name words (words ++ [""])
  | above (hne : name ≠ "..") (h : bareName name = "..") :
      Leads special name words (words.dropLast ++ [""])

theorem exists_leads (special : Bool) (name : String) (words : List String) :
    ∃ parts, Leads special name words parts := by
  by_cases hplace : name = "." ∨ name = ".."
  · exact ⟨_, .skipped hplace⟩
  · by_cases hdot : bareName name = "."
    · exact ⟨_, .here (fun h => hplace (.inl h)) hdot⟩
    · by_cases hdots : bareName name = ".."
      · exact ⟨_, .above (fun h => hplace (.inr h)) hdots⟩
      · exact ⟨_, .segment (isSegmentName_bareName_iff.2 ⟨hdot, hdots⟩)⟩

theorem pushSegment_of_leads (hbefore : front (before ++ words) = before ++ words)
    (hwords : words ≠ [])
    (h : Leads special name words parts) :
    pushSegment special (before ++ words) name = before ++ parts := by
  have hself : ∀ place ∈ [".", ".."], encodeSegment special place = place := by
    cases special <;> decide
  cases h with
  | segment hsegment =>
    have hnot : ¬(name = "." ∨ name = "..") := by
      rintro (rfl | rfl)
      · exact hsegment.dot rfl
      · exact hsegment.dots rfl
    have hdot : encodeSegment special name ≠ "." :=
      encodeSegment_bareName special name ▸ encodeSegment_ne (.inl rfl) hsegment
    have hdots : encodeSegment special name ≠ ".." :=
      encodeSegment_bareName special name ▸ encodeSegment_ne (.inr rfl) hsegment
    simp only [pushSegment]
    rw [if_neg hnot, ← front, hbefore, List.append_assoc]
  | skipped hplace => rw [pushSegment, if_pos hplace]
  | here hne hdot =>
    have hnot : ¬(name = "." ∨ name = "..") := by
      rintro (rfl | rfl)
      · exact hne rfl
      · exact absurd hdot (by decide)
    simp only [pushSegment]
    rw [if_neg hnot, ← front, hbefore, ← encodeSegment_bareName, hdot, hself "." (by decide)]
    exact List.append_assoc ..
  | above hne hdots =>
    have hnot : ¬(name = "." ∨ name = "..") := by
      rintro (rfl | rfl)
      · exact absurd hdots (by decide)
      · exact hne rfl
    simp only [pushSegment]
    rw [if_neg hnot, ← front, hbefore, ← encodeSegment_bareName, hdots, hself ".." (by decide),
      List.dropLast_append_of_ne_nil hwords]
    exact List.append_assoc ..

/-- Where a segment that is decoded to the name follows, the name is no place. -/
theorem Leads.isSegmentName {e : String} (h : Leads special name words parts)
    (hwords : words ≠ []) (hparts : parts = words ++ [e])
    (hdecode : (percentDecode e.toList).toByteArray = (bareName name).toByteArray) :
    IsSegmentName (bareName name) := by
  have hlength := congrArg List.length hparts
  rw [List.length_append, List.length_singleton] at hlength
  cases h with
  | segment hsegment => exact hsegment
  | skipped => omega
  | here _ hdot =>
    obtain rfl : "" = e := List.singleton_inj.1 (List.append_cancel_left hparts)
    rw [hdot] at hdecode
    exact absurd hdecode (by decide)
  | above =>
    have hpositive := List.length_pos_iff.2 hwords
    rw [List.length_append, List.length_singleton, List.length_dropLast] at hlength
    omega

/-- What stays of the base path. -/
def stem (base : List String) : List String :=
  if base = ["", ""] then [] else withoutEmptyEnd base

end Url

open Url

namespace LedgerClient

variable {c : LedgerClient} {base parts : List String} {q q' : Query} {name : String}
  {request : Http.Request}

/-! ## The request for a name -/

/-- The request for a name goes where the name leads, below what stays of the base path. -/
theorem queryRequest_of_name (hbase : c.base.path = .segments base) (hname : q.name? = some name)
    (h : Leads c.base.isSpecial name q.path parts) :
    c.queryRequest q = .ok ⟨.get, { c.base with path := .segments (stem base ++ parts) },
      c.authorization, []⟩ := by
  refine queryRequest_eq_ok_iff.2 ⟨_, ?_, rfl⟩
  rw [append?, hbase, hname]
  simp only [Option.toList_some, List.foldl_append, q.foldl_pushSegment_path, List.foldl_cons,
    List.foldl_nil, front_popIfEmpty]
  rw [pushSegment_of_leads (q.front_append_path _) q.path_ne_nil h, stem]

/-- A name leads to only one path. -/
theorem leads_iff_of_queryRequest (hbase : c.base.path = .segments base)
    (hname : q.name? = some name) (h : c.queryRequest q = .ok request) :
    Leads c.base.isSpecial name q.path parts ↔
      request.url.path = .segments (stem base ++ parts) := by
  constructor
  · intro hleads
    cases (queryRequest_of_name hbase hname hleads).symm.trans h
    rfl
  · intro hpath
    obtain ⟨parts', hleads⟩ := exists_leads c.base.isSpecial name q.path
    cases (queryRequest_of_name hbase hname hleads).symm.trans h
    have hparts : stem base ++ parts' = stem base ++ parts := Path.segments.inj hpath
    rwa [← List.append_cancel_left hparts]

/-! ## Other endpoints -/

/-- No name of a bill leads to where the chains are. -/
theorem not_isPrefix_of_leads {special : Bool}
    (h : Leads special name ["bill", "return"] parts) : ¬["bill", "chain"] <+: parts := by
  cases h <;> simp [List.cons_prefix_cons]

/-- A bill and a chain are never asked for with the same request. -/
theorem queryRequest_chain_ne {name' : String} (h : c.queryRequest (.bill name) = .ok request) :
    c.queryRequest (.chain name') ≠ .ok request := by
  intro hchain
  obtain ⟨base, chainParts, hparts, hbase, _, hprefix⟩ := exists_path_of_queryRequest hchain
  obtain ⟨parts, hleads⟩ := exists_leads c.base.isSpecial name ["bill", "return"]
  have hpath := (leads_iff_of_queryRequest hbase rfl h).1 hleads
  cases hparts.symm.trans hpath
  rw [front_popIfEmpty, ← stem, List.prefix_append_right_inj] at hprefix
  exact not_isPrefix_of_leads hleads hprefix

/-- What is asked for at one endpoint is asked for at no other one. -/
theorem path_eq_of_queryRequest (h : c.queryRequest q = .ok request)
    (h' : c.queryRequest q' = .ok request) : q.path = q'.path := by
  rcases hname : q.name? with _ | name
  · rw [eq_of_queryRequest h' h hname]
  rcases hname' : q'.name? with _ | name'
  · rw [eq_of_queryRequest h h' hname']
  -- Two queries that name something remain.
  cases q with
  | bill =>
    cases q' with
    | bill => rfl
    | chain => exact absurd h' (queryRequest_chain_ne h)
    | _ => cases hname'
  | chain =>
    cases q' with
    | bill => exact absurd h (queryRequest_chain_ne h')
    | chain => rfl
    | _ => cases hname'
  | _ => cases hname

/-! ## One segment for a name -/

/-- The query is asked below the base path, under the words of its endpoint and one more segment,
which is decoded to the name of the query. -/
def NamesOneSegment (c : LedgerClient) (q : Query) : Prop :=
  ∃ base request name e, c.base.path = .segments base ∧ c.queryRequest q = .ok request ∧
    q.name? = some name ∧ request.url.path = .segments (stem base ++ q.path ++ [e]) ∧
    (percentDecode e.toList).toByteArray = (bareName name).toByteArray ∧
    ∀ d ∈ delimiters c.base.isSpecial, d ∉ e.toList

theorem namesOneSegment_iff (hbase : c.base.path = .segments base) (hname : q.name? = some name) :
    c.NamesOneSegment q ↔ bareName name ≠ "." ∧ bareName name ≠ ".." := by
  constructor
  · rintro ⟨base', request, name', e, hbase', hrequest, hname', hpath, hdecode, _⟩
    cases hbase.symm.trans hbase'
    cases hname.symm.trans hname'
    rw [List.append_assoc] at hpath
    have hleads := (leads_iff_of_queryRequest hbase hname hrequest).2 hpath
    have hsegment := hleads.isSegmentName q.path_ne_nil rfl hdecode
    exact ⟨hsegment.dot, hsegment.dots⟩
  · intro hnot
    have hsegment := isSegmentName_bareName_iff.2 hnot
    refine ⟨base, _, name, encodeSegment c.base.isSpecial name, hbase,
      queryRequest_of_name hbase hname (.segment hsegment), hname, ?_, ?_,
      not_mem_encodeSegment_of_delimiter _ _⟩
    · rw [List.append_assoc]
    · rw [← encodeSegment_bareName, decode_encodeSegment hsegment]

/-! ## Accepted settings -/

/-- Below every base URL, a query with a name goes where the name leads, which is never where a
query of another endpoint goes. The name is one segment behind the words of the endpoint, unless it
is a place when tabs and line breaks are dropped. -/
theorem names_keep_to_their_endpoint {url : String} {token : Option String}
    {timeoutSeconds : UInt64} {settings : Settings}
    (h : Settings.ofInput url token timeoutSeconds = .ok settings) (hname : q.name? = some name) :
    ∃ base request, settings.base.path = .segments base ∧
      (ofSettings settings).queryRequest q = .ok request ∧
      request.url = { settings.base with path := request.url.path } ∧
      (∀ parts, request.url.path = .segments (stem base ++ parts) ↔
        Leads settings.base.isSpecial name q.path parts) ∧
      ((ofSettings settings).NamesOneSegment q ↔ bareName name ≠ "." ∧ bareName name ≠ "..") ∧
      ∀ q', (ofSettings settings).queryRequest q' = .ok request → q'.path = q.path := by
  have hbase := (Settings.of_ofInput h).1
  rw [cannotBeBase] at hbase
  split at hbase
  · cases hbase
  next base hpath =>
  have hpath' : (ofSettings settings).base.path = .segments base := hpath
  obtain ⟨parts, hleads⟩ := exists_leads settings.base.isSpecial name q.path
  have hrequest := queryRequest_of_name (c := ofSettings settings) hpath' hname hleads
  exact ⟨base, _, hpath, hrequest, rfl,
    fun _ => (leads_iff_of_queryRequest hpath' hname hrequest).symm,
    namesOneSegment_iff hpath' hname, fun _ hrequest' => path_eq_of_queryRequest hrequest' hrequest⟩

/-- The ledger at the root of the local host. -/
def localSettings : Settings where
  base := {
    scheme := "http"
    host := some (.name "localhost")
    port := some 8000
    path := .segments [""] }
  token := none
  timeoutSeconds := 30

/-- A name that looks like a way to another endpoint is one segment, and one that a tab hides costs
a word. -/
theorem names_keep_to_their_endpoint_hidden :
    Settings.ofInput "http://localhost:8000" none 30 = .ok localSettings ∧
      (ofSettings localSettings).NamesOneSegment (.bill "../contacts/return?#") ∧
      ∃ request, (ofSettings localSettings).queryRequest (.bill ".\t.") = .ok request ∧
        request.url.path = .segments ["bill", ""] ∧
        ∀ q', (ofSettings localSettings).queryRequest q' = .ok request →
          q'.path = ["bill", "return"] := by
  have hsettings : Settings.ofInput "http://localhost:8000" none 30 = .ok localSettings := rfl
  have hbill : ∀ name, (Query.bill name).name? = some name := fun _ => rfl
  obtain ⟨_, _, _, _, _, _, hone, _⟩ :=
    names_keep_to_their_endpoint hsettings (hbill "../contacts/return?#")
  obtain ⟨base, request, hbase, hrequest, _, hleads, _, hother⟩ :=
    names_keep_to_their_endpoint hsettings (hbill ".\t.")
  cases hbase
  refine ⟨hsettings, hone.2 (by decide), request, hrequest, ?_, hother⟩
  exact (hleads _).2 (.above (by decide) (by decide))

/-- The name that means the place itself is skipped, and one that means the place above costs the
last word when it is found out too late. Neither is a segment. -/
theorem not_namesOneSegment_dot :
    Settings.ofInput "http://localhost:8000" none 30 = .ok localSettings ∧
      (∃ request, (ofSettings localSettings).queryRequest (.bill ".") = .ok request ∧
        request.url.path = .segments ["bill", "return"]) ∧
      ¬(ofSettings localSettings).NamesOneSegment (.bill ".") ∧
      (∃ request, (ofSettings localSettings).queryRequest (.chain "\t..") = .ok request ∧
        request.url.path = .segments ["bill", "chain", ""]) ∧
      ¬(ofSettings localSettings).NamesOneSegment (.chain "\t..") := by
  have hbase : (ofSettings localSettings).base.path = .segments [""] := rfl
  refine ⟨rfl, ⟨_, rfl, rfl⟩, ?_, ⟨_, rfl, rfl⟩, ?_⟩
  · rw [namesOneSegment_iff hbase rfl]
    decide
  · rw [namesOneSegment_iff hbase rfl]
    decide

end LedgerClient

end BillDesk
