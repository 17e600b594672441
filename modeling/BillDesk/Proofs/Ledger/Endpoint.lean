import BillDesk.Proofs.Url.Appending
import BillDesk.Proofs.Url.Percent

/-!
# Where a name stands in a URL

A bill is asked for below the base URL: its name is the last segment of the path, behind the words
of the endpoint. The name may hold slashes, percent signs or whatever else divides the parts of a
URL. It is encoded as one segment that holds none of them, and that segment is decoded to the name.
So two names never share a URL. Names that mean a place in the path are no segments, and neither are
those of which a part is dropped.

The segments of the base path stay, all but an empty one at its end. A base path of two empty
segments is lost altogether, since what is left of it looks like the root.

Results:
1. `pushSegment_of_name`: a name is appended as one segment.
2. `front_popIfEmpty`: what stays of the base path.
3. `endpoint_of_name`: the URL of a name.
4. `eq_of_text_urlOfName`: URLs that are written the same belong to the same query.
5. `name_is_last_segment`: all of it for settings that are accepted; `no_empty_segment_stays` for
   the base path that is lost.
-/

namespace BillDesk

namespace Url

/-! ## Names as segments -/

/-- The name is a segment of its own: it means no place, and no part of it is dropped. -/
structure IsSegmentName (name : String) : Prop where
  dot : name ≠ "."
  dots : name ≠ ".."
  kept : ∀ c ∈ name.toList, isDropped c = false

theorem isSegmentName_iff {name : String} : IsSegmentName name ↔
    name ≠ "." ∧ name ≠ ".." ∧ name.toList.all (fun c => !isDropped c) = true := by
  simp only [List.all_eq_true, Bool.not_eq_true']
  exact ⟨fun h => ⟨h.dot, h.dots, h.kept⟩, fun ⟨hdot, hdots, hkept⟩ => ⟨hdot, hdots, hkept⟩⟩

instance (name : String) : Decidable (IsSegmentName name) :=
  decidable_of_iff' _ isSegmentName_iff

/-- The characters that are encoded in a segment. -/
def segmentSet (special : Bool) : Char → Bool :=
  if special then inSpecialSegmentSet else inSegmentSet

theorem segmentSet_percent (special : Bool) : segmentSet special '%' = true := by
  cases special <;> rfl

variable {special : Bool} {name : String} {base : List String}

theorem toList_encodeSegment (hkept : ∀ c ∈ name.toList, isDropped c = false) :
    (encodeSegment special name).toList = percentEncode (segmentSet special) name.toList := by
  have hfilter : name.toList.filter (fun c => !isDropped c) = name.toList :=
    List.filter_eq_self.2 fun c hc => by rw [hkept c hc]; rfl
  rw [encodeSegment, String.toList_ofList, hfilter]
  rfl

/-- The segment is decoded to the name. -/
theorem decode_encodeSegment (h : IsSegmentName name) :
    (percentDecode (encodeSegment special name).toList).toByteArray = name.toByteArray := by
  rw [toList_encodeSegment h.kept, toByteArray_percentDecode (segmentSet_percent special)]

/-- No name looks like a place when it is encoded. -/
theorem encodeSegment_ne {place : String} (hplace : place = "." ∨ place = "..")
    (h : IsSegmentName name) : encodeSegment special name ≠ place := by
  intro heq
  have hself : percentEncode (segmentSet special) place.toList = place.toList := by
    rcases hplace with rfl | rfl <;> cases special <;> rfl
  have hname : name = place := by
    refine percentEncode_injective (segmentSet_percent special) ?_
    rw [← toList_encodeSegment h.kept, heq, hself]
  rcases hplace with rfl | rfl
  · exact h.dot hname
  · exact h.dots hname

theorem pushSegment_of_name (h : IsSegmentName name) (parts : List String) :
    pushSegment special parts name = front parts ++ [encodeSegment special name] := by
  have hdot : encodeSegment special name ≠ "." := encodeSegment_ne (.inl rfl) h
  have hdots : encodeSegment special name ≠ ".." := encodeSegment_ne (.inr rfl) h
  simp only [pushSegment]
  rw [if_neg (by simp [h.dot, h.dots]), front]

theorem encodeSegment_injective {name' : String} (h : IsSegmentName name)
    (h' : IsSegmentName name') (heq : encodeSegment special name = encodeSegment special name') :
    name = name' := by
  refine percentEncode_injective (segmentSet_percent special) ?_
  rw [← toList_encodeSegment h.kept, heq, toList_encodeSegment h'.kept]

/-- Nothing that divides the parts of a special URL occurs in a segment. -/
theorem not_mem_encodeSegment (hkept : ∀ c ∈ name.toList, isDropped c = false) :
    ∀ c ∈ ['/', '\\', '?', '#'], c ∉ (encodeSegment true name).toList := by
  have hset : ∀ c ∈ ['/', '\\', '?', '#'], segmentSet true c = true ∧ c ≠ '%' ∧
      ∀ n < 16, c ≠ upperHexDigit n := by
    simp only [List.forall_mem_cons, List.not_mem_nil, false_implies, implies_true, and_true]
    decide
  intro c hc
  obtain ⟨hset, hpercent, hdigit⟩ := hset c hc
  rw [toList_encodeSegment hkept]
  exact not_mem_percentEncode hset hpercent hdigit

/-! ## What stays of the base path -/

/-- The segments without one empty segment at the end. -/
def withoutEmptyEnd (parts : List String) : List String :=
  if parts.getLast? = some "" then parts.dropLast else parts

theorem front_popIfEmpty (base : List String) :
    front (popIfEmpty base) = if base = ["", ""] then [] else withoutEmptyEnd base := by
  rcases base with _ | ⟨a, _ | ⟨b, rest⟩⟩
  · rfl
  · by_cases ha : a = "" <;> simp [front, popIfEmpty, withoutEmptyEnd, ha]
  · by_cases hlast : (a :: b :: rest).getLast? = some ""
    · rw [popIfEmpty, if_pos ⟨by simp, hlast⟩, withoutEmptyEnd, if_pos hlast, front]
      obtain ⟨parts, hparts⟩ := List.getLast?_eq_some_iff.1 hlast
      rw [hparts, List.dropLast_concat]
      by_cases hroot : parts = [""]
      · rw [hroot]
        rfl
      · have htwo : parts ++ [""] ≠ [""] ++ [""] := fun h => hroot (List.append_cancel_right h)
        exact (if_neg hroot).trans (if_neg htwo).symm
    · have htwo : a :: b :: rest ≠ ["", ""] := fun h => hlast (by rw [h]; rfl)
      rw [popIfEmpty, if_neg (fun h => hlast h.2), withoutEmptyEnd, if_neg hlast, if_neg htwo,
        front, if_neg (by simp)]

/-! ## Written paths -/

theorem text_segments_append (parts parts' : List String) :
    (Path.segments (parts ++ parts')).text =
      (Path.segments parts).text ++ (Path.segments parts').text := by
  simp only [Path.text, List.map_append, String.join_append]

/-- What stands before the path depends on whether it begins with an empty segment and another. -/
theorem authorityText_eq (u : Url) {a b b' : String} {rest rest' : List String} :
    authorityText { u with path := .segments (a :: b :: rest) } =
      authorityText { u with path := .segments (a :: b' :: rest') } := by
  cases hhost : u.host with
  | some host => rfl
  | none => by_cases ha : a = "" <;> simp [authorityText, ha]

theorem authorityText_append (u : Url) (stem : List String) {a b b' : String}
    {rest rest' : List String} :
    authorityText { u with path := .segments (stem ++ a :: b :: rest) } =
      authorityText { u with path := .segments (stem ++ a :: b' :: rest') } := by
  rcases stem with _ | ⟨x, _ | ⟨y, stem⟩⟩ <;> exact authorityText_eq u

end Url

open Url

/-! ## The URL of a name -/

namespace LedgerClient

variable {c : LedgerClient} {base : List String} {q q' : Query} {name name' : String}

/-- The base URL with a path that ends with the name. -/
def urlOfName (c : LedgerClient) (base : List String) (q : Query) (name : String) : Url :=
  { c.base with
    path := .segments ((if base = ["", ""] then [] else withoutEmptyEnd base) ++ q.path ++
      [encodeSegment c.base.isSpecial name]) }

theorem endpoint_of_name (hbase : c.base.path = .segments base) (hname : q.name? = some name)
    (h : IsSegmentName name) : c.endpoint q.path q.name? = .ok (c.urlOfName base q name) := by
  have happend : c.base.append? (q.path ++ [name]) = some (c.urlOfName base q name) := by
    rw [append?, hbase]
    simp only [List.foldl_append, q.foldl_pushSegment_path, List.foldl_cons, List.foldl_nil,
      pushSegment_of_name h, q.front_append_path, front_popIfEmpty, urlOfName]
  rw [endpoint, hname, Option.toList_some, happend]

/-- All URLs of names are written the same but for the words of the endpoint and the name. -/
theorem exists_text_urlOfName (c : LedgerClient) (base : List String) :
    ∃ before after, ∀ {q : Query} {name : String}, q.name? = some name →
      (c.urlOfName base q name).text = before ++
        (Path.segments (q.path ++ [encodeSegment c.base.isSpecial name])).text ++ after := by
  let stem := if base = ["", ""] then [] else withoutEmptyEnd base
  let start : Url := { c.base with path := .segments (stem ++ ["bill", "return"]) }
  refine ⟨start.scheme ++ ":" ++ start.authorityText ++ (Path.segments stem).text,
    (start.query.map ("?" ++ ·)).getD "" ++ (start.fragment.map ("#" ++ ·)).getD "", ?_⟩
  intro q name hname
  have hauthority : (c.urlOfName base q name).authorityText = start.authorityText := by
    rw [urlOfName, List.append_assoc]
    cases q with
    | bill => exact authorityText_append c.base stem
    | chain => exact authorityText_append c.base stem
    | _ => cases hname
  have hpath : (c.urlOfName base q name).path.text = (Path.segments stem).text ++
      (Path.segments (q.path ++ [encodeSegment c.base.isSpecial name])).text := by
    rw [← text_segments_append, ← List.append_assoc]
    rfl
  rw [Url.text, hauthority, hpath]
  simp only [String.append_assoc]
  rfl

/-- The path of a bill is never that of a chain. -/
theorem text_bill_ne_text_chain (s s' : String) :
    (Path.segments ["bill", "return", s]).text ≠
      (Path.segments ["bill", "chain", "return", s']).text := by
  intro h
  have hletter : (Path.segments ["bill", "return", s]).text.toList[6]? =
      (Path.segments ["bill", "chain", "return", s']).text.toList[6]? := by rw [h]
  simp [Path.text, String.join] at hletter

/-- The last segment is found in the written path. -/
theorem text_concat_inj {words : List String} {s s' : String} :
    (Path.segments (words ++ [s])).text = (Path.segments (words ++ [s'])).text ↔ s = s' := by
  have hsingle : ∀ t, (Path.segments [t]).text = "/" ++ t := by
    intro t
    simp [Path.text, String.join]
  rw [text_segments_append, text_segments_append, String.append_right_inj, hsingle, hsingle,
    String.append_right_inj]

/-- URLs of names that are written the same belong to the same query. -/
theorem eq_of_text_urlOfName (hname : q.name? = some name) (hname' : q'.name? = some name')
    (h : IsSegmentName name) (h' : IsSegmentName name')
    (htext : (c.urlOfName base q name).text = (c.urlOfName base q' name').text) : q = q' := by
  obtain ⟨before, after, hwritten⟩ := exists_text_urlOfName c base
  rw [hwritten hname, hwritten hname', String.append_left_inj, String.append_right_inj] at htext
  cases q with
  | bill =>
    cases hname
    cases q' with
    | bill =>
      cases hname'
      rw [encodeSegment_injective h h' (text_concat_inj.1 htext)]
    | chain => exact absurd htext (text_bill_ne_text_chain _ _)
    | _ => cases hname'
  | chain =>
    cases hname
    cases q' with
    | bill => exact absurd htext.symm (text_bill_ne_text_chain _ _)
    | chain =>
      cases hname'
      rw [encodeSegment_injective h h' (text_concat_inj.1 htext)]
    | _ => cases hname'
  | _ => cases hname

/-! ## Accepted settings -/

/-- Below a base URL of HTTP, a name is the last segment of the path, behind the words of the
endpoint. The segment is decoded to the name, and no two queries share a URL. -/
theorem name_is_last_segment {url : String} {token : Option String} {timeoutSeconds : UInt64}
    {settings : Settings} (h : Settings.ofInput url token timeoutSeconds = .ok settings)
    (hscheme : settings.base.scheme = "http" ∨ settings.base.scheme = "https")
    (hname : q.name? = some name) (hsegment : IsSegmentName name) :
    (∃ base e, settings.base.path = .segments base ∧
      (ofSettings settings).endpoint q.path q.name? = .ok { settings.base with
        path := .segments ((if base = ["", ""] then [] else withoutEmptyEnd base) ++ q.path ++
          [e]) } ∧
      (percentDecode e.toList).toByteArray = name.toByteArray ∧
      ∀ c ∈ ['/', '\\', '?', '#'], c ∉ e.toList) ∧
    ∀ q' name' u u', q'.name? = some name' → IsSegmentName name' →
      (ofSettings settings).endpoint q.path q.name? = .ok u →
      (ofSettings settings).endpoint q'.path q'.name? = .ok u' → u.text = u'.text → q = q' := by
  have hbase := (Settings.of_ofInput h).1
  rw [cannotBeBase] at hbase
  split at hbase
  · cases hbase
  next base hpath =>
  have hspecial : settings.base.isSpecial = true := by
    rcases hscheme with hscheme | hscheme <;> rw [isSpecial, hscheme] <;> rfl
  have hpath' : (ofSettings settings).base.path = .segments base := hpath
  refine ⟨⟨base, encodeSegment settings.base.isSpecial name, hpath,
    endpoint_of_name hpath' hname hsegment, decode_encodeSegment hsegment, ?_⟩, ?_⟩
  · rw [hspecial]
    exact not_mem_encodeSegment hsegment.kept
  · intro q' name' u u' hname' hsegment' hu hu' htext
    rw [endpoint_of_name hpath' hname hsegment] at hu
    rw [endpoint_of_name hpath' hname' hsegment'] at hu'
    cases hu
    cases hu'
    exact eq_of_text_urlOfName hname hname' hsegment hsegment' htext

/-- A base URL with everything that a URL of HTTP may have. -/
def apiSettings : Settings where
  base := {
    scheme := "http"
    user := "desk"
    password := some "pw"
    host := some (.name "localhost")
    port := some 8000
    path := .segments ["api", ""]
    query := some "v=1" }
  token := some "secret"
  timeoutSeconds := 30

/-- A name that holds every delimiter, and one that looks encoded. -/
theorem name_is_last_segment_delimiters :
    Settings.ofInput "http://desk:pw@localhost:8000/api/?v=1" (some "secret") 30 =
        .ok apiSettings ∧
      (∃ e, (ofSettings apiSettings).endpoint ["bill", "return"] (some "a/b?c#d\\e f%ü") =
          .ok { apiSettings.base with path := .segments ["api", "bill", "return", e] } ∧
        (percentDecode e.toList).toByteArray = "a/b?c#d\\e f%ü".toByteArray) ∧
      ∀ u u', (ofSettings apiSettings).endpoint ["bill", "return"] (some "a/b") = .ok u →
        (ofSettings apiSettings).endpoint ["bill", "return"] (some "a%2Fb") = .ok u' →
        u.text ≠ u'.text := by
  have hsettings : Settings.ofInput "http://desk:pw@localhost:8000/api/?v=1" (some "secret") 30 =
      .ok apiSettings := rfl
  have hdelimiters : IsSegmentName "a/b?c#d\\e f%ü" := by decide
  have hslash : IsSegmentName "a/b" := by decide
  have hencoded : IsSegmentName "a%2Fb" := by decide
  have hbill : ∀ name, (Query.bill name).name? = some name := fun _ => rfl
  obtain ⟨⟨base, e, hbase, hendpoint, hdecode, _⟩, _⟩ :=
    name_is_last_segment hsettings (.inl rfl) (hbill _) hdelimiters
  cases hbase
  refine ⟨hsettings, ⟨e, hendpoint, hdecode⟩, fun u u' hu hu' htext => ?_⟩
  have hsame := (name_is_last_segment hsettings (.inl rfl) (hbill _) hslash).2 (.bill "a%2Fb") _
    u u' rfl hencoded hu hu' htext
  exact absurd hsame (by decide)

/-- A base URL with a path of two empty segments. -/
def emptySettings : Settings where
  base := {
    scheme := "http"
    host := some (.name "localhost")
    path := .segments ["", ""] }
  token := none
  timeoutSeconds := 30

/-- Of two empty segments none stays. -/
theorem no_empty_segment_stays :
    Settings.ofInput "http://localhost//" none 30 = .ok emptySettings ∧
      (ofSettings emptySettings).endpoint ["bill", "return"] (some "bill-1") =
        .ok { emptySettings.base with path := .segments ["bill", "return", "bill-1"] } ∧
      ∀ e, (ofSettings emptySettings).endpoint ["bill", "return"] (some "bill-1") ≠
        .ok { emptySettings.base with
          path := .segments (withoutEmptyEnd ["", ""] ++ ["bill", "return"] ++ [e]) } := by
  have hendpoint : (ofSettings emptySettings).endpoint ["bill", "return"] (some "bill-1") =
      .ok { emptySettings.base with path := .segments ["bill", "return", "bill-1"] } := rfl
  refine ⟨rfl, hendpoint, fun e he => ?_⟩
  rw [hendpoint] at he
  simp [withoutEmptyEnd] at he

end LedgerClient

end BillDesk
