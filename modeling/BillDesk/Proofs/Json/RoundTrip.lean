import BillDesk.Proofs.Json.Reading
import BillDesk.Proofs.Json.Strings

/-!
# Reading JSON back

What the writer makes of a value is a text that spells it, in either layout, and so it is read as
that value. The layouts differ in nothing but the white space between the tokens, so both are put
together from the same pieces.

Results:
1. `spells_compactChars` and `spells_prettyChars`: every value is spelled as it is written.
2. `read?_compact`, `read?_pretty` and `read?_pretty_line`: a whole text is read back.
-/

namespace BillDesk.Json

/-! ## White space -/

theorem isGap_space : IsGap [' '] := by simp [IsGap, isSpace]

theorem isGap_lineFeed : IsGap ['\n'] := by simp [IsGap, isSpace]

theorem isGap_newLine (depth : Nat) : IsGap (newLine depth) := by
  intro c hc
  rcases List.mem_cons.1 hc with rfl | hc
  · rfl
  · rw [(List.mem_replicate.1 hc).2]
    rfl

/-! ## Pieces -/

theorem isWhole_repr (n : Nat) : IsWhole (Nat.repr n).toList where
  digits _ := Text.isDigit_of_mem_repr
  nonempty := Text.repr_ne_nil n
  alone hzero := by
    rw [Text.eq_zero_of_head?_repr hzero]
    rfl

theorem spells_integer (negative : Bool) (n : Nat) :
    Spells (scalar (.integer negative n)) (.value (.integer negative n)) := by
  have hnumber := SpellsNumber.integer negative (isWhole_repr n)
  rw [Text.digitsValue_repr] at hnumber
  exact .number hnumber

/-- The characters follow the first element of an array, up to the closing bracket. -/
def EndsElements (tail : List Char) (vs : List Value) : Prop :=
  ∀ {gap cs : List Char} {v : Value}, IsGap gap → Spells cs (.value v) →
    ∃ ds, gap ++ (cs ++ tail) = ds ++ [']'] ∧ Spells ds (.elements (v :: vs))

/-- The characters follow the first member of an object, up to the closing brace. -/
def EndsMembers (tail : List Char) (ms : List (Text × Value)) : Prop :=
  ∀ {gap cs : List Char} {name : Text} {v : Value}, IsGap gap → Spells cs (.member name v) →
    ∃ ds, gap ++ (cs ++ tail) = ds ++ ['}'] ∧ Spells ds (.members ((name, v) :: ms))

section Parts

variable {gap space cs tail : List Char} {name : Text} {v : Value} {vs : List Value}
  {ms : List (Text × Value)}

theorem endsElements_nil (hgap : IsGap gap) : EndsElements (gap ++ [']']) [] :=
  fun hbefore h => ⟨_, by simp only [List.append_assoc], .lastElement hbefore h hgap⟩

theorem endsElements_cons (hgap : IsGap gap) (h : Spells cs (.value v))
    (hmore : EndsElements tail vs) : EndsElements (',' :: (gap ++ (cs ++ tail))) (v :: vs) := by
  intro before first v' hbefore hfirst
  obtain ⟨ds, hds, hspells⟩ := hmore hgap h
  refine ⟨_, ?_, .element hbefore hfirst isGap_nil hspells⟩
  simp only [hds, List.nil_append, List.append_assoc, List.cons_append]

theorem spells_array (hgap : IsGap gap) (h : Spells cs (.value v)) (hmore : EndsElements tail vs) :
    Spells ('[' :: (gap ++ (cs ++ tail))) (.value (.array (v :: vs))) := by
  obtain ⟨ds, hds, hspells⟩ := hmore hgap h
  rw [hds]
  exact .array hspells

theorem spells_member (t : Text) (hspace : IsGap space) (h : Spells cs (.value v)) :
    Spells (quote t ++ ':' :: (space ++ cs)) (.member t v) :=
  .named (spellsText_quote t) isGap_nil hspace h

theorem endsMembers_nil (hgap : IsGap gap) : EndsMembers (gap ++ ['}']) [] :=
  fun hbefore h => ⟨_, by simp only [List.append_assoc], .lastMember hbefore h hgap⟩

theorem endsMembers_cons (hgap : IsGap gap) (h : Spells cs (.member name v))
    (hmore : EndsMembers tail ms) :
    EndsMembers (',' :: (gap ++ (cs ++ tail))) ((name, v) :: ms) := by
  intro before first name' v' hbefore hfirst
  obtain ⟨ds, hds, hspells⟩ := hmore hgap h
  refine ⟨_, ?_, .member hbefore hfirst isGap_nil hspells⟩
  simp only [hds, List.nil_append, List.append_assoc, List.cons_append]

theorem spells_object (hgap : IsGap gap) (h : Spells cs (.member name v))
    (hmore : EndsMembers tail ms) :
    Spells ('{' :: (gap ++ (cs ++ tail))) (.value (.object ((name, v) :: ms))) := by
  obtain ⟨ds, hds, hspells⟩ := hmore hgap h
  rw [hds]
  exact .object hspells

end Parts

/-! ## Both layouts -/

/-- Every number in the value is an integer. The others are read and never written. -/
inductive Value.Integral : Value → Prop
  | null : Integral .null
  | bool (b : Bool) : Integral (.bool b)
  | integer (negative : Bool) (magnitude : Nat) : Integral (.integer negative magnitude)
  | string (t : Text) : Integral (.string t)
  | array {vs : List Value} (h : ∀ v ∈ vs, Integral v) : Integral (.array vs)
  | object {ms : List (Text × Value)} (h : ∀ m ∈ ms, Integral m.2) : Integral (.object ms)

theorem endsElements_compact {vs : List Value}
    (h : ∀ v ∈ vs, Spells (compactChars v) (.value v)) : EndsElements (compactElements vs) vs := by
  induction vs with
  | nil => exact endsElements_nil isGap_nil
  | cons v vs ih =>
    obtain ⟨hv, hvs⟩ := List.forall_mem_cons.1 h
    exact endsElements_cons isGap_nil hv (ih hvs)

/-- A name with its value, in front of the other members. -/
theorem compact_member_eq (t : Text) (cs tail : List Char) :
    quote t ++ ':' :: (cs ++ tail) = (quote t ++ ':' :: ([] ++ cs)) ++ tail := by
  simp only [List.nil_append, List.append_assoc, List.cons_append]

theorem pretty_member_eq (t : Text) (cs tail : List Char) :
    quote t ++ ':' :: ' ' :: (cs ++ tail) = (quote t ++ ':' :: ([' '] ++ cs)) ++ tail := by
  simp only [List.nil_append, List.append_assoc, List.cons_append]

theorem endsMembers_compact {ms : List (Text × Value)}
    (h : ∀ m ∈ ms, Spells (compactChars m.2) (.value m.2)) :
    EndsMembers (compactMembers ms) ms := by
  induction ms with
  | nil => exact endsMembers_nil isGap_nil
  | cons m ms ih =>
    obtain ⟨hm, hms⟩ := List.forall_mem_cons.1 h
    rw [compactMembers, compact_member_eq]
    exact endsMembers_cons isGap_nil (spells_member m.1 isGap_nil hm) (ih hms)

/-- Every value is spelled by its compact text. -/
theorem spells_compactChars {v : Value} (h : v.Integral) : Spells (compactChars v) (.value v) := by
  induction h with
  | null => exact .null
  | bool b =>
    cases b with
    | true => exact .true
    | false => exact .false
  | integer negative magnitude => exact spells_integer negative magnitude
  | string t => exact .string (spellsText_quote t)
  | @array vs _ ih =>
    cases vs with
    | nil => exact .emptyArray isGap_nil
    | cons v vs =>
      obtain ⟨hv, hvs⟩ := List.forall_mem_cons.1 ih
      exact spells_array isGap_nil hv (endsElements_compact hvs)
  | @object ms _ ih =>
    cases ms with
    | nil => exact .emptyObject isGap_nil
    | cons m ms =>
      obtain ⟨hm, hms⟩ := List.forall_mem_cons.1 ih
      rw [compactChars, compact_member_eq]
      exact spells_object isGap_nil (spells_member m.1 isGap_nil hm) (endsMembers_compact hms)

theorem endsElements_pretty {depth : Nat} {vs : List Value}
    (h : ∀ v ∈ vs, Spells (prettyChars (depth + 1) v) (.value v)) :
    EndsElements (prettyElements depth vs) vs := by
  induction vs with
  | nil => exact endsElements_nil (isGap_newLine depth)
  | cons v vs ih =>
    obtain ⟨hv, hvs⟩ := List.forall_mem_cons.1 h
    exact endsElements_cons (isGap_newLine _) hv (ih hvs)

theorem endsMembers_pretty {depth : Nat} {ms : List (Text × Value)}
    (h : ∀ m ∈ ms, Spells (prettyChars (depth + 1) m.2) (.value m.2)) :
    EndsMembers (prettyMembers depth ms) ms := by
  induction ms with
  | nil => exact endsMembers_nil (isGap_newLine depth)
  | cons m ms ih =>
    obtain ⟨hm, hms⟩ := List.forall_mem_cons.1 h
    rw [prettyMembers, pretty_member_eq]
    exact endsMembers_cons (isGap_newLine _) (spells_member m.1 isGap_space hm) (ih hms)

/-- Every value is spelled by its lines, at whatever depth they stand. -/
theorem spells_prettyChars {v : Value} (h : v.Integral) (depth : Nat) :
    Spells (prettyChars depth v) (.value v) := by
  induction h generalizing depth with
  | null => exact .null
  | bool b =>
    cases b with
    | true => exact .true
    | false => exact .false
  | integer negative magnitude => exact spells_integer negative magnitude
  | string t => exact .string (spellsText_quote t)
  | @array vs _ ih =>
    cases vs with
    | nil => exact .emptyArray isGap_nil
    | cons v vs =>
      obtain ⟨hv, hvs⟩ := List.forall_mem_cons.1 ih
      exact spells_array (isGap_newLine _) (hv _) (endsElements_pretty fun v hmem => hvs v hmem _)
  | @object ms _ ih =>
    cases ms with
    | nil => exact .emptyObject isGap_nil
    | cons m ms =>
      obtain ⟨hm, hms⟩ := List.forall_mem_cons.1 ih
      rw [prettyChars, pretty_member_eq]
      exact spells_object (isGap_newLine _) (spells_member m.1 isGap_space (hm _))
        (endsMembers_pretty fun m hmem => hms m hmem _)

/-! ## Whole texts -/

/-- A value may have white space behind it. -/
theorem isText_ofList {cs gap : List Char} {v : Value} (h : Spells cs (.value v))
    (hgap : IsGap gap) : IsText (String.ofList (cs ++ gap)) v :=
  ⟨[], cs, gap, isGap_nil, h, hgap, String.toList_ofList⟩

theorem isText_compact {v : Value} (h : v.Integral) : IsText (compact v) v := by
  have htext := isText_ofList (spells_compactChars h) isGap_nil
  rwa [List.append_nil] at htext

theorem read?_compact {v : Value} (h : v.Integral) : read? (compact v) = some v :=
  read?_of_isText (isText_compact h)

theorem read?_pretty {v : Value} (h : v.Integral) : read? (pretty v) = some v := by
  have htext := isText_ofList (spells_prettyChars h 0) isGap_nil
  rw [List.append_nil] at htext
  exact read?_of_isText htext

/-- What the command line prints ends with a line feed. -/
theorem read?_pretty_line {v : Value} (h : v.Integral) : read? (pretty v ++ "\n") = some v := by
  have htext := isText_ofList (spells_prettyChars h 0) isGap_lineFeed
  rw [String.ofList_append] at htext
  exact read?_of_isText htext

end BillDesk.Json
