import BillDesk.Proofs.Json.Strictness

/-!
# Lines of JSON texts

No token of a JSON text holds a line break, and after a line break stands white space or a token. So
no line of a JSON text begins with a character that no token begins with, such as a letter in upper
case.

Results:
1. `Begins.of_append`: a line of two texts in a row is one of either.
2. `not_begins_of_spells`: by induction on the grammar, no part of a text has such a line.
3. `read?_eq_none_of_begins`: a text with such a line is not read.
-/

namespace BillDesk.Json

/-- No token begins with the character, and it is no white space. -/
def isForeign (c : Char) : Bool :=
  !isSpace c && !Text.isDigit c && !"ntf\"[]\x7b\x7d,:-".toList.contains c

/-- A line but the first begins with the character. -/
def HasLine (c : Char) (cs : List Char) : Prop := ∃ front back, cs = front ++ '\n' :: c :: back

/-- A line begins with the character. -/
def Begins (c : Char) (cs : List Char) : Prop := (∃ back, cs = c :: back) ∨ HasLine c cs

variable {c d : Char} {cs ds : List Char}

/-! ## Lines of parts -/

/-- A line of two texts in a row is one of either. -/
theorem Begins.of_append (h : Begins c (cs ++ ds)) : Begins c cs ∨ Begins c ds := by
  rcases h with ⟨back, h⟩ | ⟨front, back, h⟩
  · rcases cs with _ | ⟨d, cs⟩
    · exact .inr (.inl ⟨back, h⟩)
    · cases h
      exact .inl (.inl ⟨cs, rfl⟩)
  · rcases List.append_eq_append_iff.1 h with ⟨part, _, hpart⟩ | ⟨part, rfl, hpart⟩
    · exact .inr (.inr ⟨part, back, hpart⟩)
    · -- The break and the character may stand on either side of the seam.
      rcases part with _ | ⟨_, _ | ⟨_, part⟩⟩
      · exact .inr (.inr ⟨[], back, hpart.symm⟩)
      · cases hpart
        exact .inr (.inl ⟨back, rfl⟩)
      · cases hpart
        exact .inl (.inr ⟨front, part, rfl⟩)

theorem not_begins_append (h : ¬Begins c cs) (h' : ¬Begins c ds) : ¬Begins c (cs ++ ds) :=
  fun happend => happend.of_append.elim h h'

theorem not_begins_of_not_mem (h : c ∉ cs) : ¬Begins c cs := by
  rintro (⟨back, rfl⟩ | ⟨front, back, rfl⟩) <;> simp at h

theorem not_begins_nil : ¬Begins c [] := not_begins_of_not_mem List.not_mem_nil

/-- A word without a line break has one line. -/
theorem not_begins_word (hd : d ≠ c) (hbreak : '\n' ∉ d :: cs) : ¬Begins c (d :: cs) := by
  rintro (⟨back, h⟩ | ⟨front, back, h⟩)
  · cases h
    exact hd rfl
  · rw [h] at hbreak
    simp at hbreak

section Foreign

variable (hc : isForeign c = true)

include hc

theorem ne_of_isForeign (hd : isForeign d = false) : d ≠ c := by
  rintro rfl
  exact absurd (hd.symm.trans hc) (by decide)

theorem not_begins_cons (hd : isForeign d = false) (h : ¬Begins c cs) : ¬Begins c (d :: cs) := by
  have hsingle : ¬Begins c [d] := not_begins_of_not_mem (by
    simpa using (ne_of_isForeign hc hd).symm)
  exact not_begins_append hsingle h

theorem not_begins_gap (h : IsGap cs) : ¬Begins c cs := by
  refine not_begins_of_not_mem fun hmem => ?_
  have hspace := h c hmem
  simp [isForeign, hspace] at hc

/-- A line feed at the end begins no line. -/
theorem Begins.of_append_lineFeed (h : Begins c (cs ++ ['\n'])) : Begins c cs :=
  h.of_append.resolve_right (not_begins_cons hc rfl not_begins_nil)

end Foreign

/-! ## Tokens -/

theorem not_mem_of_hexUnit {a b c d : Char} {u : Nat} (h : hexUnit a b c d = some u) :
    '\n' ∉ [a, b, c, d] := by
  simp only [hexUnit, Option.bind_eq_bind, Option.bind_eq_some_iff] at h
  obtain ⟨_, ha, _, hb, _, hc, _, hd, _⟩ := h
  intro hbreak
  simp only [List.mem_cons, List.not_mem_nil, or_false] at hbreak
  rcases hbreak with rfl | rfl | rfl | rfl
  · cases ha
  · cases hb
  · cases hc
  · cases hd

theorem not_mem_of_spellsUnit {u : Nat} (h : SpellsUnit cs u) : '\n' ∉ cs := by
  cases h with
  | raw _ _ hcontrol =>
    intro hbreak
    obtain rfl := List.mem_singleton.1 hbreak
    exact absurd hcontrol (by decide)
  | short h =>
    intro hbreak
    simp only [List.mem_cons, List.not_mem_nil, or_false] at hbreak
    rcases hbreak with hbreak | rfl
    · cases hbreak
    · cases h
  | hex h =>
    have hdigits := not_mem_of_hexUnit h
    simp_all

theorem not_mem_of_spellsUnits {us : List Nat} (h : SpellsUnits cs us) : '\n' ∉ cs := by
  induction h with
  | nil => exact List.not_mem_nil
  | cons h _ ih => exact fun hbreak => (List.mem_append.1 hbreak).elim (not_mem_of_spellsUnit h) ih

theorem not_begins_of_spellsText (hc : isForeign c = true) {t : Text} (h : SpellsText cs t) :
    ¬Begins c cs := by
  obtain ⟨h⟩ := h
  refine not_begins_word (ne_of_isForeign hc rfl) ?_
  have hunits := not_mem_of_spellsUnits h
  simp_all

theorem IsDigits.not_mem (h : IsDigits cs) : '\n' ∉ cs :=
  fun hbreak => absurd (h.digits _ hbreak) (by decide)

theorem IsFraction.not_mem (h : IsFraction cs) : '\n' ∉ cs := by
  cases h with
  | none => exact List.not_mem_nil
  | point h =>
    have hdigits := h.not_mem
    simp_all

theorem IsExponent.not_mem (h : IsExponent cs) : '\n' ∉ cs := by
  cases h with
  | none => exact List.not_mem_nil
  | letter he hsign h =>
    have hdigits := h.not_mem
    rcases he with rfl | rfl <;> rcases hsign with rfl | rfl | rfl <;> simp_all

theorem not_mem_signChars (negative : Bool) : '\n' ∉ signChars negative := by
  cases negative <;> decide

theorem not_begins_of_spellsNumber (hc : isForeign c = true) {v : Value} (h : SpellsNumber cs v) :
    ¬Begins c cs := by
  have hbreak : '\n' ∉ cs := by
    cases h with
    | integer negative h =>
      have hsign := not_mem_signChars negative
      have hdigits := h.toIsDigits.not_mem
      simp_all
    | decimal negative h hfraction hexponent _ =>
      have hsign := not_mem_signChars negative
      have hdigits := h.toIsDigits.not_mem
      have hpoint := hfraction.not_mem
      have hletter := hexponent.not_mem
      simp_all
  obtain ⟨d, cs, rfl, hd⟩ := h.exists_cons
  refine not_begins_word (ne_of_isForeign hc ?_) hbreak
  rcases hd with rfl | hd
  · rfl
  · simp [isForeign, hd]

/-! ## Values -/

/-- No part of a JSON text has a line that begins with the character. -/
theorem not_begins_of_spells (hc : isForeign c = true) {part : Part} (h : Spells cs part) :
    ¬Begins c cs := by
  induction h with
  | null => exact not_begins_word (ne_of_isForeign hc rfl) (by decide)
  | true => exact not_begins_word (ne_of_isForeign hc rfl) (by decide)
  | false => exact not_begins_word (ne_of_isForeign hc rfl) (by decide)
  | number h => exact not_begins_of_spellsNumber hc h
  | string h => exact not_begins_of_spellsText hc h
  | emptyArray hgap =>
    exact not_begins_cons hc rfl
      (not_begins_append (not_begins_gap hc hgap) (not_begins_cons hc rfl not_begins_nil))
  | array _ ih =>
    exact not_begins_cons hc rfl (not_begins_append ih (not_begins_cons hc rfl not_begins_nil))
  | emptyObject hgap =>
    exact not_begins_cons hc rfl
      (not_begins_append (not_begins_gap hc hgap) (not_begins_cons hc rfl not_begins_nil))
  | object _ ih =>
    exact not_begins_cons hc rfl (not_begins_append ih (not_begins_cons hc rfl not_begins_nil))
  | lastElement hbefore _ hafter ih =>
    exact not_begins_append (not_begins_gap hc hbefore)
      (not_begins_append ih (not_begins_gap hc hafter))
  | element hbefore _ hafter _ ih ihrest =>
    exact not_begins_append (not_begins_gap hc hbefore) (not_begins_append ih
      (not_begins_append (not_begins_gap hc hafter) (not_begins_cons hc rfl ihrest)))
  | named hkey hbefore hafter _ ih =>
    exact not_begins_append (not_begins_of_spellsText hc hkey)
      (not_begins_append (not_begins_gap hc hbefore) (not_begins_cons hc rfl
        (not_begins_append (not_begins_gap hc hafter) ih)))
  | lastMember hbefore _ hafter ih =>
    exact not_begins_append (not_begins_gap hc hbefore)
      (not_begins_append ih (not_begins_gap hc hafter))
  | member hbefore _ hafter _ ih ihrest =>
    exact not_begins_append (not_begins_gap hc hbefore) (not_begins_append ih
      (not_begins_append (not_begins_gap hc hafter) (not_begins_cons hc rfl ihrest)))

/-- A text with a line that begins with such a character is no JSON text. -/
theorem read?_eq_none_of_begins {s : String} (hc : isForeign c = true) (h : Begins c s.toList) :
    read? s = none := by
  rw [Option.eq_none_iff_forall_ne_some]
  intro v hread
  obtain ⟨before, cs, after, hbefore, hspells, hafter, hs⟩ := read?_eq_some_iff.1 hread
  rw [hs] at h
  exact not_begins_append (not_begins_gap hc hbefore)
    (not_begins_append (not_begins_of_spells hc hspells) (not_begins_gap hc hafter)) h

end BillDesk.Json
