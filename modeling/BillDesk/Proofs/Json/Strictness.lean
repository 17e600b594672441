import BillDesk.Proofs.Json.Reading

/-!
# Nothing but JSON is read

What the reader takes for a value spells that value by the grammar, so the reader accepts the texts
of the grammar and no others. Each reader stops at what remains, and what it took before that is
what it has read.

Results:
1. `spellsText_of_readText` and `spellsNumber_of_readNumber`: strings and numbers.
2. `spelled_read`: values, elements and members, together by induction on the fuel.
3. `read?_eq_some_iff`: a text is read as a value exactly when it spells the value.
-/

namespace BillDesk.Json

/-! ## White space -/

theorem exists_gap_skipSpace (cs : List Char) : ∃ gap, IsGap gap ∧ cs = gap ++ skipSpace cs :=
  ⟨cs.takeWhile isSpace, List.all_eq_true.1 List.all_takeWhile,
    List.takeWhile_append_dropWhile.symm⟩

/-! ## Strings -/

theorem spellsUnits_of_readUnits {cs rest : List Char} {us : List Nat}
    (h : readUnits cs = some (us, rest)) : ∃ ds, cs = ds ++ '"' :: rest ∧ SpellsUnits ds us := by
  fun_induction readUnits cs generalizing us with
  | case1 => cases h
  | case2 r =>
    cases h
    exact ⟨[], rfl, .nil⟩
  | case3 a b c d r ih =>
    obtain ⟨u, hunit, h⟩ := Option.bind_eq_some_iff.1 h
    obtain ⟨⟨us', rest'⟩, hrest, h⟩ := Option.bind_eq_some_iff.1 h
    cases h
    obtain ⟨ds, rfl, hds⟩ := ih hrest
    exact ⟨_, rfl, .cons (.hex hunit) hds⟩
  | case4 e r _ ih =>
    obtain ⟨c, hescape, h⟩ := Option.bind_eq_some_iff.1 h
    obtain ⟨⟨us', rest'⟩, hrest, h⟩ := Option.bind_eq_some_iff.1 h
    cases h
    obtain ⟨ds, rfl, hds⟩ := ih hrest
    exact ⟨_, rfl, .cons (.short hescape) hds⟩
  | case5 => cases h
  | case6 c r hquote _ _ hraw ih =>
    obtain ⟨⟨us', rest'⟩, hrest, h⟩ := Option.bind_eq_some_iff.1 h
    cases h
    obtain ⟨ds, rfl, hds⟩ := ih hrest
    simp only [Bool.or_eq_true, decide_eq_true_eq, not_or, Nat.not_lt] at hraw
    exact ⟨_, rfl, .cons (.raw hquote hraw.2 hraw.1) hds⟩

theorem spellsText_of_readText {cs rest : List Char} {t : Text} (h : readText cs = some (t, rest)) :
    ∃ ds, '"' :: cs = ds ++ rest ∧ SpellsText ds t := by
  obtain ⟨⟨us, rest'⟩, hunits, h⟩ := Option.map_eq_some_iff.1 h
  cases h
  obtain ⟨ds, rfl, hds⟩ := spellsUnits_of_readUnits hunits
  exact ⟨'"' :: (ds ++ ['"']), by simp, .intro hds⟩

/-! ## Numbers -/

section Number

variable {cs rest ds e : List Char}

theorem isDigits_spanDigits (hne : ¬(Text.spanDigits cs).1.isEmpty = true) :
    IsDigits (Text.spanDigits cs).1 where
  digits := List.all_eq_true.1 List.all_takeWhile
  nonempty h := hne (List.isEmpty_iff.2 h)

theorem isFraction_of_readFraction (h : readFraction cs = some (ds, rest)) :
    cs = ds ++ rest ∧ IsFraction ds := by
  unfold readFraction at h
  split at h
  · next r =>
    dsimp only at h
    split at h
    · cases h
    · next hne =>
      cases h
      refine ⟨?_, .point (isDigits_spanDigits hne)⟩
      rw [List.cons_append, Text.spanDigits_append]
  · cases h
    exact ⟨rfl, .none⟩

theorem isDigits_of_readExponentDigits {lead : List Char}
    (h : readExponentDigits lead cs = some (e, rest)) :
    ∃ ds, IsDigits ds ∧ e = lead ++ ds ∧ cs = ds ++ rest := by
  dsimp only [readExponentDigits] at h
  split at h
  · cases h
  · next hne =>
    cases h
    exact ⟨_, isDigits_spanDigits hne, rfl,
      (Text.spanDigits_append cs).symm⟩

theorem isExponent_of_readExponent (h : readExponent cs = some (e, rest)) :
    cs = e ++ rest ∧ IsExponent e := by
  have hletter : ∀ {c : Char} {sign r : List Char}, (c = 'e' ∨ c = 'E') →
      (sign = [] ∨ sign = ['+'] ∨ sign = ['-']) →
      readExponentDigits (c :: sign) r = some (e, rest) →
      c :: (sign ++ r) = e ++ rest ∧ IsExponent e := by
    intro c sign r hc hsign h
    obtain ⟨ds, hds, rfl, rfl⟩ := isDigits_of_readExponentDigits h
    exact ⟨by simp, .letter hc hsign hds⟩
  unfold readExponent at h
  split at h
  · exact hletter (.inl rfl) (.inr (.inl rfl)) h
  · exact hletter (.inl rfl) (.inr (.inr rfl)) h
  · exact hletter (.inl rfl) (.inl rfl) h
  · exact hletter (.inr rfl) (.inr (.inl rfl)) h
  · exact hletter (.inr rfl) (.inr (.inr rfl)) h
  · exact hletter (.inr rfl) (.inl rfl) h
  · cases h
    exact ⟨rfl, .none⟩

theorem spellsNumber_of_readMagnitude {negative : Bool} {v : Value}
    (h : readMagnitude negative cs = some (v, rest)) :
    ∃ ds, cs = ds ++ rest ∧ SpellsNumber (signChars negative ++ ds) v := by
  dsimp only [readMagnitude] at h
  split at h
  · cases h
  next hwhole =>
  simp only [Bool.or_eq_true, decide_eq_true_eq, Bool.and_eq_true, not_or, not_and, ne_eq,
    Decidable.not_not] at hwhole
  have hds : IsWhole (Text.spanDigits cs).1 := ⟨isDigits_spanDigits hwhole.1, hwhole.2⟩
  obtain ⟨⟨fraction, afterFraction⟩, hread, h⟩ := Option.bind_eq_some_iff.1 h
  obtain ⟨⟨exponent, rest'⟩, hread', h⟩ := Option.bind_eq_some_iff.1 h
  obtain ⟨hafter, hfraction⟩ := isFraction_of_readFraction hread
  obtain ⟨rfl, hexponent⟩ := isExponent_of_readExponent hread'
  have hcs : cs = (Text.spanDigits cs).1 ++ (fraction ++ (exponent ++ rest')) := by
    rw [← hafter, Text.spanDigits_append]
  dsimp only at h
  split at h
  · next hinteger =>
    cases h
    obtain ⟨rfl, rfl⟩ : fraction = [] ∧ exponent = [] := by simpa using hinteger
    exact ⟨_, hcs, .integer negative hds⟩
  · next hdecimal =>
    cases h
    have hne : fraction ++ exponent ≠ [] := by simpa using hdecimal
    have hspells := SpellsNumber.decimal negative hds hfraction hexponent hne
    refine ⟨(Text.spanDigits cs).1 ++ (fraction ++ exponent), ?_, ?_⟩
    · simpa using hcs
    · simpa [signChars] using hspells

theorem spellsNumber_of_readNumber {v : Value} (h : readNumber cs = some (v, rest)) :
    ∃ ds, cs = ds ++ rest ∧ SpellsNumber ds v := by
  unfold readNumber at h
  split at h
  · obtain ⟨ds, rfl, hds⟩ := spellsNumber_of_readMagnitude h
    exact ⟨'-' :: ds, rfl, hds⟩
  · exact spellsNumber_of_readMagnitude h

end Number

/-! ## Values -/

/-- What the reader takes for a value, behind white space, spells it. -/
def SpelledValue (read : List Char → Option (Value × List Char)) : Prop :=
  ∀ {cs rest v}, read cs = some (v, rest) →
    ∃ gap ds, IsGap gap ∧ cs = gap ++ (ds ++ rest) ∧ Spells ds (.value v)

/-- What the reader takes up to the closing bracket spells elements. -/
def SpelledElements (read : List Char → Option (List Value × List Char)) : Prop :=
  ∀ {cs rest vs}, read cs = some (vs, rest) →
    ∃ ds, cs = ds ++ ']' :: rest ∧ Spells ds (.elements vs)

/-- What the reader takes up to the closing brace spells members. -/
def SpelledMembers (read : List Char → Option (List (Text × Value) × List Char)) : Prop :=
  ∀ {cs rest ms}, read cs = some (ms, rest) →
    ∃ ds, cs = ds ++ '}' :: rest ∧ Spells ds (.members ms)

section Step

variable {fuel : Nat} (hvalue : SpelledValue (readValue fuel))
  (helements : SpelledElements (readElements fuel)) (hmembers : SpelledMembers (readMembers fuel))

include helements hmembers in
theorem spelled_readValue_succ : SpelledValue (readValue (fuel + 1)) := by
  intro cs rest v h
  obtain ⟨gap, hgap, hcs⟩ := exists_gap_skipSpace cs
  suffices ∃ ds, skipSpace cs = ds ++ rest ∧ Spells ds (.value v) by
    obtain ⟨ds, hds, hspells⟩ := this
    exact ⟨gap, ds, hgap, hds ▸ hcs, hspells⟩
  rw [readValue] at h
  clear hcs
  revert h
  generalize skipSpace cs = token
  intro h
  split at h
  · cases h
    exact ⟨_, rfl, .null⟩
  · cases h
    exact ⟨_, rfl, .true⟩
  · cases h
    exact ⟨_, rfl, .false⟩
  · obtain ⟨⟨t, rest'⟩, htext, h⟩ := Option.map_eq_some_iff.1 h
    cases h
    obtain ⟨ds, hds, hspells⟩ := spellsText_of_readText htext
    exact ⟨ds, hds, .string hspells⟩
  · next r =>
    obtain ⟨gap', hgap', hr⟩ := exists_gap_skipSpace r
    split at h
    · next heq =>
      cases h
      rw [hr, heq]
      exact ⟨'[' :: (gap' ++ [']']), by simp, .emptyArray hgap'⟩
    · obtain ⟨⟨vs, rest'⟩, hread, h⟩ := Option.map_eq_some_iff.1 h
      cases h
      rw [readElements_skipSpace] at hread
      obtain ⟨ds, rfl, hspells⟩ := helements hread
      exact ⟨'[' :: (ds ++ [']']), by simp, .array hspells⟩
  · next r =>
    obtain ⟨gap', hgap', hr⟩ := exists_gap_skipSpace r
    split at h
    · next heq =>
      cases h
      rw [hr, heq]
      exact ⟨'{' :: (gap' ++ ['}']), by simp, .emptyObject hgap'⟩
    · obtain ⟨⟨ms, rest'⟩, hread, h⟩ := Option.map_eq_some_iff.1 h
      cases h
      rw [readMembers_skipSpace] at hread
      obtain ⟨ds, rfl, hspells⟩ := hmembers hread
      exact ⟨'{' :: (ds ++ ['}']), by simp, .object hspells⟩
  · obtain ⟨ds, rfl, hspells⟩ := spellsNumber_of_readNumber h
    exact ⟨ds, rfl, .number hspells⟩

include hvalue helements in
theorem spelled_readElements_succ : SpelledElements (readElements (fuel + 1)) := by
  intro cs rest vs h
  rw [readElements] at h
  obtain ⟨⟨v, after⟩, hv, h⟩ := Option.bind_eq_some_iff.1 h
  obtain ⟨before, ds, hbefore, hcs, hspells⟩ := hvalue hv
  obtain ⟨gap, hgap, hafter⟩ := exists_gap_skipSpace after
  rw [hcs]
  dsimp only at h
  split at h
  · next r heq =>
    obtain ⟨⟨vs', rest'⟩, hvs, h⟩ := Option.bind_eq_some_iff.1 h
    cases h
    obtain ⟨more, rfl, hmore⟩ := helements hvs
    rw [hafter, heq]
    exact ⟨_, by simp, .element hbefore hspells hgap hmore⟩
  · next rest' heq =>
    cases h
    rw [hafter, heq]
    exact ⟨_, by simp, .lastElement hbefore hspells hgap⟩
  · cases h

include hvalue hmembers in
theorem spelled_readMembers_succ : SpelledMembers (readMembers (fuel + 1)) := by
  intro cs rest ms h
  obtain ⟨before, hbefore, hcs⟩ := exists_gap_skipSpace cs
  rw [readMembers] at h
  split at h
  case h_2 => cases h
  next r heq =>
  rw [hcs, heq]
  obtain ⟨⟨name, afterName⟩, hname, h⟩ := Option.bind_eq_some_iff.1 h
  obtain ⟨key, hkey, hspellsKey⟩ := spellsText_of_readText hname
  obtain ⟨gap, hgap, hafterName⟩ := exists_gap_skipSpace afterName
  dsimp only at h
  split at h
  case h_2 => cases h
  next r' heq' =>
  obtain ⟨⟨v, after⟩, hv, h⟩ := Option.bind_eq_some_iff.1 h
  obtain ⟨space, ds, hspace, hr', hspells⟩ := hvalue hv
  obtain ⟨gap', hgap', hafter⟩ := exists_gap_skipSpace after
  have hmember : Spells (key ++ (gap ++ ':' :: (space ++ ds))) (.member name v) :=
    .named hspellsKey hgap hspace hspells
  rw [hkey, hafterName, heq', hr']
  dsimp only at h
  split at h
  · next r'' heq'' =>
    obtain ⟨⟨ms', rest'⟩, hms, h⟩ := Option.bind_eq_some_iff.1 h
    cases h
    obtain ⟨more, rfl, hmore⟩ := hmembers hms
    rw [hafter, heq'']
    exact ⟨_, by simp, .member hbefore hmember hgap' hmore⟩
  · next rest' heq'' =>
    cases h
    rw [hafter, heq'']
    exact ⟨_, by simp, .lastMember hbefore hmember hgap'⟩
  · cases h

end Step

/-- By induction on the fuel, for values together with elements and members. -/
theorem spelled_read (fuel : Nat) :
    SpelledValue (readValue fuel) ∧ SpelledElements (readElements fuel) ∧
      SpelledMembers (readMembers fuel) := by
  induction fuel with
  | zero =>
    refine ⟨?_, ?_, ?_⟩
    · intro cs rest v h
      rw [readValue] at h
      cases h
    · intro cs rest vs h
      rw [readElements] at h
      cases h
    · intro cs rest ms h
      rw [readMembers] at h
      cases h
  | succ fuel ih =>
    obtain ⟨hvalue, helements, hmembers⟩ := ih
    exact ⟨spelled_readValue_succ helements hmembers, spelled_readElements_succ hvalue helements,
      spelled_readMembers_succ hvalue hmembers⟩

/-- A text is read as a value exactly when it spells the value. -/
theorem read?_eq_some_iff {s : String} {v : Value} : read? s = some v ↔ IsText s v := by
  constructor
  · intro h
    obtain ⟨⟨v', rest⟩, hvalue, h⟩ := Option.bind_eq_some_iff.1 h
    dsimp only at h
    split at h
    · next hempty =>
      cases h
      obtain ⟨before, cs, hbefore, hs, hspells⟩ := (spelled_read _).1 hvalue
      obtain ⟨after, hafter, hrest⟩ := exists_gap_skipSpace rest
      rw [List.isEmpty_iff.1 hempty, List.append_nil] at hrest
      exact ⟨before, cs, rest, hbefore, hspells, hrest ▸ hafter, hs⟩
    · cases h
  · exact read?_of_isText

end BillDesk.Json
