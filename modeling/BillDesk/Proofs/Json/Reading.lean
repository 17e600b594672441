import BillDesk.Proofs.Json.Grammar
import BillDesk.Proofs.Text.Digits

/-!
# Every JSON text is read

What the grammar says that a text spells is what the reader makes of it. The reader stops where a
value ends, and goes on with what follows, so characters are read as what they spell whatever comes
after them. Only a number has to be followed by something that does not continue it. A value takes
one unit of fuel for each of its characters at most.

Results:
1. `readText_of_spells` and `readNumber_of_spells`: strings and numbers are read as what they are.
2. `reads_of_spells`: so is everything, by induction on how it is spelled.
3. `read?_of_isText`: a whole text is read.
-/

namespace BillDesk.Json

/-! ## White space -/

theorem isGap_nil : IsGap [] := by simp [IsGap]

section Gap

variable {gap : List Char}

theorem skipSpace_gap (h : IsGap gap) (cs : List Char) : skipSpace (gap ++ cs) = skipSpace cs :=
  List.dropWhile_append_of_pos h

theorem skipSpace_skipSpace (cs : List Char) : skipSpace (skipSpace cs) = skipSpace cs := by
  induction cs with
  | nil => rfl
  | cons c cs ih =>
    by_cases h : isSpace c = true
    · have hskip : skipSpace (c :: cs) = skipSpace cs := List.dropWhile_cons_of_pos h
      rw [hskip, ih]
    · have hkeep : skipSpace (c :: cs) = c :: cs := List.dropWhile_cons_of_neg h
      rw [hkeep, hkeep]

theorem readValue_skipSpace (fuel : Nat) (cs : List Char) :
    readValue fuel (skipSpace cs) = readValue fuel cs := by
  cases fuel with
  | zero => rfl
  | succ fuel => rw [readValue, readValue, skipSpace_skipSpace]

theorem readElements_skipSpace (fuel : Nat) (cs : List Char) :
    readElements fuel (skipSpace cs) = readElements fuel cs := by
  cases fuel with
  | zero => rfl
  | succ fuel => rw [readElements, readElements, readValue_skipSpace]

theorem readMembers_skipSpace (fuel : Nat) (cs : List Char) :
    readMembers fuel (skipSpace cs) = readMembers fuel cs := by
  cases fuel with
  | zero => rfl
  | succ fuel => rw [readMembers, readMembers, skipSpace_skipSpace]

theorem readValue_gap (h : IsGap gap) (fuel : Nat) (cs : List Char) :
    readValue fuel (gap ++ cs) = readValue fuel cs := by
  rw [← readValue_skipSpace, skipSpace_gap h, readValue_skipSpace]

theorem readElements_gap (h : IsGap gap) (fuel : Nat) (cs : List Char) :
    readElements fuel (gap ++ cs) = readElements fuel cs := by
  rw [← readElements_skipSpace, skipSpace_gap h, readElements_skipSpace]

theorem readMembers_gap (h : IsGap gap) (fuel : Nat) (cs : List Char) :
    readMembers fuel (gap ++ cs) = readMembers fuel cs := by
  rw [← readMembers_skipSpace, skipSpace_gap h, readMembers_skipSpace]

end Gap

/-! ## Strings -/

section String

variable {cs rest : List Char}

theorem readUnits_of_raw {c : Char} (hquote : c ≠ '"') (hbackslash : c ≠ '\\')
    (hcontrol : 32 ≤ c.toNat) (r : List Char) :
    readUnits (c :: r) = (readUnits r).map fun p => (c.toNat :: p.1, p.2) := by
  rw [readUnits]
  · simp only [hbackslash, Nat.not_lt.2 hcontrol, decide_false, Bool.or_self, Bool.false_eq_true,
      if_false]
    cases readUnits r <;> rfl
  · exact hquote
  · exact fun _ _ _ _ _ h => absurd h hbackslash
  · exact fun _ _ h => absurd h hbackslash

theorem readUnits_of_shortEscape {e c : Char} (h : shortEscape e = some c) (r : List Char) :
    readUnits ('\\' :: e :: r) = (readUnits r).map fun p => (c.toNat :: p.1, p.2) := by
  have hu : e ≠ 'u' := by
    rintro rfl
    cases h
  rw [readUnits]
  · rw [h]
    cases readUnits r <;> rfl
  · exact fun _ _ _ _ _ h => absurd h hu

theorem readUnits_of_hex {a b c d : Char} {u : Nat} (h : hexUnit a b c d = some u)
    (r : List Char) :
    readUnits ('\\' :: 'u' :: a :: b :: c :: d :: r) =
      (readUnits r).map fun p => (u :: p.1, p.2) := by
  rw [readUnits, h]
  cases readUnits r <;> rfl

theorem readUnits_of_unit {u : Nat} (h : SpellsUnit cs u) (r : List Char) :
    readUnits (cs ++ r) = (readUnits r).map fun p => (u :: p.1, p.2) := by
  cases h with
  | raw hquote hbackslash hcontrol => exact readUnits_of_raw hquote hbackslash hcontrol r
  | short h => exact readUnits_of_shortEscape h r
  | hex h => exact readUnits_of_hex h r

theorem readUnits_of_spells {us : List Nat} (h : SpellsUnits cs us) (rest : List Char) :
    readUnits (cs ++ '"' :: rest) = some (us, rest) := by
  induction h with
  | nil => rfl
  | cons h _ ih => rw [List.append_assoc, readUnits_of_unit h, ih, Option.map_some]

/-- A literal is read after its opening quote. -/
theorem readText_of_spells {t : Text} (h : SpellsText cs t) :
    ∃ ds, cs = '"' :: ds ∧ ∀ rest, readText (ds ++ rest) = some (t, rest) := by
  obtain ⟨h⟩ := h
  refine ⟨_, rfl, fun rest => ?_⟩
  rw [List.append_assoc, List.singleton_append, readText, readUnits_of_spells h, Option.map_some]

end String

/-! ## Numbers -/

/-- A number that stands before these characters ends there. -/
def EndsNumber (rest : List Char) : Prop :=
  ∀ c ∈ rest.head?, Text.isDigit c = false ∧ c ≠ '.' ∧ c ≠ 'e' ∧ c ≠ 'E'

theorem endsNumber_nil : EndsNumber [] := by simp [EndsNumber]

theorem endsNumber_of_gap {gap rest : List Char} (h : IsGap gap) (hrest : EndsNumber rest) :
    EndsNumber (gap ++ rest) := by
  cases gap with
  | nil => exact hrest
  | cons c gap =>
    have hc : isSpace c = true := h c (List.mem_cons_self ..)
    simp only [isSpace, Bool.or_eq_true, decide_eq_true_eq] at hc
    rintro d hd
    obtain rfl : c = d := Option.some.inj hd
    rcases hc with ((rfl | rfl) | rfl) | rfl <;> decide

section Number

variable {ds fraction exponent rest : List Char}

theorem IsDigits.exists_cons (h : IsDigits ds) : ∃ c cs, ds = c :: cs ∧ Text.isDigit c = true := by
  obtain ⟨c, cs, rfl⟩ := List.exists_cons_of_ne_nil h.nonempty
  exact ⟨c, cs, rfl, h.digits c (List.mem_cons_self ..)⟩

theorem readExponentDigits_of_digits (h : IsDigits ds) (hrest : EndsNumber rest)
    (lead : List Char) : readExponentDigits lead (ds ++ rest) = some (lead ++ ds, rest) := by
  have hspan : Text.spanDigits (ds ++ rest) = (ds, rest) :=
    Text.spanDigits_of_ends h.digits fun c hc => (hrest c hc).1
  simp only [readExponentDigits, hspan]
  rw [if_neg (by simp [h.nonempty])]

theorem readExponent_of_isExponent (h : IsExponent exponent) (hrest : EndsNumber rest) :
    readExponent (exponent ++ rest) = some (exponent, rest) := by
  cases h with
  | none =>
    cases rest with
    | nil => rfl
    | cons c rest =>
      obtain ⟨_, _, he, hE⟩ := hrest c rfl
      unfold readExponent
      split <;> simp_all
  | @letter e sign ds he hsign hds =>
    have hread := readExponentDigits_of_digits hds hrest
    rcases hsign with rfl | rfl | rfl
    · -- Without a sign the digits follow, and a digit is no sign.
      obtain ⟨c, cs, rfl, hdigit⟩ := hds.exists_cons
      have hplus : c ≠ '+' := by rintro rfl; exact absurd hdigit (by decide)
      have hminus : c ≠ '-' := by rintro rfl; exact absurd hdigit (by decide)
      rcases he with rfl | rfl
      · have hlead := hread ['e']
        unfold readExponent
        split <;> simp_all
      · have hlead := hread ['E']
        unfold readExponent
        split <;> simp_all
    all_goals rcases he with rfl | rfl <;> exact hread _

/-- No digit comes after the whole part of a number. -/
theorem endsDigits_of_tail (hfraction : IsFraction fraction) (hexponent : IsExponent exponent)
    (hrest : EndsNumber rest) :
    ∀ c ∈ (fraction ++ (exponent ++ rest)).head?, Text.isDigit c = false := by
  rintro c hc
  cases hfraction with
  | point _ =>
    cases hc
    rfl
  | none =>
    cases hexponent with
    | none => exact (hrest c hc).1
    | letter he _ _ =>
      cases hc
      rcases he with rfl | rfl <;> rfl

theorem readFraction_of_isFraction (hfraction : IsFraction fraction)
    (hexponent : IsExponent exponent) (hrest : EndsNumber rest) :
    readFraction (fraction ++ (exponent ++ rest)) = some (fraction, exponent ++ rest) := by
  cases hfraction with
  | none =>
    rw [List.nil_append]
    unfold readFraction
    split
    · next r heq =>
      cases hexponent with
      | none => exact absurd rfl (hrest '.' (by rw [← List.nil_append rest, heq]; rfl)).2.1
      | letter he _ _ =>
        cases heq
        exact absurd he (by decide)
    · rfl
  | @point ds hds =>
    have hspan : Text.spanDigits (ds ++ (exponent ++ rest)) = (ds, exponent ++ rest) :=
      Text.spanDigits_of_ends hds.digits
        fun c hc => endsDigits_of_tail .none hexponent hrest c hc
    simp only [List.cons_append, readFraction, hspan]
    rw [if_neg (by simp [hds.nonempty])]

theorem readMagnitude_of_isWhole (negative : Bool) (h : IsWhole ds)
    (hfraction : IsFraction fraction) (hexponent : IsExponent exponent)
    (hrest : EndsNumber rest) :
    readMagnitude negative (ds ++ (fraction ++ (exponent ++ rest))) =
      some (if fraction.isEmpty && exponent.isEmpty then .integer negative (Text.digitsValue ds)
        else .decimal (String.ofList (signChars negative ++ ds ++ fraction ++ exponent)),
      rest) := by
  have hspan : Text.spanDigits (ds ++ (fraction ++ (exponent ++ rest))) =
      (ds, fraction ++ (exponent ++ rest)) :=
    Text.spanDigits_of_ends h.digits (endsDigits_of_tail hfraction hexponent hrest)
  have hwhole : (ds.isEmpty || (ds.head? = some '0' && ds.length ≠ 1)) = false := by
    have hne := h.nonempty
    have halone := h.alone
    simp_all
  simp only [readMagnitude, hspan, hwhole, Bool.false_eq_true, if_false, Option.bind_eq_bind,
    Option.bind_some, readFraction_of_isFraction hfraction hexponent hrest,
    readExponent_of_isExponent hexponent hrest]
  split <;> rfl

/-- No digit is a sign. -/
theorem readNumber_signChars (negative : Bool) (h : IsDigits ds) (rest : List Char) :
    readNumber (signChars negative ++ (ds ++ rest)) = readMagnitude negative (ds ++ rest) := by
  cases negative with
  | true => rfl
  | false =>
    obtain ⟨c, cs, rfl, hdigit⟩ := h.exists_cons
    have hminus : c ≠ '-' := by rintro rfl; exact absurd hdigit (by decide)
    show readNumber (c :: (cs ++ rest)) = readMagnitude false (c :: (cs ++ rest))
    unfold readNumber
    split <;> simp_all

theorem readNumber_of_spells {cs : List Char} {v : Value} (h : SpellsNumber cs v)
    (hrest : EndsNumber rest) : readNumber (cs ++ rest) = some (v, rest) := by
  cases h with
  | integer negative h =>
    have hread := readMagnitude_of_isWhole negative h .none .none hrest
    rw [List.append_assoc, readNumber_signChars negative h.toIsDigits]
    exact hread
  | decimal negative h hfraction hexponent hne =>
    have hread := readMagnitude_of_isWhole negative h hfraction hexponent hrest
    rw [if_neg (by simpa using hne)] at hread
    simp only [List.append_assoc] at hread ⊢
    rw [readNumber_signChars negative h.toIsDigits, hread]

/-- A number begins with its sign or with a digit. -/
theorem SpellsNumber.exists_cons {cs : List Char} {v : Value} (h : SpellsNumber cs v) :
    ∃ c tail, cs = c :: tail ∧ (c = '-' ∨ Text.isDigit c = true) := by
  have hwhole : ∀ (negative : Bool) {ds : List Char} (tail : List Char), IsWhole ds →
      ∃ c cs, signChars negative ++ (ds ++ tail) = c :: cs ∧
        (c = '-' ∨ Text.isDigit c = true) := by
    intro negative ds tail h
    obtain ⟨c, cs, rfl, hdigit⟩ := h.toIsDigits.exists_cons
    cases negative with
    | true => exact ⟨'-', _, rfl, .inl rfl⟩
    | false => exact ⟨c, _, rfl, .inr hdigit⟩
  cases h with
  | integer negative h => simpa using hwhole negative [] h
  | decimal negative h _ _ _ => exact hwhole negative _ h

/-- What begins like a number is read as one. -/
theorem readValue_of_number {c : Char} (h : c = '-' ∨ Text.isDigit c = true) (fuel : Nat)
    (cs : List Char) : readValue (fuel + 1) (c :: cs) = readNumber (c :: cs) := by
  have hspace : isSpace c = false := by
    simp only [isSpace, Bool.or_eq_false_iff, decide_eq_false_iff_not]
    refine ⟨⟨⟨?_, ?_⟩, ?_⟩, ?_⟩ <;> rintro rfl <;> exact absurd h (by decide)
  have hskip : skipSpace (c :: cs) = c :: cs := List.dropWhile_cons_of_neg (by simp [hspace])
  rw [readValue, hskip]
  split
  case h_7 => rfl
  all_goals
    injection ‹c :: cs = _› with hc _
    subst hc
    exact absurd h (by decide)

end Number

/-! ## Values -/

/-- What is read after an element: another one, or the end of the array. -/
def moreElements (fuel : Nat) (v : Value) (after : List Char) :
    Option (List Value × List Char) :=
  match skipSpace after with
  | ',' :: r => do
      let (vs, rest) ← readElements fuel r
      return (v :: vs, rest)
  | ']' :: rest => return ([v], rest)
  | _ => none

/-- What is read after a member: another one, or the end of the object. -/
def moreMembers (fuel : Nat) (m : Text × Value) (after : List Char) :
    Option (List (Text × Value) × List Char) :=
  match skipSpace after with
  | ',' :: r => do
      let (ms, rest) ← readMembers fuel r
      return (m :: ms, rest)
  | '}' :: rest => return ([m], rest)
  | _ => none

/-- The characters of the part are read as the part, whatever comes after them. -/
def Reads (cs : List Char) : Part → Prop
  | .value v => 0 < cs.length ∧ ∀ fuel rest, cs.length ≤ fuel → EndsNumber rest →
      readValue fuel (cs ++ rest) = some (v, rest)
  | .member name v => ∀ fuel after, cs.length ≤ fuel → EndsNumber after →
      readMembers (fuel + 1) (cs ++ after) = moreMembers fuel (name, v) after
  | .elements vs => ∀ fuel rest, cs.length < fuel →
      readElements fuel (cs ++ ']' :: rest) = some (vs, rest)
  | .members ms => ∀ fuel rest, cs.length < fuel →
      readMembers fuel (cs ++ '}' :: rest) = some (ms, rest)

section Part

variable {before cs after ds rest : List Char} {fuel : Nat} {v : Value} {vs : List Value}
  {name : Text} {m : Text × Value} {ms : List (Text × Value)}

theorem reads_value_of_succ (hne : 0 < cs.length)
    (h : ∀ fuel rest, cs.length ≤ fuel + 1 → EndsNumber rest →
      readValue (fuel + 1) (cs ++ rest) = some (v, rest)) : Reads cs (.value v) := by
  refine ⟨hne, fun fuel rest hfuel hrest => ?_⟩
  obtain ⟨fuel, rfl⟩ := Nat.exists_eq_succ_of_ne_zero (show fuel ≠ 0 by omega)
  exact h fuel rest hfuel hrest

theorem reads_number (h : SpellsNumber cs v) : Reads cs (.value v) := by
  obtain ⟨c, tail, rfl, hc⟩ := h.exists_cons
  refine reads_value_of_succ (Nat.succ_pos _) fun fuel rest _ hrest => ?_
  rw [← readNumber_of_spells h hrest]
  exact readValue_of_number hc fuel (tail ++ rest)

theorem reads_string {t : Text} (h : SpellsText cs t) : Reads cs (.value (.string t)) := by
  obtain ⟨tail, rfl, hread⟩ := readText_of_spells h
  refine reads_value_of_succ (Nat.succ_pos _) fun fuel rest _ _ => ?_
  have hvalue : readValue (fuel + 1) ('"' :: (tail ++ rest)) =
      (readText (tail ++ rest)).map fun p => (.string p.1, p.2) := rfl
  rw [List.cons_append, hvalue, hread, Option.map_some]

/-! ### Arrays -/

/-- No array begins where it ends. -/
theorem readElements_of_close (fuel : Nat) (rest : List Char) :
    readElements fuel (']' :: rest) = none := by
  rcases fuel with _ | _ | fuel <;> rfl

theorem readValue_array (fuel : Nat) (cs : List Char) :
    readValue (fuel + 1) ('[' :: cs) =
      match skipSpace cs with
      | ']' :: rest => some (.array [], rest)
      | r => (readElements fuel r).map fun p => (.array p.1, p.2) := rfl

/-- An array is read where elements are. -/
theorem readValue_of_elements (h : readElements fuel cs = some (vs, rest)) :
    readValue (fuel + 1) ('[' :: cs) = some (.array vs, rest) := by
  rw [← readElements_skipSpace] at h
  rw [readValue_array]
  split
  · next heq =>
    rw [heq, readElements_of_close] at h
    cases h
  · rw [h, Option.map_some]

theorem reads_emptyArray (hgap : IsGap cs) : Reads ('[' :: (cs ++ [']'])) (.value (.array [])) := by
  refine reads_value_of_succ (Nat.succ_pos _) fun fuel rest _ _ => ?_
  have hclose : skipSpace (cs ++ ']' :: rest) = ']' :: rest := skipSpace_gap hgap _
  rw [List.cons_append, List.append_assoc, List.singleton_append, readValue_array, hclose]
  rfl

theorem reads_array (h : Reads cs (.elements vs)) :
    Reads ('[' :: (cs ++ [']'])) (.value (.array vs)) := by
  refine reads_value_of_succ (Nat.succ_pos _) fun fuel rest hfuel _ => ?_
  simp only [List.length_cons, List.length_append, List.length_nil] at hfuel
  rw [List.cons_append, List.append_assoc, List.singleton_append]
  exact readValue_of_elements (h fuel rest (by omega))

/-- An element is read up to what follows it. -/
theorem readElements_of_value (hbefore : IsGap before) (h : Reads cs (.value v))
    (hfuel : cs.length ≤ fuel) (hrest : EndsNumber rest) :
    readElements (fuel + 1) (before ++ (cs ++ rest)) = moreElements fuel v rest := by
  rw [readElements_gap hbefore, readElements, h.2 fuel rest hfuel hrest]
  rfl

theorem reads_lastElement (hbefore : IsGap before) (h : Reads cs (.value v))
    (hafter : IsGap after) : Reads (before ++ (cs ++ after)) (.elements [v]) := by
  intro fuel rest hfuel
  simp only [List.length_append] at hfuel
  obtain ⟨fuel, rfl⟩ := Nat.exists_eq_succ_of_ne_zero (show fuel ≠ 0 by omega)
  have hends : EndsNumber (after ++ ']' :: rest) :=
    endsNumber_of_gap hafter (by simp [EndsNumber, Text.isDigit])
  have hclose : skipSpace (after ++ ']' :: rest) = ']' :: rest := skipSpace_gap hafter _
  simp only [List.append_assoc]
  rw [readElements_of_value hbefore h (by omega) hends, moreElements, hclose]
  rfl

theorem reads_element (hbefore : IsGap before) (h : Reads cs (.value v)) (hafter : IsGap after)
    (hmore : Reads ds (.elements vs)) :
    Reads (before ++ (cs ++ (after ++ ',' :: ds))) (.elements (v :: vs)) := by
  intro fuel rest hfuel
  simp only [List.length_append, List.length_cons] at hfuel
  obtain ⟨fuel, rfl⟩ := Nat.exists_eq_succ_of_ne_zero (show fuel ≠ 0 by omega)
  have hends : EndsNumber (after ++ ',' :: (ds ++ ']' :: rest)) :=
    endsNumber_of_gap hafter (by simp [EndsNumber, Text.isDigit])
  have hcomma : skipSpace (after ++ ',' :: (ds ++ ']' :: rest)) = ',' :: (ds ++ ']' :: rest) :=
    skipSpace_gap hafter _
  simp only [List.append_assoc, List.cons_append]
  rw [readElements_of_value hbefore h (by omega) hends, moreElements, hcomma]
  simp only [hmore fuel rest (by omega), Option.bind_eq_bind, Option.bind_some]
  rfl

/-! ### Objects -/

theorem readMembers_of_close (fuel : Nat) (rest : List Char) :
    readMembers fuel ('}' :: rest) = none := by
  cases fuel <;> rfl

theorem readValue_object (fuel : Nat) (cs : List Char) :
    readValue (fuel + 1) ('{' :: cs) =
      match skipSpace cs with
      | '}' :: rest => some (.object [], rest)
      | r => (readMembers fuel r).map fun p => (.object p.1, p.2) := rfl

/-- An object is read where members are. -/
theorem readValue_of_members (h : readMembers fuel cs = some (ms, rest)) :
    readValue (fuel + 1) ('{' :: cs) = some (.object ms, rest) := by
  rw [← readMembers_skipSpace] at h
  rw [readValue_object]
  split
  · next heq =>
    rw [heq, readMembers_of_close] at h
    cases h
  · rw [h, Option.map_some]

theorem reads_emptyObject (hgap : IsGap cs) :
    Reads ('{' :: (cs ++ ['}'])) (.value (.object [])) := by
  refine reads_value_of_succ (Nat.succ_pos _) fun fuel rest _ _ => ?_
  have hclose : skipSpace (cs ++ '}' :: rest) = '}' :: rest := skipSpace_gap hgap _
  rw [List.cons_append, List.append_assoc, List.singleton_append, readValue_object, hclose]
  rfl

theorem reads_object (h : Reads cs (.members ms)) :
    Reads ('{' :: (cs ++ ['}'])) (.value (.object ms)) := by
  refine reads_value_of_succ (Nat.succ_pos _) fun fuel rest hfuel _ => ?_
  simp only [List.length_cons, List.length_append, List.length_nil] at hfuel
  rw [List.cons_append, List.append_assoc, List.singleton_append]
  exact readValue_of_members (h fuel rest (by omega))

/-- A name is read up to its value. -/
theorem readMembers_of_name (fuel : Nat) {key : List Char} (hkey : SpellsText key name)
    (hbefore : IsGap before) (cs : List Char) :
    readMembers (fuel + 1) (key ++ (before ++ ':' :: cs)) =
      (readValue fuel cs).bind fun p => moreMembers fuel (name, p.1) p.2 := by
  obtain ⟨tail, rfl, hread⟩ := readText_of_spells hkey
  have hcolon : skipSpace (before ++ ':' :: cs) = ':' :: cs := skipSpace_gap hbefore _
  show (readText (tail ++ (before ++ ':' :: cs))).bind _ = _
  rw [hread, Option.bind_some]
  simp only [hcolon]
  show (readValue fuel cs).bind _ = _
  rfl

theorem reads_named {key : List Char} (hkey : SpellsText key name) (hbefore : IsGap before)
    (hafter : IsGap after) (h : Reads cs (.value v)) :
    Reads (key ++ (before ++ ':' :: (after ++ cs))) (.member name v) := by
  intro fuel rest hfuel hrest
  simp only [List.length_append, List.length_cons] at hfuel
  simp only [List.append_assoc, List.cons_append]
  rw [readMembers_of_name fuel hkey hbefore, readValue_gap hafter,
    h.2 fuel rest (by omega) hrest, Option.bind_some]

theorem reads_lastMember (hbefore : IsGap before) (h : Reads cs (.member name v))
    (hafter : IsGap after) : Reads (before ++ (cs ++ after)) (.members [(name, v)]) := by
  intro fuel rest hfuel
  simp only [List.length_append] at hfuel
  obtain ⟨fuel, rfl⟩ := Nat.exists_eq_succ_of_ne_zero (show fuel ≠ 0 by omega)
  have hends : EndsNumber (after ++ '}' :: rest) :=
    endsNumber_of_gap hafter (by simp [EndsNumber, Text.isDigit])
  have hclose : skipSpace (after ++ '}' :: rest) = '}' :: rest := skipSpace_gap hafter _
  simp only [List.append_assoc]
  rw [readMembers_gap hbefore, h fuel _ (by omega) hends, moreMembers, hclose]
  rfl

theorem reads_member (hbefore : IsGap before) (h : Reads cs (.member name v))
    (hafter : IsGap after) (hmore : Reads ds (.members ms)) :
    Reads (before ++ (cs ++ (after ++ ',' :: ds))) (.members ((name, v) :: ms)) := by
  intro fuel rest hfuel
  simp only [List.length_append, List.length_cons] at hfuel
  obtain ⟨fuel, rfl⟩ := Nat.exists_eq_succ_of_ne_zero (show fuel ≠ 0 by omega)
  have hends : EndsNumber (after ++ ',' :: (ds ++ '}' :: rest)) :=
    endsNumber_of_gap hafter (by simp [EndsNumber, Text.isDigit])
  have hcomma : skipSpace (after ++ ',' :: (ds ++ '}' :: rest)) = ',' :: (ds ++ '}' :: rest) :=
    skipSpace_gap hafter _
  simp only [List.append_assoc, List.cons_append]
  rw [readMembers_gap hbefore, h fuel _ (by omega) hends, moreMembers, hcomma]
  simp only [hmore fuel rest (by omega), Option.bind_eq_bind, Option.bind_some]
  rfl

end Part

/-- Characters are read as what they spell. -/
theorem reads_of_spells {cs : List Char} {part : Part} (h : Spells cs part) : Reads cs part := by
  induction h with
  | null => exact reads_value_of_succ (by decide) fun _ _ _ _ => rfl
  | true => exact reads_value_of_succ (by decide) fun _ _ _ _ => rfl
  | false => exact reads_value_of_succ (by decide) fun _ _ _ _ => rfl
  | number h => exact reads_number h
  | string h => exact reads_string h
  | emptyArray hgap => exact reads_emptyArray hgap
  | array _ ih => exact reads_array ih
  | emptyObject hgap => exact reads_emptyObject hgap
  | object _ ih => exact reads_object ih
  | lastElement hbefore _ hafter ih => exact reads_lastElement hbefore ih hafter
  | element hbefore _ hafter _ ih ihrest => exact reads_element hbefore ih hafter ihrest
  | named hkey hbefore hafter _ ih => exact reads_named hkey hbefore hafter ih
  | lastMember hbefore _ hafter ih => exact reads_lastMember hbefore ih hafter
  | member hbefore _ hafter _ ih ihrest => exact reads_member hbefore ih hafter ihrest

/-- A whole text is read as the value that it spells. -/
theorem read?_of_isText {s : String} {v : Value} (h : IsText s v) : read? s = some v := by
  obtain ⟨before, cs, after, hbefore, hspells, hafter, hs⟩ := h
  have hends : EndsNumber after := by
    have hnil := endsNumber_of_gap hafter endsNumber_nil
    rwa [List.append_nil] at hnil
  have hskip : skipSpace after = [] := by
    have hnil := skipSpace_gap hafter []
    rwa [List.append_nil] at hnil
  have hvalue : readValue (2 * s.toList.length + 2) s.toList = some (v, after) := by
    rw [hs, readValue_gap hbefore]
    refine (reads_of_spells hspells).2 _ _ ?_ hends
    simp only [List.length_append]
    omega
  rw [read?]
  simp only [hvalue, Option.bind_eq_bind, Option.bind_some, hskip]
  rfl

end BillDesk.Json
