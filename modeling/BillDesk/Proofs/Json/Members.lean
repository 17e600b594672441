import BillDesk.Proofs.Bill.Reading
import BillDesk.Proofs.Json.Laws
import Mathlib.Data.List.Nodup

/-!
# What the members of an object denote

When the members of an object make a record is said here without the order in which they stand. For
each field the values given for it are collected, wherever they stand between the others. A field
that has to be given has exactly one value, a field with a default has one or none, and a value
denotes something of the field's type.

Texts are read by one of two standards. By the grammar every string is a name, and every number
without fraction and exponent is an integer. The codec is stricter in both: a name has to denote a
text, and zero has no sign.

Results:
1. `exists_memberRow_iff` and `valuesOf_eq_toList`: which members are a row, and what is found in
   it.
2. `required_iff` and `withDefault_iff`: a field is read exactly when its values are as they should
   be.
3. `readAs_text`, `readAs_flag`, `readAs_unsigned`, `readAs_signed`, `readAs_optional`,
   `readAs_list` and `readAs_record`: values are read as what they denote.
-/

namespace BillDesk.Json

/-! ## The values of a field -/

/-- The values given under the name, in their order. -/
def valuesOf (ms : List (Text × Value)) (name : String) : List Value :=
  (ms.filter fun m => m.1 = some name).map Prod.snd

section Row

variable {fields : List String} {ms : List (Text × Value)} {named row : Row} {name : String}

theorem mapM_name_eq_some_iff :
    (ms.mapM fun m => m.1.map fun name => (name, m.2)) = some named ↔
      ms = named.map fun m => (some m.1, m.2) := by
  rw [mapM_eq_some_iff, ← List.forall₂_eq_eq_eq, List.forall₂_map_right_iff]
  constructor
  all_goals
    refine List.Forall₂.imp ?_
    rintro ⟨_ | n, v⟩ ⟨n', v'⟩ h <;> simp_all

theorem valuesOf_named :
    valuesOf (named.map fun m => (some m.1, m.2)) name =
      (named.filter fun m => m.1 = name).map Prod.snd := by
  simp only [valuesOf, List.filter_map, List.map_map]
  congr 1
  exact List.filter_congr fun m _ => by simp

/-- In a row without repetitions, a name has the value that is looked up, or none. -/
theorem values_eq_toList (h : row.distinct = true) :
    (row.filter fun m => m.1 = name).map Prod.snd = (row.lookup name).toList := by
  induction row with
  | nil => rfl
  | cons m row ih =>
    obtain ⟨hfresh, hrow⟩ : m.1 ∉ row.map Prod.fst ∧ Row.distinct row = true := by
      simpa [Row.distinct] using h
    by_cases hname : m.1 = name
    · subst hname
      have hnone : row.filter (fun n => n.1 = m.1) = [] := by
        rw [List.filter_eq_nil_iff]
        intro n hn heq
        exact hfresh (List.mem_map.2 ⟨n, hn, of_decide_eq_true heq⟩)
      rw [List.filter_cons_of_pos (by simp), hnone, List.lookup_cons_self]
      rfl
    · rw [List.filter_cons_of_neg (by simpa using hname), ih hrow, List.lookup_cons,
        beq_false_of_ne (Ne.symm hname)]

theorem memberRow_eq_some_iff :
    memberRow fields ms = some row ↔ ∃ named : Row, ms = named.map (fun m => (some m.1, m.2)) ∧
      row = named.filter (fun m => fields.contains m.1) ∧ row.distinct = true := by
  simp only [memberRow, Option.bind_eq_bind, Option.bind_eq_some_iff, mapM_name_eq_some_iff]
  refine exists_congr fun named => and_congr_right fun _ => ?_
  constructor
  · intro h
    split at h
    · next hdistinct =>
      cases h
      exact ⟨rfl, hdistinct⟩
    · cases h
  · rintro ⟨rfl, hdistinct⟩
    rw [if_pos hdistinct]

/-- What is found in a row is what the object gives for the field. -/
theorem valuesOf_eq_toList (hrow : memberRow fields ms = some row) (hname : name ∈ fields) :
    valuesOf ms name = (row.lookup name).toList := by
  obtain ⟨named, rfl, rfl, hdistinct⟩ := memberRow_eq_some_iff.1 hrow
  rw [valuesOf_named, ← values_eq_toList hdistinct, List.filter_filter]
  congr 1
  refine List.filter_congr fun m _ => ?_
  by_cases hm : m.1 = name <;> simp_all

theorem exists_named (h : ∀ m ∈ ms, m.1.isSome = true) :
    ∃ named : Row, ms = named.map fun m => (some m.1, m.2) := by
  refine ⟨ms.map fun m => (m.1.getD "", m.2), ?_⟩
  rw [List.map_map]
  refine (List.map_id ms).symm.trans (List.map_congr_left fun m hm => ?_)
  obtain ⟨name, hname⟩ := Option.isSome_iff_exists.1 (h m hm)
  simp only [Function.comp_apply, id_eq, hname, Option.getD_some]
  rw [← hname]

theorem distinct_of_length_le
    (h : ∀ name, (row.filter fun m => m.1 = name).length ≤ 1) : row.distinct = true := by
  rw [Row.distinct_iff, List.nodup_iff_count_le_one]
  intro name
  rw [List.count_eq_countP, List.countP_map, List.countP_eq_length_filter]
  exact h name

/-- The members of an object are a row if every name denotes a text and no field is given twice. -/
theorem exists_memberRow_iff :
    (∃ row, memberRow fields ms = some row) ↔
      (∀ m ∈ ms, m.1.isSome = true) ∧ ∀ f ∈ fields, (valuesOf ms f).length ≤ 1 := by
  constructor
  · rintro ⟨row, hrow⟩
    refine ⟨?_, fun f hf => ?_⟩
    · obtain ⟨named, rfl, _, _⟩ := memberRow_eq_some_iff.1 hrow
      intro m hm
      obtain ⟨n, _, rfl⟩ := List.mem_map.1 hm
      rfl
    · rw [valuesOf_eq_toList hrow hf]
      cases row.lookup f <;> simp
  · rintro ⟨hnames, honce⟩
    obtain ⟨named, rfl⟩ := exists_named hnames
    refine ⟨_, memberRow_eq_some_iff.2 ⟨named, rfl, rfl, distinct_of_length_le fun name => ?_⟩⟩
    rw [List.filter_filter]
    by_cases hname : name ∈ fields
    · have hlength := honce name hname
      rw [valuesOf_named, List.length_map] at hlength
      refine Nat.le_trans (Nat.le_of_eq (congrArg _ (List.filter_congr fun m _ => ?_))) hlength
      by_cases hm : m.1 = name <;> simp_all
    · refine Nat.le_trans (Nat.le_of_eq (List.length_eq_zero_iff.2 ?_)) (Nat.zero_le 1)
      rw [List.filter_eq_nil_iff]
      rintro m _ hm
      obtain ⟨rfl, hfield⟩ : m.1 = name ∧ m.1 ∈ fields := by simpa using hm
      exact hname hfield

end Row

/-! ## Fields -/

/-- The value is read as what it denotes. -/
def ReadAs {α : Type} [Codec α] (Denotes : Value → α → Prop) (v : Value) : Prop :=
  ∀ a, Codec.read? v = some a ↔ Denotes v a

section Field

variable {α : Type} {Denotes : Value → α → Prop} {fields : List String}
  {ms : List (Text × Value)} {row : Row} {name : String} {a default : α}

/-- The field is given exactly once. -/
def GivenOnce (Denotes : Value → α → Prop) (ms : List (Text × Value)) (name : String) (a : α) :
    Prop :=
  ∃ v, valuesOf ms name = [v] ∧ Denotes v a

/-- The field is given once at most, and has its default if it is not given. -/
def GivenOrDefault (Denotes : Value → α → Prop) (default : α) (ms : List (Text × Value))
    (name : String) (a : α) : Prop :=
  valuesOf ms name = [] ∧ a = default ∨ GivenOnce Denotes ms name a

theorem GivenOnce.length_le (h : GivenOnce Denotes ms name a) :
    (valuesOf ms name).length ≤ 1 := by
  obtain ⟨v, hv, _⟩ := h
  simp [hv]

theorem GivenOrDefault.length_le (h : GivenOrDefault Denotes default ms name a) :
    (valuesOf ms name).length ≤ 1 := by
  rcases h with ⟨h, _⟩ | h
  · simp [h]
  · exact h.length_le

variable [Codec α]

theorem required_iff (hrow : memberRow fields ms = some row) (hname : name ∈ fields)
    (h : ∀ v ∈ valuesOf ms name, ReadAs Denotes v) :
    row.required name = some a ↔ GivenOnce Denotes ms name a := by
  have hvalues := valuesOf_eq_toList hrow hname
  rw [Row.required, GivenOnce]
  cases hlookup : row.lookup name with
  | none => simp [hvalues, hlookup]
  | some v =>
    rw [hlookup, Option.toList_some] at hvalues
    have hread := h v (by simp [hvalues]) a
    simp [hvalues, hread]

theorem withDefault_iff (hrow : memberRow fields ms = some row) (hname : name ∈ fields)
    (h : ∀ v ∈ valuesOf ms name, ReadAs Denotes v) :
    row.withDefault name default = some a ↔ GivenOrDefault Denotes default ms name a := by
  have hvalues := valuesOf_eq_toList hrow hname
  rw [Row.withDefault, GivenOrDefault, GivenOnce]
  cases hlookup : row.lookup name with
  | none => simp [hvalues, hlookup, eq_comm]
  | some v =>
    rw [hlookup, Option.toList_some] at hvalues
    have hread := h v (by simp [hvalues]) a
    simp [hvalues, hread]

end Field

/-! ## What a value denotes -/

/-- What counts as a name and as an integer. -/
inductive Standard where
  /-- Every string is a name, and every number without fraction and exponent is an integer. -/
  | grammar
  /-- A name denotes a text, and zero has no sign. -/
  | codec

def Standard.IsName : Standard → Text → Prop
  | .grammar, _ => True
  | .codec, t => t.isSome = true

theorem Standard.isName_some (std : Standard) (s : String) : std.IsName (some s) := by
  cases std with
  | grammar => trivial
  | codec => rfl

inductive DenotesText : Value → String → Prop
  | text (s : String) : DenotesText (.string (some s)) s

inductive DenotesFlag : Value → Bool → Prop
  | flag (b : Bool) : DenotesFlag (.bool b) b

inductive DenotesInteger (std : Standard) : Value → Int → Prop
  | unsigned (n : Nat) : DenotesInteger std (.integer false n) n
  | negative {n : Nat} (h : std = .codec → 0 < n) : DenotesInteger std (.integer true n) (-n)

/-- An integer in the range of the unsigned numbers of 64 bits. -/
def DenotesUnsigned (std : Standard) (v : Value) (n : UInt64) : Prop :=
  DenotesInteger std v n.toNat

/-- An integer in the range of the signed numbers of 64 bits. -/
def DenotesSigned (std : Standard) (v : Value) (n : Int64) : Prop := DenotesInteger std v n.toInt

/-- What is optional may be `null`, and denotes nothing then. -/
inductive DenotesOptional {α : Type} (Denotes : Value → α → Prop) : Value → Option α → Prop
  | null : DenotesOptional Denotes .null none
  | given {v : Value} {a : α} (hgiven : v ≠ .null) (h : Denotes v a) :
      DenotesOptional Denotes v (some a)

/-- Every element of an array denotes an element of the list. -/
inductive DenotesList {α : Type} (Denotes : Value → α → Prop) : Value → List α → Prop
  | array {vs : List Value} {as : List α} (h : List.Forall₂ Denotes vs as) :
      DenotesList Denotes (.array vs) as

/-- A record stands as an object. -/
inductive DenotesRecord {α : Type} (Members : List (Text × Value) → α → Prop) : Value → α → Prop
  | object {ms : List (Text × Value)} {a : α} (h : Members ms a) :
      DenotesRecord Members (.object ms) a

theorem denotesRecord_object_iff {α : Type} {Members : List (Text × Value) → α → Prop}
    {ms : List (Text × Value)} {a : α} : DenotesRecord Members (.object ms) a ↔ Members ms a :=
  ⟨fun ⟨h⟩ => h, .object⟩

def IsArray (v : Value) : Prop := ∃ vs, v = .array vs

section Reading

variable {α : Type} [Codec α] {Denotes : Value → α → Prop} {v : Value}

theorem readAs_text : ReadAs DenotesText v := by
  intro s
  constructor
  · intro h
    cases v with
    | string t =>
      cases t with
      | none => cases h
      | some t =>
        cases h
        exact .text _
    | _ => cases h
  · rintro ⟨s⟩
    rfl

theorem readAs_flag : ReadAs DenotesFlag v := by
  intro b
  constructor
  · intro h
    cases v with
    | bool b =>
      cases h
      exact .flag _
    | _ => cases h
  · rintro ⟨b⟩
    rfl

theorem denotesInteger_unsigned_iff {std : Standard} {n : Nat} {i : Int} :
    DenotesInteger std (.integer false n) i ↔ i = n := by
  constructor
  · rintro ⟨⟩
    rfl
  · rintro rfl
    exact .unsigned n

theorem denotesInteger_negative_iff {std : Standard} {n : Nat} {i : Int} :
    DenotesInteger std (.integer true n) i ↔ i = -n ∧ (std = .codec → 0 < n) := by
  constructor
  · intro h
    cases h with
    | negative h => exact ⟨rfl, h⟩
  · rintro ⟨rfl, h⟩
    exact .negative h

theorem readAs_unsigned : ReadAs (DenotesUnsigned .codec) v := by
  intro a
  have ha := a.toNat_lt_size
  cases v with
  | integer negative n =>
    cases negative with
    | false =>
      show (if n < UInt64.size then some (UInt64.ofNat n) else none) = some a ↔ _
      rw [DenotesUnsigned, denotesInteger_unsigned_iff]
      constructor
      · intro h
        split at h
        · next hn =>
          cases h
          rw [UInt64.toNat_ofNat_of_lt' hn]
        · cases h
      · intro h
        obtain rfl : a.toNat = n := by exact_mod_cast h
        rw [if_pos ha, UInt64.ofNat_toNat]
    | true =>
      rw [DenotesUnsigned, denotesInteger_negative_iff]
      refine ⟨fun h => (by cases h), fun ⟨h, hpos⟩ => ?_⟩
      have hpos := hpos rfl
      omega
  | _ => exact ⟨fun h => (by cases h), fun h => (by cases h)⟩

theorem readAs_signed : ReadAs (DenotesSigned .codec) v := by
  intro a
  have hlow := a.le_toInt
  have hhigh := a.toInt_lt
  cases v with
  | integer negative n =>
    cases negative with
    | false =>
      show (if n < 0x8000000000000000 then some (Int64.ofNat n) else none) = some a ↔ _
      rw [DenotesSigned, denotesInteger_unsigned_iff]
      constructor
      · intro h
        split at h
        · next hn =>
          cases h
          rw [← Int64.ofInt_eq_ofNat, Int64.toInt_ofInt_of_le (by omega) (by omega)]
        · cases h
      · intro h
        rw [if_pos (by omega), ← Int64.ofInt_eq_ofNat, ← h, Int64.ofInt_toInt]
    | true =>
      show (if 0 < n ∧ n ≤ 0x8000000000000000 then some (Int64.ofInt (-n)) else none) = some a ↔ _
      rw [DenotesSigned, denotesInteger_negative_iff]
      constructor
      · intro h
        split at h
        · next hn =>
          cases h
          exact ⟨Int64.toInt_ofInt_of_le (by omega) (by omega), fun _ => hn.1⟩
        · cases h
      · rintro ⟨h, hpos⟩
        have hpos := hpos rfl
        rw [if_pos (by omega), ← h, Int64.ofInt_toInt]
  | _ => exact ⟨fun h => (by cases h), fun h => (by cases h)⟩

theorem readAs_optional (h : v ≠ .null → ReadAs Denotes v) :
    ReadAs (DenotesOptional Denotes) v := by
  intro a?
  by_cases hnull : v = .null
  · subst hnull
    show some none = some a? ↔ _
    constructor
    · rintro ⟨⟩
      exact .null
    · intro hdenotes
      cases hdenotes with
      | null => rfl
      | given hgiven _ => exact absurd rfl hgiven
  · have hread : Codec.read? v = (Codec.read? v : Option α).map some := by
      cases v with
      | null => exact absurd rfl hnull
      | _ => rfl
    rw [hread, Option.map_eq_some_iff]
    constructor
    · rintro ⟨a, ha, rfl⟩
      exact .given hnull ((h hnull a).1 ha)
    · intro hdenotes
      cases hdenotes with
      | null => exact absurd rfl hnull
      | given _ hdenotes => exact ⟨_, (h hnull _).2 hdenotes, rfl⟩

theorem forall₂_readAs {vs : List Value} (h : ∀ v ∈ vs, ReadAs Denotes v) (as : List α) :
    List.Forall₂ (fun v a => Codec.read? v = some a) vs as ↔ List.Forall₂ Denotes vs as := by
  induction vs generalizing as with
  | nil => simp
  | cons v vs ih =>
    obtain ⟨hv, hvs⟩ := List.forall_mem_cons.1 h
    simp only [List.forall₂_cons_left_iff, hv _, ih hvs]

theorem readAs_list (h : ∀ vs, v = .array vs → ∀ w ∈ vs, ReadAs Denotes w) :
    ReadAs (DenotesList Denotes) v := by
  intro as
  cases v with
  | array vs =>
    rw [read?_array_eq_some_iff, forall₂_readAs (h vs rfl)]
    exact ⟨.array, fun ⟨h⟩ => h⟩
  | _ => exact ⟨fun h => (by cases h), fun h => (by cases h)⟩

/-- A record that does not stand as an array is read from the members of an object. They have to be
a row, and what is read from the row is what they make. -/
theorem readAs_record {fields : List String} {readRow? : Row → Option α}
    {Members : List (Text × Value) → α → Prop}
    (hread : ∀ v, Codec.read? v = (v.row? fields).bind readRow?)
    (honce : ∀ ms a, Members ms a →
      (∀ m ∈ ms, m.1.isSome = true) ∧ ∀ f ∈ fields, (valuesOf ms f).length ≤ 1)
    (hrow : ∀ ms row, v = .object ms → memberRow fields ms = some row →
      ∀ a, readRow? row = some a ↔ Members ms a)
    (harray : ¬IsArray v) : ReadAs (DenotesRecord Members) v := by
  intro a
  rw [hread]
  cases v with
  | object ms =>
    rw [denotesRecord_object_iff, Option.bind_eq_some_iff]
    constructor
    · rintro ⟨row, hmembers, h⟩
      exact (hrow ms row rfl hmembers a).1 h
    · intro h
      obtain ⟨row, hmembers⟩ := exists_memberRow_iff.2 (honce ms a h)
      exact ⟨row, hmembers, (hrow ms row rfl hmembers a).2 h⟩
  | array vs => exact absurd ⟨vs, rfl⟩ harray
  | _ => exact ⟨fun h => (by cases h), fun h => (by cases h)⟩

end Reading

end BillDesk.Json
