import BillDesk.Json.Codec
import BillDesk.Proofs.Bill.Reading
import BillDesk.Proofs.Json.RoundTrip

/-!
# Values that are read back

A type is lawful if each of its values is read back from what is written for it. Then the value is
read back from its JSON text, too, in either layout. A record is lawful if its members are: it is
written with every member under a name of its own, so each is found again.

Results:
1. `decode?_compact`, `decode?_pretty` and `decode?_pretty_line`: values of a lawful type are read
   back from their texts.
2. `row?_record`: the members of a record are found again.
3. `required_cons_self`, `withDefault_cons_self` and those of other names: what is under a name.
-/

namespace BillDesk.Json

/-- Each value is read back from what is written for it. -/
class LawfulCodec (α : Type) [Codec α] : Prop where
  read?_write : ∀ a : α, Codec.read? (Codec.write a) = some a
  integral_write : ∀ a : α, (Codec.write a).Integral

/-- No value is written as `null`, so that one may be told from none. -/
class NeverNull (α : Type) [Codec α] : Prop where
  write_ne_null : ∀ a : α, Codec.write a ≠ .null

export LawfulCodec (read?_write integral_write)

export NeverNull (write_ne_null)

/-! ## Texts -/

section Text

variable {α : Type} [Codec α] [LawfulCodec α] (a : α)

theorem decode?_compact : decode? α (read? (compact (Codec.write a))) = some a := by
  rw [read?_compact (integral_write a), decode?, Option.bind_some, read?_write]

theorem decode?_pretty : decode? α (read? (pretty (Codec.write a))) = some a := by
  rw [read?_pretty (integral_write a), decode?, Option.bind_some, read?_write]

theorem decode?_pretty_line : decode? α (read? (pretty (Codec.write a) ++ "\n")) = some a := by
  rw [read?_pretty_line (integral_write a), decode?, Option.bind_some, read?_write]

end Text

/-! ## Simple values -/

instance : LawfulCodec String where
  read?_write _ := rfl
  integral_write s := .string (some s)

instance : NeverNull String where
  write_ne_null _ h := by cases h

instance : LawfulCodec Bool where
  read?_write _ := rfl
  integral_write b := .bool b

instance : LawfulCodec UInt64 where
  read?_write n := by
    have hn := n.toNat_lt_size
    show (if n.toNat < UInt64.size then some (UInt64.ofNat n.toNat) else none) = some n
    rw [if_pos hn, UInt64.ofNat_toNat]
  integral_write n := .integer false n.toNat

instance : NeverNull UInt64 where
  write_ne_null _ h := by cases h

instance : LawfulCodec Int64 where
  read?_write n := by
    have hlow := n.le_toInt
    have hhigh := n.toInt_lt
    show Codec.read? (Value.integer (n.toInt < 0) n.toInt.natAbs) = some n
    by_cases hnegative : n.toInt < 0
    · rw [decide_eq_true hnegative]
      show (if 0 < n.toInt.natAbs ∧ n.toInt.natAbs ≤ 0x8000000000000000 then
        some (Int64.ofInt (-n.toInt.natAbs)) else none) = some n
      rw [if_pos (by omega), show -(n.toInt.natAbs : Int) = n.toInt by omega, Int64.ofInt_toInt]
    · rw [decide_eq_false hnegative]
      show (if n.toInt.natAbs < 0x8000000000000000 then some (Int64.ofNat n.toInt.natAbs)
        else none) = some n
      rw [if_pos (by omega), ← Int64.ofInt_eq_ofNat, show (n.toInt.natAbs : Int) = n.toInt by omega,
        Int64.ofInt_toInt]
  integral_write n := .integer _ _

instance : NeverNull Int64 where
  write_ne_null _ h := by cases h

section Containers

variable {α : Type} [Codec α] [LawfulCodec α]

instance [NeverNull α] : LawfulCodec (Option α) where
  read?_write a? := by
    cases a? with
    | none => rfl
    | some a =>
      have hne := write_ne_null a
      have hread : (Codec.read? (Codec.write a) : Option α).map some = some (some a) := by
        rw [read?_write, Option.map_some]
      change Codec.read? (Codec.write a) = some (some a)
      cases hwritten : (Codec.write a : Value) with
      | null => exact absurd hwritten hne
      | _ =>
        rw [hwritten] at hread
        exact hread
  integral_write a? := by
    cases a? with
    | none => exact .null
    | some a => exact integral_write a

instance : LawfulCodec (List α) where
  read?_write as := by
    refine mapM_eq_some_iff.2 ?_
    rw [List.forall₂_map_left_iff, List.forall₂_same]
    exact fun a _ => read?_write a
  integral_write as := by
    refine .array fun v hv => ?_
    obtain ⟨a, _, rfl⟩ := List.mem_map.1 hv
    exact integral_write a

end Containers

/-! ## Records -/

theorem integral_record {members : List (String × Value)} (h : ∀ m ∈ members, m.2.Integral) :
    (Value.record members).Integral := by
  refine .object fun m hm => ?_
  obtain ⟨m', hm', rfl⟩ := List.mem_map.1 hm
  exact h m' hm'

theorem Row.distinct_iff {row : Row} : row.distinct = true ↔ (row.map Prod.fst).Nodup := by
  induction row with
  | nil => simp [distinct]
  | cons m row ih => simp [distinct, ih]

/-- A record has every member under a name of its own, and they are all found. -/
theorem row?_record {fields : List String} {members : List (String × Value)}
    (hnames : members.map Prod.fst = fields) (hnodup : fields.Nodup) :
    (Value.record members).row? fields = some members := by
  have hnamed : (members.map fun m => (some m.1, m.2)).mapM
      (fun m : Text × Value => m.1.map fun name => (name, m.2)) = some members := by
    rw [mapM_eq_some_iff, List.forall₂_map_left_iff, List.forall₂_same]
    exact fun _ _ => rfl
  have hall : members.filter (fun m => fields.contains m.1) = members := by
    refine List.filter_eq_self.2 fun m hm => ?_
    rw [List.contains_iff_mem, ← hnames]
    exact List.mem_map_of_mem hm
  have hdistinct : Row.distinct members = true := Row.distinct_iff.2 (hnames ▸ hnodup)
  show memberRow fields (members.map fun m => (some m.1, m.2)) = some members
  simp only [memberRow, hnamed, Option.bind_eq_bind, Option.bind_some, hall, hdistinct, if_true]

/-- A type whose values are written as records is lawful if they are read back from their rows. -/
theorem lawfulCodec_of_records {α : Type} [Codec α] {fields : List String}
    {members : α → List (String × Value)} {read : Row → Option α}
    (hwrite : ∀ a : α, Codec.write a = .record (members a))
    (hread : ∀ v, (Codec.read? v : Option α) = (v.row? fields).bind read)
    (hnames : ∀ a, (members a).map Prod.fst = fields) (hnodup : fields.Nodup)
    (hmembers : ∀ a, read (members a) = some a)
    (hintegral : ∀ a, ∀ m ∈ members a, m.2.Integral) : LawfulCodec α where
  read?_write a := by
    rw [hwrite, hread, row?_record (hnames a) hnodup, Option.bind_some, hmembers]
  integral_write a := by
    rw [hwrite]
    exact integral_record (hintegral a)

namespace Row

variable {α : Type} [Codec α] {row : Row} {name name' : String} {v : Value}

@[simp]
theorem required_cons_self [LawfulCodec α] (a : α) :
    required ((name, Codec.write a) :: row) name = some a := by
  rw [required, List.lookup_cons_self, Option.bind_some, read?_write]

@[simp]
theorem required_cons_of_ne (h : name ≠ name') :
    required (α := α) ((name', v) :: row) name = required row name := by
  rw [required, required, List.lookup_cons, beq_false_of_ne h]

@[simp]
theorem withDefault_cons_self [LawfulCodec α] (a default : α) :
    withDefault ((name, Codec.write a) :: row) name default = some a := by
  rw [withDefault, List.lookup_cons_self]
  exact read?_write a

@[simp]
theorem withDefault_cons_of_ne (h : name ≠ name') (default : α) :
    withDefault ((name', v) :: row) name default = withDefault row name default := by
  rw [withDefault, withDefault, List.lookup_cons, beq_false_of_ne h]

end Row

end BillDesk.Json
