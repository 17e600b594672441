import BillDesk.CommandLine.Command
import BillDesk.Contact
import BillDesk.Identity
import BillDesk.Proofs.Date.Text
import BillDesk.Proofs.Json.Laws

/-!
# The wire format

What the program writes of its data is read back as the same data: every text, every number of its
range, and whatever is left out. Each record is written under names that are all different, so it is
enough that its members are read back.

Results:
1. `lawfulCodec_of_names`: names of enumerations.
2. One instance of `LawfulCodec` for each type that is exchanged with the ledger.
3. `written_is_read_back`: their texts, compact and in lines, alone and in lists.
-/

namespace BillDesk

open Json

/-! ## Names and texts -/

/-- A name that stands for a value is read as that value. -/
theorem Json.lawfulCodec_of_names {α : Type} [Codec α] {name : α → String}
    {named : String → Option α} (hwrite : ∀ a : α, Codec.write a = .text (name a))
    (hread : ∀ v, (Codec.read? v : Option α) = readName? named v)
    (hname : ∀ a, named (name a) = some a) : LawfulCodec α where
  read?_write a := by
    rw [hwrite, hread]
    exact hname a
  integral_write a := by
    rw [hwrite]
    exact .string _

instance : LawfulCodec Operation :=
  lawfulCodec_of_names (fun _ => rfl) (fun _ => rfl) Operation.ofName?_name

instance : LawfulCodec Role :=
  lawfulCodec_of_names (fun _ => rfl) (fun _ => rfl) Role.ofName?_name

instance : LawfulCodec PeerId where
  read?_write _ := rfl
  integral_write p := .string (some p.text)

instance : LawfulCodec Date where
  read?_write d := by
    show (some d.text).bind Date.read? = some d
    rw [Option.bind_some, Date.read?_text]
  integral_write d := .string (some d.text)

/-! ## Records -/

instance : LawfulCodec Party :=
  lawfulCodec_of_records (fun _ => rfl) (fun _ => rfl) (fun _ => rfl) (by decide) (by simp)
    (by simp [integral_write])

instance : NeverNull Party where
  write_ne_null _ h := by cases h

instance : LawfulCodec Contact :=
  lawfulCodec_of_records (fun _ => rfl) (fun _ => rfl) (fun _ => rfl) (by decide) (by simp)
    (by simp [integral_write])

instance : LawfulCodec Identity :=
  lawfulCodec_of_records (fun _ => rfl) (fun _ => rfl) (fun _ => rfl) (by decide) (by simp)
    (by simp [integral_write])

instance : LawfulCodec ChainBlock :=
  lawfulCodec_of_records (fun _ => rfl) (fun _ => rfl) (fun _ => rfl) (by decide) (by simp)
    (by simp [integral_write])

instance : LawfulCodec Chain :=
  lawfulCodec_of_records (fun _ => rfl) (fun _ => rfl) (fun _ => rfl) (by decide) (by simp)
    (by simp [integral_write])

instance : LawfulCodec Bill := by
  refine lawfulCodec_of_records (fun _ => rfl) (fun _ => rfl) (fun _ => rfl) (by decide) ?_
    (by simp [integral_write])
  intro b
  rw [Bill.readRow?_eq_some_iff]
  constructor
  case status => constructor <;> simp
  all_goals simp

/-! ## What is written is read back -/

/-- Every value is read back from what is written of it: from the compact text that is sent, from
the text in lines, and from what a command prints as JSON. -/
def ReadsBack (α : Type) [Codec α] : Prop :=
  ∀ a : α,
    decode? α (read? (compact (Codec.write a))) = some a ∧
      decode? α (read? (pretty (Codec.write a))) = some a ∧
        ∀ text, decode? α (read? (Command.Format.json.print (Codec.write a) text)) = some a

theorem readsBack (α : Type) [Codec α] [LawfulCodec α] : ReadsBack α := fun a =>
  ⟨decode?_compact a, decode?_pretty a, fun _ => decode?_pretty_line a⟩

/-- The wire format loses nothing of what the ledger and the program tell each other. -/
theorem written_is_read_back :
    (ReadsBack Bill ∧ ReadsBack (List Bill)) ∧
      (ReadsBack Party ∧ ReadsBack (List Party)) ∧
      (ReadsBack Contact ∧ ReadsBack (List Contact)) ∧
      (ReadsBack Identity ∧ ReadsBack (List Identity)) ∧
      (ReadsBack ChainBlock ∧ ReadsBack (List ChainBlock)) ∧
      (ReadsBack Chain ∧ ReadsBack (List Chain)) ∧
      (ReadsBack Operation ∧ ReadsBack (List Operation)) ∧
      (ReadsBack Role ∧ ReadsBack (List Role)) ∧
      (ReadsBack PeerId ∧ ReadsBack (List PeerId)) ∧
      (ReadsBack Date ∧ ReadsBack (List Date)) := by
  refine ⟨⟨?_, ?_⟩, ⟨?_, ?_⟩, ⟨?_, ?_⟩, ⟨?_, ?_⟩, ⟨?_, ?_⟩, ⟨?_, ?_⟩, ⟨?_, ?_⟩, ⟨?_, ?_⟩, ⟨?_, ?_⟩,
    ⟨?_, ?_⟩⟩ <;> exact readsBack _

end BillDesk
