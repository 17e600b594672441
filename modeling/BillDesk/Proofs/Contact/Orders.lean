import BillDesk.Ledger.Http
import BillDesk.Proofs.Text.Trimming
import BillDesk.Service.Decision
import Mathlib.Data.Fintype.EquivFin

/-!
# Orders about contacts

What is typed about a contact is checked against the contacts that are loaded, and what passes is
sent. Names are compared without the white space around them on both sides, and they are sent
without it. The ledger looks for the name as it is sent. So it finds the contact that was meant
unless that one is kept under a name with white space around it, which only the ledger can have
come to by itself.

Results:
1. `addOrder_eq_ok_iff`, `editOrder_eq_ok_iff` and `removeOrder_eq_ok_iff`: when an order is sent,
   and which.
2. `postsListedNames_iff`: for which contacts every order names one of them, letter by letter.
3. `not_postsListedNames_padded`: a contact that no order names.
-/

namespace BillDesk

namespace Contact

variable {book : List Contact} {oldName name : String} {peer : PeerId} {order : Order}

/-! ## What passes the checks -/

/-- The name is that of a contact, but for the white space around either. -/
def IsKnown (book : List Contact) (name : String) : Prop :=
  ∃ c ∈ book, Text.trim c.name = Text.trim name

theorem isSome_find?_iff : (find? book name).isSome = true ↔ IsKnown book name := by
  simp [find?, IsKnown]

theorem isSome_find?_eq_false_iff : (find? book name).isSome = false ↔ ¬IsKnown book name := by
  rw [← isSome_find?_iff, Bool.not_eq_true]

theorem isNone_find?_eq_false_iff : (find? book name).isNone = false ↔ IsKnown book name := by
  rw [← isSome_find?_iff, Option.isNone_eq_false_iff]

theorem checkFields_eq_ok_iff :
    checkFields name peer = .ok () ↔ Text.isBlank name = false ∧ peer.isEmpty = false := by
  rw [checkFields, Check.seq_eq_ok_iff, refuseIf_eq_ok, refuseIf_eq_ok]

theorem addOrder_eq_ok_iff :
    addOrder book name peer = .ok order ↔
      (Text.isBlank name = false ∧ peer.isEmpty = false ∧ ¬IsKnown book name) ∧
        order = .addContact (Text.trim name) peer := by
  rw [addOrder, Order.checked_eq_ok_iff, checkNew, Check.seq_eq_ok_iff, checkFields_eq_ok_iff,
    refuseIf_eq_ok, isSome_find?_eq_false_iff]
  simp only [and_assoc]

/-- A contact may keep its name, and may not take that of another one. -/
theorem editOrder_eq_ok_iff :
    editOrder book oldName name peer = .ok order ↔
      (IsKnown book oldName ∧ Text.isBlank name = false ∧ peer.isEmpty = false ∧
        (Text.trim name = Text.trim oldName ∨ ¬IsKnown book name)) ∧
        order = .editContact (Text.trim oldName) (Text.trim name) peer := by
  have htaken : (Text.trim name != Text.trim oldName && (find? book name).isSome) = false ↔
      Text.trim name = Text.trim oldName ∨ ¬IsKnown book name := by
    rw [Bool.and_eq_false_iff, isSome_find?_eq_false_iff, bne_eq_false_iff_eq]
  rw [editOrder, Order.checked_eq_ok_iff, checkChange, Check.seq_eq_ok_iff, Check.seq_eq_ok_iff,
    checkFields_eq_ok_iff, refuseIf_eq_ok, refuseIf_eq_ok, isNone_find?_eq_false_iff, htaken]
  simp only [and_assoc]

theorem removeOrder_eq_ok_iff :
    removeOrder book name = .ok order ↔
      (Text.isBlank name = false ∧ IsKnown book name) ∧
        order = .removeContact (Text.trim name) := by
  rw [removeOrder, Order.checked_eq_ok_iff, checkRemoval, Check.seq_eq_ok_iff, refuseIf_eq_ok,
    refuseIf_eq_ok, isNone_find?_eq_false_iff]

/-! ## Names that the ledger finds -/

/-- Every order that is sent to change or to remove a contact names one of the contacts, letter by
letter. -/
def PostsListedNames (book : List Contact) : Prop :=
  (∀ oldName name peer order, editOrder book oldName name peer = .ok order →
    ∃ c ∈ book, order.fields.lookup "old_name" = some c.name) ∧
  ∀ name order, removeOrder book name = .ok order →
    ∃ c ∈ book, order.fields.lookup "name" = some c.name

/-- There is always a name that is not taken. -/
theorem exists_fresh (book : List Contact) :
    ∃ name, Text.isBlank name = false ∧ ¬IsKnown book name := by
  -- A name of letters alone, of a length that no name of the book has.
  obtain ⟨n, hn⟩ := Infinite.exists_notMem_finset
    (book.map fun c => (Text.trim c.name).length - 1).toFinset
  let letters : List Char := List.replicate (n + 1) 'a'
  have htrim : Text.trim (String.ofList letters) = String.ofList letters := by
    rw [Text.trim, String.toList_ofList, Text.trimChars_of_no_blank]
    intro c hc
    rw [List.eq_of_mem_replicate hc]
    rfl
  have hlength : (String.ofList letters).length = n + 1 := by
    rw [String.length_ofList, List.length_replicate]
  refine ⟨String.ofList letters, ?_, ?_⟩
  · rw [Bool.eq_false_iff, Ne, Text.isBlank_iff, htrim]
    intro hempty
    rw [hempty] at hlength
    cases hlength
  · rintro ⟨c, hc, hname⟩
    apply hn
    rw [List.mem_toFinset, List.mem_map]
    exact ⟨c, hc, by rw [hname, htrim, hlength, Nat.add_sub_cancel]⟩

/-- Every order names one of the contacts exactly when each trimmed name is itself the name of a
contact. Where it is not, the contact can still be found, and what is posted for it is a name that
nobody has. -/
theorem postsListedNames_iff :
    PostsListedNames book ↔ ∀ c ∈ book, ∃ c' ∈ book, c'.name = Text.trim c.name := by
  constructor
  · rintro ⟨hedits, _⟩ c hc
    obtain ⟨name, hname, hfresh⟩ := exists_fresh book
    obtain ⟨c', hc', hposted⟩ := hedits c.name name ⟨"peer"⟩ _
      (editOrder_eq_ok_iff.2 ⟨⟨⟨c, hc, rfl⟩, hname, rfl, .inr hfresh⟩, rfl⟩)
    exact ⟨c', hc', (Option.some.inj hposted).symm⟩
  · intro hlisted
    have hfound : ∀ name, IsKnown book name → ∃ c ∈ book, some (Text.trim name) = some c.name := by
      rintro name ⟨c, hc, hname⟩
      obtain ⟨c', hc', hname'⟩ := hlisted c hc
      exact ⟨c', hc', by rw [hname', hname]⟩
    constructor
    · intro oldName name peer order horder
      obtain ⟨⟨hknown, _⟩, rfl⟩ := editOrder_eq_ok_iff.1 horder
      exact hfound oldName hknown
    · intro name order horder
      obtain ⟨⟨_, hknown⟩, rfl⟩ := removeOrder_eq_ok_iff.1 horder
      exact hfound name hknown

/-- A contact with white space around its name is found by what is typed, and not by the ledger. -/
theorem not_postsListedNames_padded : ¬PostsListedNames [⟨" Minka", ⟨"12D3KooWMinka"⟩⟩] := by
  rintro ⟨_, hremovals⟩
  obtain ⟨c, hc, hposted⟩ := hremovals "Minka" (.removeContact "Minka") rfl
  rw [List.mem_singleton.1 hc] at hposted
  exact absurd hposted (by decide)

end Contact

end BillDesk
