import BillDesk.Proofs.Contact.Orders

/-!
# A contact book in order

In a book that is in order every contact has a name without white space around it, no two contacts
have the same name, and nobody is without a name or a peer id. What passes the checks against such a
book does to it just what was meant: one contact comes, one is changed, or one goes, and the book is
in order again.

Results:
1. `tidy_middle_iff`: a book is in order with one more contact in it.
2. `map_replaced_middle` and `filter_middle`: what is found by its name is one contact.
3. `Tidy.add`, `Tidy.edit` and `Tidy.remove`: what the orders that are sent do to a book.
-/

namespace BillDesk.Contact

structure IsProper (c : Contact) : Prop where
  trimmed : Text.trim c.name = c.name
  named : Text.isBlank c.name = false
  addressed : c.peerId.isEmpty = false

structure Tidy (book : List Contact) : Prop where
  proper : ∀ c ∈ book, c.IsProper
  nodup : (book.map Contact.name).Nodup

theorem isProper_mk {name : String} {peer : PeerId} (hname : Text.isBlank name = false)
    (hpeer : peer.isEmpty = false) : IsProper ⟨Text.trim name, peer⟩ where
  trimmed := Text.trim_trim name
  named := by rw [Text.isBlank_trim, hname]
  addressed := hpeer

/-! ## One contact among others -/

section Middle

variable {front back : List Contact} {c : Contact}

theorem tidy_middle_iff :
    Tidy (front ++ c :: back) ↔
      c.IsProper ∧ Tidy (front ++ back) ∧ ∀ x ∈ front ++ back, x.name ≠ c.name := by
  have hperm : (front ++ c :: back).Perm (c :: (front ++ back)) := List.perm_middle
  have hproper : (∀ x ∈ front ++ c :: back, x.IsProper) ↔
      c.IsProper ∧ ∀ x ∈ front ++ back, x.IsProper := by
    rw [← List.forall_mem_cons]
    exact forall_congr' fun x => imp_congr_left hperm.mem_iff
  have hnodup : ((front ++ c :: back).map Contact.name).Nodup ↔
      (∀ x ∈ front ++ back, x.name ≠ c.name) ∧ ((front ++ back).map Contact.name).Nodup := by
    rw [(hperm.map Contact.name).nodup_iff, List.map_cons, List.nodup_cons, List.mem_map]
    simp only [not_exists, not_and]
  constructor
  · rintro ⟨hall, hnames⟩
    obtain ⟨hc, hothers⟩ := hproper.1 hall
    obtain ⟨hne, hnames⟩ := hnodup.1 hnames
    exact ⟨hc, ⟨hothers, hnames⟩, hne⟩
  · rintro ⟨hc, ⟨hothers, hnames⟩, hne⟩
    exact ⟨hproper.2 ⟨hc, hothers⟩, hnodup.2 ⟨hne, hnames⟩⟩

theorem map_replaced_middle (h : ∀ x ∈ front ++ back, x.name ≠ c.name) (c' : Contact) :
    (front ++ c :: back).map (fun x => if x.name = c.name then c' else x) =
      front ++ c' :: back := by
  have hkeep : ∀ part ⊆ front ++ back,
      part.map (fun x => if x.name = c.name then c' else x) = part := by
    intro part hpart
    exact (List.map_congr_left fun x hx => if_neg (h x (hpart hx))).trans (List.map_id part)
  rw [List.map_append, List.map_cons, hkeep front (List.subset_append_left _ _),
    hkeep back (List.subset_append_right _ _), if_pos rfl]

theorem filter_middle (h : ∀ x ∈ front ++ back, x.name ≠ c.name) :
    (front ++ c :: back).filter (fun x => x.name ≠ c.name) = front ++ back := by
  have hkeep : ∀ part ⊆ front ++ back, part.filter (fun x => x.name ≠ c.name) = part := by
    intro part hpart
    exact List.filter_eq_self.2 fun x hx => decide_eq_true (h x (hpart hx))
  rw [List.filter_append, List.filter_cons_of_neg (by simp),
    hkeep front (List.subset_append_left _ _), hkeep back (List.subset_append_right _ _)]

end Middle

/-! ## What orders do to a book -/

section Orders

variable {book : List Contact} {oldName name : String} {peer : PeerId}

/-- In a book that is in order, names are compared as they are. -/
theorem Tidy.isKnown_iff (h : Tidy book) :
    IsKnown book name ↔ ∃ c ∈ book, c.name = Text.trim name := by
  constructor
  · rintro ⟨c, hc, hname⟩
    exact ⟨c, hc, (h.proper c hc).trimmed.symm.trans hname⟩
  · rintro ⟨c, hc, hname⟩
    exact ⟨c, hc, (h.proper c hc).trimmed.trans hname⟩

/-- A name that is known is that of one contact among others. -/
theorem Tidy.exists_middle (h : Tidy book) (hknown : IsKnown book name) :
    ∃ front c back, book = front ++ c :: back ∧ c.name = Text.trim name ∧
      Tidy (front ++ back) ∧ ∀ x ∈ front ++ back, x.name ≠ c.name := by
  obtain ⟨c, hc, hname⟩ := h.isKnown_iff.1 hknown
  obtain ⟨front, back, rfl⟩ := List.append_of_mem hc
  obtain ⟨_, hothers, hne⟩ := tidy_middle_iff.1 h
  exact ⟨front, c, back, rfl, hname, hothers, hne⟩

theorem Tidy.add (h : Tidy book) (hname : Text.isBlank name = false)
    (hpeer : peer.isEmpty = false) (hfree : ¬IsKnown book name) :
    Tidy (book ++ [⟨Text.trim name, peer⟩]) := by
  refine tidy_middle_iff.2 ⟨isProper_mk hname hpeer, by rwa [List.append_nil], ?_⟩
  rw [List.append_nil]
  intro c hc hsame
  exact hfree (h.isKnown_iff.2 ⟨c, hc, hsame⟩)

theorem Tidy.edit (h : Tidy book) (hknown : IsKnown book oldName)
    (hname : Text.isBlank name = false) (hpeer : peer.isEmpty = false)
    (hfree : Text.trim name = Text.trim oldName ∨ ¬IsKnown book name) :
    ∃ front c back, book = front ++ c :: back ∧ c.name = Text.trim oldName ∧
      book.map (fun x => if x.name = Text.trim oldName then ⟨Text.trim name, peer⟩ else x) =
        front ++ ⟨Text.trim name, peer⟩ :: back ∧
      Tidy (front ++ ⟨Text.trim name, peer⟩ :: back) := by
  obtain ⟨front, c, back, rfl, hc, hothers, hne⟩ := h.exists_middle hknown
  refine ⟨front, c, back, rfl, hc, hc ▸ map_replaced_middle hne _, ?_⟩
  refine tidy_middle_iff.2 ⟨isProper_mk hname hpeer, hothers, ?_⟩
  intro x hx hsame
  rcases hfree with hkept | hfree
  · exact hne x hx (hsame.trans (hkept.trans hc.symm))
  · have hmem : x ∈ front ++ c :: back :=
      List.mem_append.2 ((List.mem_append.1 hx).imp_right (List.mem_cons_of_mem c))
    exact hfree (h.isKnown_iff.2 ⟨x, hmem, hsame⟩)

theorem Tidy.remove (h : Tidy book) (hknown : IsKnown book name) :
    ∃ front c back, book = front ++ c :: back ∧ c.name = Text.trim name ∧
      book.filter (fun x => x.name ≠ Text.trim name) = front ++ back ∧ Tidy (front ++ back) := by
  obtain ⟨front, c, back, rfl, hc, hothers, hne⟩ := h.exists_middle hknown
  exact ⟨front, c, back, rfl, hc, hc ▸ filter_middle hne, hothers⟩

end Orders

end BillDesk.Contact
