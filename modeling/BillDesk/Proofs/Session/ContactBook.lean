import BillDesk.Proofs.Contact.Book
import BillDesk.Proofs.Session.Failure

/-!
# The contact book over a run

The ledger keeps the contact book, and what is typed is checked against the copy on the desk. When
the ledger does with its book what it is told, and shows it as it is, the copy is the book itself
between two operations. So a book that is in order stays so, whatever is typed, and each operation
does to it what the user meant, or nothing.

Results:
1. `inStep_start`: after the start, the copy is the book.
2. `inStep_make` and `inStep_step`: an operation keeps them in step, and does what was meant.
3. `InStep.play`: so does a run.
4. `runs_keep_contact_book`: the guarantee for every such ledger and every run.
-/

namespace BillDesk

variable {σ : Type}

/-! ## Ledgers that keep a book -/

/-- The ledger keeps a contact book. It knows the contacts by their names as they are written. An
order that it takes changes the book as told, one that it does not take leaves the book alone, and
so does every question. It shows the book as it is. -/
structure KeepsBook (L : Ledger σ) (book : σ → List Contact) : Prop where
  asked (q : Query) (t : σ) : book (L.answer q t).2 = book t
  shown (t : σ) : (L.answer .contacts t).1 = .ok (book t)
  added {name : String} {peer : PeerId} {t : σ} :
    (L.obey (.addContact name peer) t).1 = .ok () →
      book (L.obey (.addContact name peer) t).2 = book t ++ [⟨name, peer⟩]
  edited {oldName name : String} {peer : PeerId} {t : σ} :
    (L.obey (.editContact oldName name peer) t).1 = .ok () →
      book (L.obey (.editContact oldName name peer) t).2 =
        (book t).map fun c => if c.name = oldName then ⟨name, peer⟩ else c
  removed {name : String} {t : σ} : (L.obey (.removeContact name) t).1 = .ok () →
    book (L.obey (.removeContact name) t).2 = (book t).filter fun c => c.name ≠ name
  refused {order : Order} {t : σ} {e : LedgerError} :
    (L.obey order t).1 = .error e → book (L.obey order t).2 = book t

namespace Move

/-- The operations on the contact book. -/
def isOnContacts : Move → Bool
  | addContact .. | editContact .. | removeContact _ => true
  | _ => false

/-- What an operation is meant to do to the contact book: one contact is added behind the others,
one is changed where it stands, or one is taken out. The others stay as they are. -/
inductive Intends : Move → List Contact → List Contact → Prop
  | add {name : String} {peer : PeerId} {book : List Contact} :
      Intends (.addContact name peer) book (book ++ [⟨Text.trim name, peer⟩])
  | edit {oldName name : String} {peer : PeerId} {front back : List Contact} {c : Contact}
      (h : c.name = Text.trim oldName) :
      Intends (.editContact oldName name peer) (front ++ c :: back)
        (front ++ ⟨Text.trim name, peer⟩ :: back)
  | remove {name : String} {front back : List Contact} {c : Contact}
      (h : c.name = Text.trim name) :
      Intends (.removeContact name) (front ++ c :: back) (front ++ back)

end Move

namespace Session

variable {L : Ledger σ} {book : σ → List Contact} {s : Session σ} {m : Move}

/-- The view stays open, the book is in order, and the contacts on the desk are those of the
book. -/
structure InStep (book : σ → List Contact) (s : Session σ) : Prop where
  live : s.IsLive
  tidy : Contact.Tidy (book s.ledger)
  shown : s.desk.contacts = book s.ledger

/-! ## Fetching -/

theorem contacts_record {r : Resource} (h : r ≠ .contacts) (d : Desk)
    (a : Except LedgerError r.query.Answer) : (r.record d a).contacts = d.contacts := by
  cases r with
  | contacts => exact absurd rfl h
  | identity | peerId | bills => cases a <;> rfl
  | openBill name =>
    simp only [Resource.record, Desk.setSnapshot]
    split
    · split <;> rfl
    · rfl

/-- What is fetched leaves the book alone. The copy is the book if it was, or if it is fetched. -/
theorem shown_refetchAll (hL : KeepsBook L book) (hlive : s.IsLive) (rs : List Resource)
    (h : .contacts ∈ rs ∨ s.desk.contacts = book s.ledger) :
    (refetchAll L rs s).2.IsLive ∧ book (refetchAll L rs s).2.ledger = book s.ledger ∧
      (refetchAll L rs s).2.desk.contacts = book s.ledger := by
  induction rs generalizing s with
  | nil =>
    rcases h with h | h
    · cases h
    · exact ⟨hlive, rfl, h⟩
  | cons r rs ih =>
    have hbook : book (refetch L r s).2.ledger = book s.ledger := by
      rw [refetch_apply_of_live L hlive]
      exact hL.asked _ _
    have hshown : .contacts ∈ rs ∨ (refetch L r s).2.desk.contacts = book s.ledger := by
      rw [refetch_apply_of_live L hlive]
      by_cases hr : r = .contacts
      · subst hr
        right
        show (Resource.contacts.record s.desk (L.answer .contacts s.ledger).1).contacts = _
        rw [hL.shown]
        rfl
      · rw [contacts_record hr]
        exact h.imp_left fun hmem => (List.mem_cons.1 hmem).resolve_left fun heq => hr heq.symm
    rw [refetchAll_cons, ← hbook]
    rw [← hbook] at hshown
    exact ih (isLive_refetch L hlive r) hshown

/-- The page that is shown makes no difference. -/
theorem InStep.navigate (h : s.InStep book) (p : Page) :
    InStep book { s with desk := s.desk.navigate p } :=
  ⟨h.live, h.tidy, h.shown⟩

/-- After the start, the copy is the book. -/
theorem inStep_start (hL : KeepsBook L book) (hlive : s.IsLive)
    (htidy : Contact.Tidy (book s.ledger)) :
    (s.step L .start).InStep book ∧ book (s.step L .start).ledger = book s.ledger := by
  obtain ⟨hfetched, hbook, hshown⟩ :=
    shown_refetchAll hL hlive Occasion.startup.resources (.inl (by decide))
  rw [← refresh] at hfetched hbook hshown
  have hinStep : (refresh L .startup s).2.InStep book :=
    ⟨hfetched, hbook.symm ▸ htidy, hshown.trans hbook.symm⟩
  rw [step, start_apply]
  exact ⟨hinStep.navigate _, hbook⟩

/-! ## One operation -/

/-- A change of the contacts, if what the ledger makes of its order is what was meant. -/
theorem inStep_make (hL : KeepsBook L book) (h : s.InStep book)
    {checked : Except FormError Order}
    (heffect : ∀ order, checked = .ok order → (L.obey order s.ledger).1 = .ok () →
      Contact.Tidy (book (L.obey order s.ledger).2) ∧
        m.Intends (book s.ledger) (book (L.obey order s.ledger).2)) :
    (make L savingContacts checked s).2.InStep book ∧
      ((make L savingContacts checked s).1 = true →
        m.Intends (book s.ledger) (book (make L savingContacts checked s).2.ledger)) ∧
      ((make L savingContacts checked s).1 = false →
        book (make L savingContacts checked s).2.ledger = book s.ledger) := by
  rcases checked with e | order
  · rw [make_of_refused]
    exact ⟨⟨h.live, h.tidy, h.shown⟩, by simp, fun _ => rfl⟩
  rcases hobey : (L.obey order s.ledger).1 with e | _
  · have hbook := hL.refused hobey
    rw [make_of_rejected hobey]
    exact ⟨⟨h.live.tick, hbook.symm ▸ h.tidy, h.shown.trans hbook.symm⟩, by simp, fun _ => hbook⟩
  · obtain ⟨htidy, hintends⟩ := heffect order rfl hobey
    let told : Session σ := {
      desk := s.desk.notify .success savingContacts.saved
      watch := s.watch.tick
      ledger := (L.obey order s.ledger).2 }
    have htold : told.IsLive := h.live.tick
    obtain ⟨hlive, hbook, hshown⟩ :=
      shown_refetchAll hL htold savingContacts.occasion.resources (.inl (by decide))
    rw [make_of_taken hobey]
    refine ⟨⟨hlive, hbook.symm ▸ htidy, hshown.trans hbook.symm⟩, fun _ => ?_, by simp⟩
    exact hbook.symm ▸ hintends

/-- An operation on the contacts keeps the book in order and the copy in step with it. It does what
was meant, or it leaves the book alone. -/
theorem inStep_step (hL : KeepsBook L book) (h : s.InStep book) (hm : m.isOnContacts = true) :
    (s.step L m).InStep book ∧
      (¬Fails L s m → m.Intends (book s.ledger) (book (s.step L m).ledger)) ∧
      (Fails L s m → book (s.step L m).ledger = book s.ledger) := by
  cases m with
  | addContact name peer =>
    rw [step, Fails, addContact_apply, Bool.not_eq_false, h.shown]
    refine inStep_make hL h fun order horder hobey => ?_
    obtain ⟨⟨hname, hpeer, hfree⟩, rfl⟩ := Contact.addOrder_eq_ok_iff.1 horder
    rw [hL.added hobey]
    exact ⟨h.tidy.add hname hpeer hfree, .add⟩
  | editContact oldName name peer =>
    rw [step, Fails, editContact_apply, Bool.not_eq_false, h.shown]
    refine inStep_make hL h fun order horder hobey => ?_
    obtain ⟨⟨hknown, hname, hpeer, hfree⟩, rfl⟩ := Contact.editOrder_eq_ok_iff.1 horder
    obtain ⟨front, c, back, hbook, hc, hedited, htidy⟩ := h.tidy.edit hknown hname hpeer hfree
    rw [hL.edited hobey, hedited, hbook]
    exact ⟨htidy, .edit hc⟩
  | removeContact name =>
    rw [step, Fails, removeContact_apply, Bool.not_eq_false, h.shown]
    refine inStep_make hL h fun order horder hobey => ?_
    obtain ⟨⟨_, hknown⟩, rfl⟩ := Contact.removeOrder_eq_ok_iff.1 horder
    obtain ⟨front, c, back, hbook, hc, hremoved, htidy⟩ := h.tidy.remove hknown
    rw [hL.removed hobey, hremoved, hbook]
    exact ⟨htidy, .remove hc⟩
  | _ => cases hm

/-! ## Runs -/

theorem InStep.play (hL : KeepsBook L book) (h : s.InStep book) {moves : List Move}
    (hmoves : ∀ m ∈ moves, m.isOnContacts = true) : (s.play L moves).InStep book := by
  induction moves generalizing s with
  | nil => exact h
  | cons m moves ih =>
    obtain ⟨hm, hmoves⟩ := List.forall_mem_cons.1 hmoves
    exact ih (inStep_step hL h hm).1 hmoves

/-- Every run of operations on the contacts after a start, with whatever is typed, for every ledger
that keeps a book. The start leaves the book as it is. After each operation of the run the book is
in order, and the contacts on the desk are those of the book. An operation that is told as done has
done to the book what was meant, and one that is told as failed has left it as it was. -/
theorem runs_keep_contact_book (hL : KeepsBook L book) (hlive : s.IsLive)
    (htidy : Contact.Tidy (book s.ledger)) {moves : List Move}
    (hmoves : ∀ m ∈ moves, m.isOnContacts = true) (hm : m.isOnContacts = true) :
    book (s.play L [.start]).ledger = book s.ledger ∧
      let before := s.play L (.start :: moves)
      let after := before.step L m
      (Contact.Tidy (book before.ledger) ∧ before.desk.contacts = book before.ledger) ∧
      (Contact.Tidy (book after.ledger) ∧ after.desk.contacts = book after.ledger) ∧
      (¬Fails L before m → m.Intends (book before.ledger) (book after.ledger)) ∧
      (Fails L before m → book after.ledger = book before.ledger) := by
  obtain ⟨hstart, hbook⟩ := inStep_start hL hlive htidy
  refine ⟨hbook, ?_⟩
  intro before after
  have hbefore : before.InStep book := hstart.play hL hmoves
  obtain ⟨hafter, hdone, hfailed⟩ := inStep_step hL hbefore hm
  exact ⟨⟨hbefore.tidy, hbefore.shown⟩, ⟨hafter.tidy, hafter.shown⟩, hdone, hfailed⟩

/-! ## A book of addresses -/

/-- A ledger that keeps a book and nothing else, and takes so many more orders. -/
def addressBook : Ledger (List Contact × Nat) where
  answer q t :=
    match q with
    | .contacts => (.ok t.1, t)
    | _ => (.error .noAnswer, t)
  obey order t :=
    match t.2, order with
    | 0, _ => (.error .noAnswer, t)
    | n + 1, .addContact name peer => (.ok (), t.1 ++ [⟨name, peer⟩], n)
    | n + 1, .editContact oldName name peer =>
        (.ok (), t.1.map fun c => if c.name = oldName then ⟨name, peer⟩ else c, n)
    | n + 1, .removeContact name => (.ok (), t.1.filter fun c => c.name ≠ name, n)
    | _, _ => (.error .noAnswer, t)

theorem keepsBook_addressBook : KeepsBook addressBook Prod.fst where
  asked q t := by cases q <;> rfl
  shown _ := rfl
  added := by
    rintro name peer ⟨book, _ | n⟩ h
    · cases h
    · rfl
  edited := by
    rintro oldName name peer ⟨book, _ | n⟩ h
    · cases h
    · rfl
  removed := by
    rintro name ⟨book, _ | n⟩ h
    · cases h
    · rfl
  refused := by
    rintro order ⟨book, _ | n⟩ e h
    · rfl
    · cases order <;> first | rfl | cases h

/-- A session with Bob in the book, and so many more orders that the ledger takes. -/
def withBob (orders : Nat) : Session (List Contact × Nat) where
  ledger := ([⟨"Bob", ⟨"12D3KooWBob"⟩⟩], orders)

/-- Minka is added under a padded name, and then Bob is removed, if the ledger takes that too. -/
theorem runs_keep_contact_book_bobRemoved :
    let remove : Move := .removeContact "Bob\n"
    let before (orders : Nat) :=
      (withBob orders).play addressBook [.start, .addContact " Minka" ⟨"12D3KooWMinka"⟩]
    let after (orders : Nat) := (before orders).step addressBook remove
    (¬Fails addressBook (before 2) remove ∧
      remove.Intends (before 2).ledger.1 (after 2).ledger.1 ∧
      (after 2).desk.contacts = (after 2).ledger.1) ∧
    (Fails addressBook (before 1) remove ∧ (after 1).ledger.1 = (before 1).ledger.1) := by
  intro remove before after
  have htidy (orders : Nat) : Contact.Tidy (withBob orders).ledger.1 := by
    refine ⟨?_, List.nodup_singleton _⟩
    intro c hc
    rw [List.mem_singleton.1 hc]
    exact ⟨by decide, by decide, by decide⟩
  have hmoves : ∀ m ∈ [Move.addContact " Minka" ⟨"12D3KooWMinka"⟩], m.isOnContacts = true := by
    decide
  have hdone : ¬Fails addressBook (before 2) remove := by
    show ¬(removeContact addressBook "Bob\n" (before 2)).1 = false
    decide +kernel
  have hfailed : Fails addressBook (before 1) remove := by
    show (removeContact addressBook "Bob\n" (before 1)).1 = false
    decide +kernel
  have hkeeps (orders : Nat) :=
    runs_keep_contact_book keepsBook_addressBook (rfl : (withBob orders).IsLive) (htidy orders)
      hmoves (rfl : remove.isOnContacts = true)
  obtain ⟨_, _, ⟨_, hshown⟩, hintends, _⟩ := hkeeps 2
  obtain ⟨_, _, _, _, hleft⟩ := hkeeps 1
  exact ⟨⟨hdone, hintends hdone, hshown⟩, hfailed, hleft hfailed⟩

end Session

end BillDesk
