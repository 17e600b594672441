import BillDesk.Desk.State
import Mathlib.Data.List.Induction

/-!
# The desk and its history

Whatever happens to the desk is one of ten edits, and each of them writes one part. So a part can be
read off the history of edits: it is the last value that was written there. Three parts take more
than that. The balance is written by none of the edits, it follows the bills and the peer. On the
board stands what was put up and not dismissed since. The open bill depends on the order in which
bills were opened and closed and snapshots came in.

Results:
1. `edited`: what an edit does to each part.
2. `part_editAll`: after a history, a part is the last value written to it, or what it was before.
3. `balance_editAll`: the balance is that of the bills for the peer as soon as one of them is set.
4. `mem_notices_history_iff`: which notices are on the board after a history, and under which ids.
5. `openBill?_history_iff`: which bill is open after a history, and with which snapshot.
6. `history_determines_desk`: every part of the desk, after every history of a new one.
-/

namespace BillDesk

/-! ## The last value written -/

section LastWritten

variable {ε α : Type} {written : ε → Option α}

/-- The last of the values that are written in a history. -/
def lastWritten (written : ε → Option α) (es : List ε) : Option α := (es.filterMap written).getLast?

theorem lastWritten_snoc (es : List ε) (e : ε) :
    lastWritten written (es ++ [e]) = (written e).or (lastWritten written es) := by
  rw [lastWritten, List.filterMap_append]
  cases h : written e <;> simp [lastWritten, h]

theorem lastWritten_append (es fs : List ε) :
    lastWritten written (es ++ fs) = (lastWritten written fs).or (lastWritten written es) := by
  rw [lastWritten, List.filterMap_append, List.getLast?_append]
  rfl

theorem lastWritten_eq_none {es : List ε} (h : ∀ e ∈ es, written e = none) :
    lastWritten written es = none := by
  rw [lastWritten, List.filterMap_eq_nil_iff.2 h]
  rfl

end LastWritten

/-! ## Edits -/

namespace Desk

/-- A change to the desk. -/
inductive Edit where
  | setIdentity (i : Identity)
  | setPeer (p : PeerId)
  | setContacts (cs : List Contact)
  | setBills (bs : List Bill)
  | openBill (name : String)
  | setSnapshot (name : String) (s : Bill.Snapshot)
  | closeBill
  | navigate (p : Page)
  | notify (kind : NoticeKind) (text : String)
  | dismiss (id : Nat)

def edit (d : Desk) : Edit → Desk
  | .setIdentity i => d.setIdentity i
  | .setPeer p => d.setPeer p
  | .setContacts cs => d.setContacts cs
  | .setBills bs => d.setBills bs
  | .openBill name => d.openBill name
  | .setSnapshot name s => (d.setSnapshot name s).2
  | .closeBill => d.closeBill
  | .navigate p => d.navigate p
  | .notify kind text => d.notify kind text
  | .dismiss id => (d.dismiss id).2

/-- The desk after edits, oldest first. -/
def editAll (d : Desk) (es : List Edit) : Desk := es.foldl edit d

theorem editAll_snoc (d : Desk) (es : List Edit) (e : Edit) :
    d.editAll (es ++ [e]) = (d.editAll es).edit e := by
  simp [editAll]

theorem editAll_append (d : Desk) (es fs : List Edit) :
    d.editAll (es ++ fs) = (d.editAll es).editAll fs := List.foldl_append

/-! ## What an edit writes -/

namespace Edit

def identity? : Edit → Option Identity
  | setIdentity i => some i
  | _ => none

def peer? : Edit → Option PeerId
  | setPeer p => some p
  | _ => none

def contacts? : Edit → Option (List Contact)
  | setContacts cs => some cs
  | _ => none

def bills? : Edit → Option (List Bill)
  | setBills bs => some bs
  | _ => none

def page? : Edit → Option Page
  | navigate p => some p
  | _ => none

def opened? : Edit → Option String
  | openBill name => some name
  | _ => none

/-- The snapshot that is given for the bill of a name. -/
def snapshot? (name : String) : Edit → Option Bill.Snapshot
  | setSnapshot name' s => if name' = name then some s else none
  | _ => none

/-- A bill is opened or closed. -/
def turns : Edit → Bool
  | openBill _ | closeBill => true
  | _ => false

/-- The bills or the peer are set. -/
def rebalances : Edit → Bool
  | setPeer _ | setBills _ => true
  | _ => false

/-- A notice is put up. -/
def notifies : Edit → Bool
  | notify .. => true
  | _ => false

/-- The board after the edit. -/
def onBoard (b : NoticeBoard) : Edit → NoticeBoard
  | notify kind text => b.push kind text
  | dismiss id => (b.dismiss id).2
  | _ => b

/-- The open bill after the edit. -/
def onOpen (o? : Option OpenBill) : Edit → Option OpenBill
  | openBill name => some ⟨name, .loading⟩
  | closeBill => none
  | setSnapshot name s => o?.map fun o => if o.name = name then ⟨name, s⟩ else o
  | _ => o?

theorem onOpen_of_not_turns {e : Edit} (h : e.turns = false) (o? : Option OpenBill) :
    e.onOpen o? = o?.map fun o => ⟨o.name, (e.snapshot? o.name).getD o.snapshot⟩ := by
  cases e with
  | openBill | closeBill => cases h
  | setSnapshot name s =>
    cases o? with
    | none => rfl
    | some o =>
      by_cases hname : o.name = name
      · simp [onOpen, snapshot?, hname]
      · simp [onOpen, snapshot?, hname, Ne.symm hname]
  | _ => cases o? <;> rfl

end Edit

/-- The balance that the bills have for the peer, once it is known. -/
def dueBalance (d : Desk) : Balance :=
  match d.peer? with
  | some p => .ofBills d.bills p
  | none => {}

theorem balance_rebalance (d : Desk) : d.rebalance.balance = d.rebalance.dueBalance := by
  simp only [rebalance, dueBalance]
  cases d.peer? <;> rfl

/-- What an edit does to each part of the desk. -/
structure Edited (d : Desk) (e : Edit) (d' : Desk) : Prop where
  identity? : d'.identity? = e.identity?.or d.identity?
  peer? : d'.peer? = e.peer?.or d.peer?
  contacts : d'.contacts = e.contacts?.getD d.contacts
  bills : d'.bills = e.bills?.getD d.bills
  page : d'.page = e.page?.getD d.page
  board : d'.board = e.onBoard d.board
  openBill? : d'.openBill? = e.onOpen d.openBill?
  balance : d'.balance = if e.rebalances then d'.dueBalance else d.balance

/-- A snapshot writes the open bill and nothing else, and that only under its name. -/
theorem setSnapshot_snd (d : Desk) (name : String) (s : Bill.Snapshot) :
    (d.setSnapshot name s).2 =
      { d with openBill? := d.openBill?.map fun o => if o.name = name then ⟨name, s⟩ else o } := by
  rcases d with ⟨_, _, _, _, _, _, _ | o, _⟩
  · rfl
  · by_cases h : o.name = name <;> simp [setSnapshot, h]

theorem edited (d : Desk) (e : Edit) : Edited d e (d.edit e) := by
  cases e with
  | setPeer p => exact ⟨rfl, rfl, rfl, rfl, rfl, rfl, rfl, balance_rebalance _⟩
  | setBills bs => exact ⟨rfl, rfl, rfl, rfl, rfl, rfl, rfl, balance_rebalance _⟩
  | setSnapshot name s =>
    rw [edit, setSnapshot_snd]
    exact ⟨rfl, rfl, rfl, rfl, rfl, rfl, rfl, rfl⟩
  | _ => exact ⟨rfl, rfl, rfl, rfl, rfl, rfl, rfl, rfl⟩

/-! ## Parts that are the last value written -/

section Part

variable {α : Type} {written : Edit → Option α}

/-- A part that every edit either writes or leaves alone is the last value written. -/
theorem part_editAll {part : Desk → Option α}
    (hpart : ∀ d e, part (d.edit e) = (written e).or (part d)) (d : Desk) (es : List Edit) :
    part (d.editAll es) = (lastWritten written es).or (part d) := by
  induction es using List.reverseRecOn with
  | nil => rfl
  | append_singleton es e ih => rw [editAll_snoc, hpart, ih, lastWritten_snoc, Option.or_assoc]

/-- The same for a part that always has a value. -/
theorem value_editAll {value : Desk → α}
    (hvalue : ∀ d e, value (d.edit e) = (written e).getD (value d)) (d : Desk) (es : List Edit) :
    value (d.editAll es) = (lastWritten written es).getD (value d) := by
  induction es using List.reverseRecOn with
  | nil => rfl
  | append_singleton es e ih =>
    rw [editAll_snoc, hvalue, ih, lastWritten_snoc]
    cases written e <;> rfl

end Part

theorem identity?_editAll (d : Desk) (es : List Edit) :
    (d.editAll es).identity? = (lastWritten Edit.identity? es).or d.identity? :=
  part_editAll (fun d e => (edited d e).identity?) d es

theorem peer?_editAll (d : Desk) (es : List Edit) :
    (d.editAll es).peer? = (lastWritten Edit.peer? es).or d.peer? :=
  part_editAll (fun d e => (edited d e).peer?) d es

theorem contacts_editAll (d : Desk) (es : List Edit) :
    (d.editAll es).contacts = (lastWritten Edit.contacts? es).getD d.contacts :=
  value_editAll (fun d e => (edited d e).contacts) d es

theorem bills_editAll (d : Desk) (es : List Edit) :
    (d.editAll es).bills = (lastWritten Edit.bills? es).getD d.bills :=
  value_editAll (fun d e => (edited d e).bills) d es

theorem page_editAll (d : Desk) (es : List Edit) :
    (d.editAll es).page = (lastWritten Edit.page? es).getD d.page :=
  value_editAll (fun d e => (edited d e).page) d es

/-! ## The board -/

/-- The id of a notice tells how many came before it. -/
theorem nextId_history (es : List Edit) :
    (({} : Desk).editAll es).board.nextId = es.countP Edit.notifies := by
  induction es using List.reverseRecOn with
  | nil => rfl
  | append_singleton es e ih =>
    rw [editAll_snoc, (edited _ e).board, List.countP_append, List.countP_singleton, ← ih]
    cases e <;> rfl

/-- A notice stays on the board until it is dismissed. -/
theorem mem_notices_edit {d : Desk} {n : Notice} {e : Edit} (h : n ∈ d.board.notices)
    (he : e ≠ .dismiss n.id) : n ∈ (d.edit e).board.notices := by
  rw [(edited d e).board]
  cases e with
  | notify kind text => exact List.mem_append_left _ h
  | dismiss id =>
    have hid : n.id ≠ id := by
      rintro rfl
      exact he rfl
    exact List.mem_filter.2 ⟨h, bne_iff_ne.2 hid⟩
  | _ => exact h

theorem mem_notices_history_iff {es : List Edit} {n : Notice} :
    n ∈ (({} : Desk).editAll es).board.notices ↔
      ∃ before after, es = before ++ .notify n.kind n.text :: after ∧
        n.id = before.countP Edit.notifies ∧ .dismiss n.id ∉ after := by
  constructor
  · intro h
    induction es using List.reverseRecOn with
    | nil => cases h
    | append_singleton es e ih =>
      -- A notice that was there before was not dismissed now.
      have hkept : n ∈ (({} : Desk).editAll es).board.notices → e ≠ .dismiss n.id →
          ∃ before after, es ++ [e] = before ++ .notify n.kind n.text :: after ∧
            n.id = before.countP Edit.notifies ∧ .dismiss n.id ∉ after := by
        intro hbefore he
        obtain ⟨before, after, rfl, hid, hafter⟩ := ih hbefore
        exact ⟨before, after ++ [e], by simp, hid, by simp [hafter, Ne.symm he]⟩
      rw [editAll_snoc, (edited _ e).board] at h
      cases e with
      | notify kind text =>
        rcases List.mem_append.1 h with hbefore | hnew
        · exact hkept hbefore (by simp)
        · obtain rfl := List.mem_singleton.1 hnew
          exact ⟨es, [], rfl, nextId_history es, by simp⟩
      | dismiss id =>
        obtain ⟨hbefore, hid⟩ := List.mem_filter.1 h
        refine hkept hbefore ?_
        rintro ⟨⟩
        exact bne_iff_ne.1 hid rfl
      | _ => exact hkept h (by simp)
  · rintro ⟨before, after, rfl, hid, hafter⟩
    induction after using List.reverseRecOn with
    | nil =>
      rw [editAll_snoc, (edited _ _).board]
      refine List.mem_append_right _ (List.mem_singleton.2 ?_)
      rw [nextId_history, ← hid]
    | append_singleton after e ih =>
      rw [List.mem_append, List.mem_singleton, not_or] at hafter
      rw [← List.cons_append, ← List.append_assoc, editAll_snoc]
      exact mem_notices_edit (ih hafter.1) (Ne.symm hafter.2)

/-- The notices stand in the order in which they were put up. -/
theorem pairwise_id_history (es : List Edit) :
    (({} : Desk).editAll es).board.notices.Pairwise fun m n => m.id < n.id := by
  induction es using List.reverseRecOn with
  | nil => exact .nil
  | append_singleton es e ih =>
    rw [editAll_snoc, (edited _ e).board]
    cases e with
    | notify kind text =>
      refine List.pairwise_append.2 ⟨ih, List.pairwise_singleton _ _, ?_⟩
      intro m hm n hn
      obtain ⟨before, after, rfl, hid, _⟩ := mem_notices_history_iff.1 hm
      rw [List.mem_singleton.1 hn, nextId_history, hid, List.countP_append, List.countP_cons]
      simp [Edit.notifies]
    | dismiss id => exact ih.filter _
    | _ => exact ih

/-! ## The balance -/

theorem dueBalance_edit {e : Edit} (h : e.rebalances = false) (d : Desk) :
    (d.edit e).dueBalance = d.dueBalance := by
  have hpeer : (d.edit e).peer? = d.peer? := by
    rw [(edited d e).peer?]
    cases e with
    | setPeer p => cases h
    | _ => rfl
  have hbills : (d.edit e).bills = d.bills := by
    rw [(edited d e).bills]
    cases e with
    | setBills bs => cases h
    | _ => rfl
  rw [dueBalance, dueBalance, hpeer, hbills]

/-- From the first edit of bills or peer on, the balance is that of the bills for the peer. -/
theorem balance_editAll (d : Desk) (es : List Edit) :
    (d.editAll es).balance =
      if es.any Edit.rebalances then (d.editAll es).dueBalance else d.balance := by
  induction es using List.reverseRecOn with
  | nil => rfl
  | append_singleton es e ih =>
    rw [editAll_snoc, (edited _ e).balance, List.any_append]
    cases he : e.rebalances with
    | true => simp [he]
    | false => simp [he, ih, dueBalance_edit he]

/-- On a desk that was new, the balance is always that of the bills for the peer. -/
theorem balance_history (es : List Edit) :
    (({} : Desk).editAll es).balance = (({} : Desk).editAll es).dueBalance := by
  rw [balance_editAll]
  cases h : es.any Edit.rebalances with
  | true => rfl
  | false =>
    -- Without a peer, nothing is due.
    have hpeer : (({} : Desk).editAll es).peer? = none := by
      rw [peer?_editAll, lastWritten_eq_none]
      · rfl
      · intro e he
        have hne := List.any_eq_false.1 h e he
        cases e with
        | setPeer p => exact absurd rfl hne
        | _ => rfl
    rw [dueBalance, hpeer]
    rfl

/-! ## The open bill -/

/-- While no bill is opened or closed, the open bill only takes the snapshots of its name. -/
theorem openBill?_editAll_of_not_turns (d : Desk) {es : List Edit}
    (h : ∀ e ∈ es, e.turns = false) :
    (d.editAll es).openBill? = d.openBill?.map fun o =>
      ⟨o.name, (lastWritten (Edit.snapshot? o.name) es).getD o.snapshot⟩ := by
  induction es using List.reverseRecOn with
  | nil =>
    show d.openBill? = _
    cases d.openBill? <;> rfl
  | append_singleton es e ih =>
    rw [editAll_snoc, (edited _ e).openBill?, Edit.onOpen_of_not_turns (h e (by simp)),
      ih fun x hx => h x (by simp [hx]), Option.map_map]
    cases d.openBill? with
    | none => rfl
    | some o =>
      simp only [Option.map_some, Function.comp, lastWritten_snoc]
      cases e.snapshot? o.name <;> rfl

/-- A history ends with a stretch in which no bill is opened or closed. -/
theorem exists_last_turn (es : List Edit) :
    (∀ e ∈ es, e.turns = false) ∨
      ∃ before e after, es = before ++ e :: after ∧ e.turns = true ∧
        ∀ x ∈ after, x.turns = false := by
  induction es using List.reverseRecOn with
  | nil => exact .inl (by simp)
  | append_singleton es e ih =>
    cases he : e.turns with
    | true => exact .inr ⟨es, e, [], rfl, he, by simp⟩
    | false =>
      rcases ih with hnone | ⟨before, turn, after, rfl, hturn, hafter⟩
      · refine .inl fun x hx => ?_
        rcases List.mem_append.1 hx with hx | hx
        · exact hnone x hx
        · rwa [List.mem_singleton.1 hx]
      · refine .inr ⟨before, turn, after ++ [e], by simp, hturn, fun x hx => ?_⟩
        rcases List.mem_append.1 hx with hx | hx
        · exact hafter x hx
        · rwa [List.mem_singleton.1 hx]

/-- The bill that is open was opened last of all and not closed since. Its snapshot is the last one
that was given for its name since then. -/
theorem openBill?_history_iff {es : List Edit} {name : String} {s : Bill.Snapshot} :
    (({} : Desk).editAll es).openBill? = some ⟨name, s⟩ ↔
      ∃ before after, es = before ++ .openBill name :: after ∧
        (∀ e ∈ after, e.turns = false) ∧
        s = (lastWritten (Edit.snapshot? name) after).getD .loading := by
  have hopened : ∀ (before : List Edit) (n : String) (after : List Edit),
      (∀ e ∈ after, e.turns = false) →
      (({} : Desk).editAll (before ++ .openBill n :: after)).openBill? =
        some ⟨n, (lastWritten (Edit.snapshot? n) after).getD .loading⟩ := by
    intro before n after hafter
    rw [editAll_append]
    show ((((({} : Desk).editAll before).edit (.openBill n)).editAll after).openBill?) = _
    rw [openBill?_editAll_of_not_turns _ hafter, (edited _ _).openBill?]
    rfl
  constructor
  · intro h
    rcases exists_last_turn es with hnone | ⟨before, e, after, rfl, hturn, hafter⟩
    · rw [openBill?_editAll_of_not_turns _ hnone] at h
      cases h
    · cases e with
      | openBill n =>
        rw [hopened before n after hafter] at h
        obtain ⟨rfl, rfl⟩ := OpenBill.mk.inj (Option.some.inj h)
        exact ⟨before, after, rfl, hafter, rfl⟩
      | closeBill =>
        rw [editAll_append] at h
        change ((((({} : Desk).editAll before).edit .closeBill).editAll after).openBill?) = _ at h
        rw [openBill?_editAll_of_not_turns _ hafter, (edited _ _).openBill?] at h
        cases h
      | _ => cases hturn
  · rintro ⟨before, after, rfl, hafter, rfl⟩
    exact hopened before name after hafter

/-- Only closing takes the open bill away. -/
theorem isSome_openBill?_editAll {d : Desk} (hd : d.openBill?.isSome = true) {es : List Edit}
    (h : .closeBill ∉ es) : (d.editAll es).openBill?.isSome = true := by
  induction es using List.reverseRecOn with
  | nil => exact hd
  | append_singleton es e ih =>
    rw [List.mem_append, List.mem_singleton, not_or] at h
    rw [editAll_snoc, (edited _ e).openBill?]
    cases e with
    | closeBill => exact absurd rfl h.2
    | openBill => rfl
    | setSnapshot => rw [Edit.onOpen, Option.isSome_map, ih h.1]
    | _ => exact ih h.1

/-- A bill is open exactly when one was opened after the last closing. -/
theorem isSome_openBill?_history_iff {es : List Edit} :
    (({} : Desk).editAll es).openBill?.isSome = true ↔
      ∃ before name after, es = before ++ .openBill name :: after ∧ .closeBill ∉ after := by
  constructor
  · intro h
    obtain ⟨⟨name, s⟩, hopen⟩ := Option.isSome_iff_exists.1 h
    obtain ⟨before, after, hes, hafter, _⟩ := openBill?_history_iff.1 hopen
    refine ⟨before, name, after, hes, fun hclose => ?_⟩
    cases hafter _ hclose
  · rintro ⟨before, name, after, rfl, hafter⟩
    rw [editAll_append]
    let opened := (({} : Desk).editAll before).edit (.openBill name)
    have hopen : opened.openBill?.isSome = true := rfl
    exact isSome_openBill?_editAll hopen hafter

/-- No bill was opened after the last one. -/
theorem lastWritten_opened? {before after : List Edit} {name : String}
    (h : ∀ e ∈ after, e.turns = false) :
    lastWritten Edit.opened? (before ++ .openBill name :: after) = some name := by
  have hnone : after.filterMap Edit.opened? = [] := by
    rw [List.filterMap_eq_nil_iff]
    intro e he
    cases e with
    | openBill => cases h _ he
    | _ => rfl
  simp [lastWritten, Edit.opened?, hnone]

/-- A snapshot is taken exactly when a bill of its name is open. Then it is all that changes, and
otherwise nothing does. -/
theorem setSnapshot_spec (d : Desk) (name : String) (s : Bill.Snapshot) :
    ((d.setSnapshot name s).1 = true ↔ ∃ s', d.openBill? = some ⟨name, s'⟩) ∧
      ((d.setSnapshot name s).1 = true →
        (d.setSnapshot name s).2 = { d with openBill? := some ⟨name, s⟩ }) ∧
      ((d.setSnapshot name s).1 = false → (d.setSnapshot name s).2 = d) := by
  refine ⟨?_, ?_, setSnapshot_of_not_open⟩
  · rw [setSnapshot_fst_iff, Option.map_eq_some_iff]
    constructor
    · rintro ⟨⟨n, s'⟩, hopen, rfl⟩
      exact ⟨s', hopen⟩
    · rintro ⟨s', hopen⟩
      exact ⟨_, hopen, rfl⟩
  · intro htaken
    obtain ⟨o, hopen, rfl⟩ := Option.map_eq_some_iff.1 (setSnapshot_fst_iff.1 htaken)
    rw [setSnapshot_snd, hopen]
    simp

/-- What the desk holds after every history of a new one. The balance is that of the bills for the
peer. A bill is open when one was opened after the last closing. It is the one that was opened last,
with the last snapshot given for its name since then. A snapshot is taken exactly when its bill is
open. Every other part is the last value written to it, and on the board stand the notices that were
put up and not dismissed since, in their order. -/
theorem history_determines_desk (es : List Edit) :
    let d := ({} : Desk).editAll es
    (d.balance = match d.peer? with
      | some p => Balance.ofBills d.bills p
      | none => {}) ∧
    (d.openBill?.isSome = true ↔
      ∃ before name after, es = before ++ .openBill name :: after ∧ .closeBill ∉ after) ∧
    (∀ o, d.openBill? = some o →
      lastWritten Edit.opened? es = some o.name ∧
      ∃ before after, es = before ++ .openBill o.name :: after ∧
        (∀ e ∈ after, e.turns = false) ∧
        o.snapshot = (lastWritten (Edit.snapshot? o.name) after).getD .loading) ∧
    (∀ name s,
      ((d.setSnapshot name s).1 = true ↔ ∃ s', d.openBill? = some ⟨name, s'⟩) ∧
      ((d.setSnapshot name s).1 = true →
        (d.setSnapshot name s).2 = { d with openBill? := some ⟨name, s⟩ }) ∧
      ((d.setSnapshot name s).1 = false → (d.setSnapshot name s).2 = d)) ∧
    d.identity? = lastWritten Edit.identity? es ∧
    d.peer? = lastWritten Edit.peer? es ∧
    d.contacts = (lastWritten Edit.contacts? es).getD [] ∧
    d.bills = (lastWritten Edit.bills? es).getD [] ∧
    d.page = (lastWritten Edit.page? es).getD .identity ∧
    (∀ n, n ∈ d.board.notices ↔
      ∃ before after, es = before ++ .notify n.kind n.text :: after ∧
        n.id = before.countP Edit.notifies ∧ .dismiss n.id ∉ after) ∧
    d.board.notices.Pairwise (fun m n => m.id < n.id) := by
  intro d
  refine ⟨balance_history es, isSome_openBill?_history_iff, ?_, setSnapshot_spec d, ?_, ?_,
    contacts_editAll _ es, bills_editAll _ es, page_editAll _ es,
    fun _ => mem_notices_history_iff, pairwise_id_history es⟩
  · rintro ⟨name, s⟩ hopen
    obtain ⟨before, after, rfl, hafter, rfl⟩ := openBill?_history_iff.1 hopen
    exact ⟨lastWritten_opened? hafter, before, after, rfl, hafter, rfl⟩
  · exact (identity?_editAll _ es).trans (Option.or_none)
  · exact (peer?_editAll _ es).trans (Option.or_none)

/-- Another bill is opened before the snapshot of the first one comes in. -/
def lateSnapshot : List Edit :=
  [.openBill "bill-1", .openBill "bill-2", .setSnapshot "bill-1" (.unavailable "late")]

theorem history_determines_desk_lateSnapshot :
    let d := ({} : Desk).editAll lateSnapshot
    d.openBill? = some ⟨"bill-2", .loading⟩ ∧
      lastWritten Edit.opened? lateSnapshot = some "bill-2" ∧
      (d.setSnapshot "bill-1" (.unavailable "later")).2 = d := by
  obtain ⟨_, _, hopened, hsnapshot, _⟩ := history_determines_desk lateSnapshot
  have hopen : (({} : Desk).editAll lateSnapshot).openBill? = some ⟨"bill-2", .loading⟩ := by decide
  have hrefused : ((({} : Desk).editAll lateSnapshot).setSnapshot "bill-1"
      (.unavailable "later")).1 = false := by decide
  exact ⟨hopen, (hopened _ hopen).1, (hsnapshot _ _).2.2 hrefused⟩

end Desk

end BillDesk
