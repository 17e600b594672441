import BillDesk.Desk.Refresh
import BillDesk.Proofs.Desk.History
import Mathlib.Data.List.Nodup

/-!
# Arrivals in any order

Each arrival is one edit of the desk: it writes the part that was fetched, or it puts up a notice.
In what an occasion makes out of date no resource is named twice, so every part is written at most
once, and it does not matter in which order the answers arrive. Only the notices stand on the board
in the order of their arrival.

Results:
1. `recordAll_eq_editAll`: the desk after arrivals is the desk after their edits.
2. `lastWritten_eq_of_perm`: of a part that is fetched once, the last value written is the same in
   every order.
3. `agrees_recordAll`: two orders of arrival leave desks that show the same.
-/

namespace BillDesk

/-! ## The edit of an arrival -/

/-- A failed answer is a notice. -/
def Arrival.failure (what : String) (e : LedgerError) : Desk.Edit :=
  .notify .error (what ++ ": " ++ (ServiceError.ledger e).message)

def Arrival.edit : Arrival → Desk.Edit
  | ⟨.identity, .ok i⟩ => .setIdentity i
  | ⟨.identity, .error e⟩ => failure "Could not load identity" e
  | ⟨.peerId, .ok p⟩ => .setPeer p
  | ⟨.peerId, .error e⟩ => failure "Could not load peer id" e
  | ⟨.contacts, .ok cs⟩ => .setContacts cs
  | ⟨.contacts, .error e⟩ => failure "Could not load contacts" e
  | ⟨.bills, .ok bs⟩ => .setBills (Portfolio.newestFirst bs)
  | ⟨.bills, .error e⟩ => failure "Could not load bills" e
  | ⟨.openBill name, answer⟩ => .setSnapshot name (.ofAnswer answer)

theorem record_eq_edit (d : Desk) (a : Arrival) : a.resource.record d a.answer = d.edit a.edit := by
  rcases a with ⟨r, answer⟩
  cases r with
  | identity | peerId | contacts | bills => cases answer <;> rfl
  | openBill name => rfl

namespace Desk

theorem recordAll_append (d : Desk) (as bs : List Arrival) :
    d.recordAll (as ++ bs) = (d.recordAll as).recordAll bs := List.foldl_append

theorem recordAll_eq_editAll (d : Desk) (as : List Arrival) :
    d.recordAll as = d.editAll (as.map Arrival.edit) := by
  simp only [recordAll, editAll, List.foldl_map, record_eq_edit]

/-- No arrival opens or closes a bill. -/
theorem turns_edit (a : Arrival) : a.edit.turns = false := by
  rcases a with ⟨r, answer⟩
  cases r with
  | identity | peerId | contacts | bills => cases answer <;> rfl
  | openBill name => rfl

/-- No arrival moves to another page. -/
theorem page?_edit (a : Arrival) : a.edit.page? = none := by
  rcases a with ⟨r, answer⟩
  cases r with
  | identity | peerId | contacts | bills => cases answer <;> rfl
  | openBill name => rfl

/-! ## Parts that are fetched once -/

/-- The resource that is written by an edit. -/
def Edit.source? : Edit → Option Resource
  | setIdentity _ => some .identity
  | setPeer _ => some .peerId
  | setContacts _ => some .contacts
  | setBills _ => some .bills
  | setSnapshot name _ => some (.openBill name)
  | _ => none

theorem resource_eq_of_source? {a : Arrival} {r : Resource} (h : a.edit.source? = some r) :
    a.resource = r := by
  rcases a with ⟨r', answer⟩
  cases r' with
  | identity | peerId | contacts | bills =>
    cases answer with
    | ok => exact Option.some.inj h
    | error => cases h
  | openBill name => exact Option.some.inj h

/-- The part is written only where the resource is. -/
def FetchedBy {α : Type} (written : Edit → Option α) (r : Resource) : Prop :=
  ∀ e : Edit, written e ≠ none → e.source? = some r

theorem fetchedBy_identity? : FetchedBy Edit.identity? .identity := by
  intro e h
  cases e with
  | setIdentity i => rfl
  | _ => exact absurd rfl h

theorem fetchedBy_peer? : FetchedBy Edit.peer? .peerId := by
  intro e h
  cases e with
  | setPeer p => rfl
  | _ => exact absurd rfl h

theorem fetchedBy_contacts? : FetchedBy Edit.contacts? .contacts := by
  intro e h
  cases e with
  | setContacts cs => rfl
  | _ => exact absurd rfl h

theorem fetchedBy_bills? : FetchedBy Edit.bills? .bills := by
  intro e h
  cases e with
  | setBills bs => rfl
  | _ => exact absurd rfl h

theorem fetchedBy_snapshot? (name : String) :
    FetchedBy (Edit.snapshot? name) (.openBill name) := by
  intro e h
  cases e with
  | setSnapshot name' s =>
    by_cases hname : name' = name
    · rw [← hname]
      rfl
    · exact absurd (if_neg hname) h
  | _ => exact absurd rfl h

section Once

variable {α : Type} {written : Edit → Option α} {r : Resource} {as bs : List Arrival}

/-- Each resource arrives once, so a part that is fetched by one of them is written once. -/
theorem length_written_le_one (hw : FetchedBy written r)
    (hnodup : (as.map Arrival.resource).Nodup) :
    ((as.map Arrival.edit).filterMap written).length ≤ 1 := by
  rw [List.filterMap_map, List.length_filterMap_eq_countP]
  calc
    as.countP (fun a => (written a.edit).isSome)
      ≤ as.countP (fun a => a.resource == r) := by
        refine List.countP_mono_left fun a _ ha => ?_
        exact beq_iff_eq.2 (resource_eq_of_source? (hw a.edit (Option.isSome_iff_ne_none.1 ha)))
    _ = (as.map Arrival.resource).count r := by
        rw [List.count, List.countP_map]
        rfl
    _ ≤ 1 := List.nodup_iff_count_le_one.1 hnodup r

theorem written_eq_toList (hw : FetchedBy written r) (hnodup : (as.map Arrival.resource).Nodup) :
    (as.map Arrival.edit).filterMap written =
      (lastWritten written (as.map Arrival.edit)).toList := by
  have hlength := length_written_le_one hw hnodup
  rw [lastWritten]
  rcases hvalues : (as.map Arrival.edit).filterMap written with _ | ⟨v, _ | ⟨v', vs⟩⟩
  · rfl
  · rfl
  · rw [hvalues] at hlength
    simp at hlength

/-- Of a part that is written once, the last value is the same in every order. -/
theorem lastWritten_eq_of_perm (hw : FetchedBy written r)
    (hnodup : (as.map Arrival.resource).Nodup) (h : bs.Perm as) :
    lastWritten written (bs.map Arrival.edit) = lastWritten written (as.map Arrival.edit) := by
  have hnodup' : (bs.map Arrival.resource).Nodup := (h.map _).nodup_iff.2 hnodup
  have hperm : ((bs.map Arrival.edit).filterMap written).Perm
      ((as.map Arrival.edit).filterMap written) := (h.map _).filterMap _
  rw [written_eq_toList hw hnodup, written_eq_toList hw hnodup'] at hperm
  ext v
  simpa using hperm.mem_iff (a := v)

/-- What arrives for a part that is fetched once is what is written there. -/
theorem lastWritten_of_mem (hw : FetchedBy written r)
    (hnodup : (as.map Arrival.resource).Nodup) {a : Arrival} (ha : a ∈ as) {v : α}
    (hv : written a.edit = some v) : lastWritten written (as.map Arrival.edit) = some v := by
  have hmem : v ∈ (as.map Arrival.edit).filterMap written :=
    List.mem_filterMap.2 ⟨a.edit, List.mem_map_of_mem ha, hv⟩
  rw [written_eq_toList hw hnodup] at hmem
  exact Option.mem_toList.1 hmem

end Once

/-! ## Notices -/

/-- What is put up on the board. -/
def Edit.notice? : Edit → Option (NoticeKind × String)
  | notify kind text => some (kind, text)
  | _ => none

/-- An arrival puts up its notice, if it has one, and dismisses none. -/
theorem entries_edit (d : Desk) (a : Arrival) :
    (d.edit a.edit).board.entries = d.board.entries ++ a.edit.notice?.toList := by
  rw [(edited d a.edit).board]
  rcases a with ⟨r, answer⟩
  cases r with
  | identity | peerId | contacts | bills =>
    cases answer with
    | ok => exact (List.append_nil _).symm
    | error e => exact NoticeBoard.entries_push _ _ _
  | openBill name => exact (List.append_nil _).symm

theorem entries_recordAll (d : Desk) (as : List Arrival) :
    (d.recordAll as).board.entries =
      d.board.entries ++ (as.map Arrival.edit).filterMap Edit.notice? := by
  induction as generalizing d with
  | nil => exact (List.append_nil _).symm
  | cons a as ih =>
    show ((a.resource.record d a.answer).recordAll as).board.entries = _
    rw [ih, record_eq_edit, entries_edit, List.append_assoc, List.map_cons, List.filterMap_cons]
    cases a.edit.notice? <;> rfl

/-! ## Two orders -/

/-- Two desks that show the same, where the notices may stand in another order. -/
structure Agrees (d e : Desk) : Prop where
  identity? : d.identity? = e.identity?
  peer? : d.peer? = e.peer?
  contacts : d.contacts = e.contacts
  bills : d.bills = e.bills
  balance : d.balance = e.balance
  openBill? : d.openBill? = e.openBill?
  page : d.page = e.page
  notices : d.board.entries.Perm e.board.entries

/-- Two orders in which the same answers arrive leave desks that show the same. -/
theorem agrees_recordAll (d : Desk) {as bs : List Arrival}
    (hnodup : (as.map Arrival.resource).Nodup) (h : bs.Perm as) :
    (d.recordAll bs).Agrees (d.recordAll as) := by
  have hnotices : (d.recordAll bs).board.entries.Perm (d.recordAll as).board.entries := by
    rw [entries_recordAll, entries_recordAll]
    exact ((h.map _).filterMap _).append_left _
  rw [recordAll_eq_editAll d as, recordAll_eq_editAll d bs] at hnotices ⊢
  have hpeer : (d.editAll (bs.map Arrival.edit)).peer? =
      (d.editAll (as.map Arrival.edit)).peer? := by
    rw [peer?_editAll, peer?_editAll, lastWritten_eq_of_perm fetchedBy_peer? hnodup h]
  have hbills : (d.editAll (bs.map Arrival.edit)).bills =
      (d.editAll (as.map Arrival.edit)).bills := by
    rw [bills_editAll, bills_editAll, lastWritten_eq_of_perm fetchedBy_bills? hnodup h]
  refine ⟨?_, hpeer, ?_, hbills, ?_, ?_, ?_, hnotices⟩
  · rw [identity?_editAll, identity?_editAll, lastWritten_eq_of_perm fetchedBy_identity? hnodup h]
  · rw [contacts_editAll, contacts_editAll, lastWritten_eq_of_perm fetchedBy_contacts? hnodup h]
  · -- The balance follows the bills and the peer in both orders, or stays what it was.
    rw [balance_editAll, balance_editAll, (h.map Arrival.edit).any_eq, dueBalance, dueBalance,
      hpeer, hbills]
  · rw [openBill?_editAll_of_not_turns d (by simp [turns_edit]),
      openBill?_editAll_of_not_turns d (by simp [turns_edit])]
    cases d.openBill? with
    | none => rfl
    | some o =>
      rw [Option.map_some, Option.map_some,
        lastWritten_eq_of_perm (fetchedBy_snapshot? o.name) hnodup h]
  · rw [page_editAll, page_editAll, lastWritten_eq_none (by simp [page?_edit]),
      lastWritten_eq_none (by simp [page?_edit])]

end Desk

/-! ## Occasions -/

/-- No occasion makes anything out of date twice. -/
theorem Occasion.nodup_resources (o : Occasion) : o.resources.Nodup := by
  cases o <;> simp [Occasion.resources]

end BillDesk
