import BillDesk.Bill.Eligibility
import Mathlib.Data.List.Basic

/-!
# The rule table

The table of rules as it is published: a row names an action, the role that the local peer has to
hold, the flags that have to be set and the flags that have to be clear. On top of its row, every
action needs a bill that is neither paid nor in payment.

Results:
1. `mem_eligibleActions_iff_row`: an action is eligible exactly when a row of the table permits it.
2. `pairwise_position_eligibleActions`: eligible actions are listed in display order.
3. `disjoint_eligibleActions`: no action is eligible for two peers at once.
4. `eligibility_follows_table`: what a view shows, for every snapshot and every local peer.
-/

namespace BillDesk.Bill

/-! ## The table -/

/-- A row of the table. -/
structure Rule where
  action : Action
  role : Role
  /-- The flags that have to be set. -/
  needs : List Flag
  /-- The flags that have to be clear. -/
  bars : List Flag

namespace Rule

def table : List Rule := [
  ⟨.accept, .drawee, [], [.accepted, .waitedForPayment]⟩,
  ⟨.endorse, .payee, [], [.waitedForPayment]⟩,
  ⟨.sell, .payee, [], [.waitedForPayment]⟩,
  ⟨.buy, .buyer, [.waitedForPayment], []⟩,
  ⟨.requestToAccept, .payee, [], [.accepted, .requestedToAccept, .waitedForPayment]⟩,
  ⟨.requestToPay, .payee, [], [.requestedToPay, .waitedForPayment]⟩,
  ⟨.pay, .drawee, [], [.waitedForPayment]⟩]

/-- The row permits its action to the peer: the bill is open, the party in the role is there and is
the peer, which is not the empty id, and the flags are as the row asks. -/
structure Permits (row : Rule) (b : Bill) (peer : PeerId) : Prop where
  not_payed : b.status.payed = false
  not_pending : b.status.pending = false
  holds_role : ∃ p, b.namedParty row.role = some p ∧ p.peerId = peer
  not_empty : peer ≠ ⟨""⟩
  needed : ∀ f ∈ row.needs, b.status.has f = true
  barred : ∀ f ∈ row.bars, b.status.has f = false

theorem exists_row (a : Action) : ∃ row ∈ table, row.action = a := by
  cases a <;> simp [table]

end Rule

/-! ## The rules of an action, as rows -/

namespace RuleTableLemmas

theorem isEmpty_eq_false_iff {p : PeerId} : p.isEmpty = false ↔ p ≠ ⟨""⟩ := by
  cases p
  simp [PeerId.isEmpty]

theorem isOpen_iff {s : Status} : s.isOpen = true ↔ s.payed = false ∧ s.pending = false := by
  simp [Status.isOpen]

theorem role_of_mem_table {row : Rule} (h : row ∈ Rule.table) : row.role = row.action.role := by
  simp only [Rule.table, List.mem_cons, List.not_mem_nil, or_false] at h
  rcases h with rfl | rfl | rfl | rfl | rfl | rfl | rfl <;> rfl

theorem allowedBy_of_mem_table {row : Rule} (h : row ∈ Rule.table) (s : Status) :
    row.action.allowedBy s = true ↔
      (∀ f ∈ row.needs, s.has f = true) ∧ ∀ f ∈ row.bars, s.has f = false := by
  simp only [Rule.table, List.mem_cons, List.not_mem_nil, or_false] at h
  rcases h with rfl | rfl | rfl | rfl | rfl | rfl | rfl <;>
    simp [Action.allowedBy, Status.has, and_assoc]

end RuleTableLemmas

open RuleTableLemmas

/-! ## Eligible actions of a loaded bill -/

/-- An action is eligible exactly when a row of the table permits it. -/
theorem mem_eligibleActions_iff_row {b : Bill} {peer : PeerId} {a : Action} :
    a ∈ b.eligibleActions peer ↔
      ∃ row ∈ Rule.table, row.action = a ∧ row.Permits b peer := by
  rw [mem_eligibleActions, isOpen_iff, hasRole_iff]
  constructor
  · -- Each action has a row, and the row says of role and flags what the rule says.
    rintro ⟨⟨hpayed, hpending⟩, ⟨p, hp, hpeer, hne⟩, hflags⟩
    obtain ⟨row, hrow, rfl⟩ := Rule.exists_row a
    obtain ⟨hneeds, hbars⟩ := (allowedBy_of_mem_table hrow b.status).1 hflags
    rw [← role_of_mem_table hrow] at hp
    exact ⟨row, hrow, rfl,
      ⟨hpayed, hpending, ⟨p, hp, hpeer⟩, isEmpty_eq_false_iff.1 hne, hneeds, hbars⟩⟩
  · rintro ⟨row, hrow, rfl, h⟩
    obtain ⟨p, hp, hpeer⟩ := h.holds_role
    rw [role_of_mem_table hrow] at hp
    exact ⟨⟨h.not_payed, h.not_pending⟩, ⟨p, hp, hpeer, isEmpty_eq_false_iff.2 h.not_empty⟩,
      (allowedBy_of_mem_table hrow b.status).2 ⟨h.needed, h.barred⟩⟩

/-- Eligible actions are listed in display order, so none is listed twice. -/
theorem pairwise_position_eligibleActions (b : Bill) (peer : PeerId) :
    (b.eligibleActions peer).Pairwise fun x y => x.position < y.position := by
  unfold eligibleActions
  split
  · exact List.Pairwise.filter _ (by decide)
  · exact List.Pairwise.nil

/-- The party in the role of an action has one peer id, so no action is eligible for two peers. -/
theorem disjoint_eligibleActions (b : Bill) {p q : PeerId} (h : p ≠ q) :
    (b.eligibleActions p).Disjoint (b.eligibleActions q) := by
  intro a hp hq
  obtain ⟨x, hx, hxp, _⟩ := hasRole_iff.1 (mem_eligibleActions.1 hp).2.1
  obtain ⟨y, hy, hyq, _⟩ := hasRole_iff.1 (mem_eligibleActions.1 hq).2.1
  have hxy : x = y := Option.some.inj (hx.symm.trans hy)
  exact h (hxp.symm.trans (hxy ▸ hyq))

/-- A peer that holds no role has no eligible action. -/
theorem eligibleActions_eq_nil {b : Bill} {peer : PeerId} (h : ∀ r, b.hasRole r peer = false) :
    b.eligibleActions peer = [] := by
  rw [List.eq_nil_iff_forall_not_mem]
  intro a ha
  have := (mem_eligibleActions.1 ha).2.1
  rw [h] at this
  cases this

theorem hasRole_empty (b : Bill) (r : Role) : b.hasRole r ⟨""⟩ = false := by
  rw [Bool.eq_false_iff, ne_eq, hasRole_iff]
  rintro ⟨_, _, _, h⟩
  cases h

theorem hasRole_of_no_party {b : Bill} {peer : PeerId}
    (h : ∀ r p, b.namedParty r = some p → p.peerId ≠ peer) (r : Role) :
    b.hasRole r peer = false := by
  rw [Bool.eq_false_iff, ne_eq, hasRole_iff]
  rintro ⟨p, hp, hpeer, _⟩
  exact h r p hp hpeer

/-! ## What a view shows -/

theorem eligibility_eq_notYetLoaded_iff {s : Snapshot} {peer? : Option PeerId} :
    s.eligibility peer? = .notYetLoaded ↔ peer? = none ∨ s = .loading := by
  cases peer? <;> cases s <;> simp [Snapshot.eligibility]

/-- Nothing is eligible but on a loaded bill with a known peer. -/
theorem mem_toList_eligibility_iff {s : Snapshot} {peer? : Option PeerId} {a : Action} :
    a ∈ (s.eligibility peer?).toList ↔
      ∃ b peer, s = .loaded b ∧ peer? = some peer ∧ a ∈ b.eligibleActions peer := by
  cases peer? <;> cases s <;> simp [Snapshot.eligibility, Eligibility.toList]

theorem allows_eq_false {s : Snapshot} {peer : PeerId}
    (h : ∀ b, s = .loaded b → ∀ r, b.hasRole r peer = false) (a : Action) :
    (s.eligibility (some peer)).allows a = false := by
  rw [Eligibility.allows, List.contains_eq_mem, decide_eq_false_iff_not,
    mem_toList_eligibility_iff]
  rintro ⟨b, peer', hb, hpeer, ha⟩
  cases hpeer
  rw [eligibleActions_eq_nil (h b hb)] at ha
  cases ha

/-- What a view shows, for every snapshot and every local peer. Nothing is decided while the peer
or the bill is not known, nothing is eligible on a bill that is unavailable, and on a loaded bill
the table decides. So two peers never share an action, and neither the empty id nor a peer that is
no party is allowed anything. -/
theorem eligibility_follows_table :
    (∀ (s : Snapshot) peer?, s.eligibility peer? = .notYetLoaded ↔
      peer? = none ∨ s = .loading) ∧
    (∀ reason peer, (Snapshot.unavailable reason).eligibility (some peer) = .actions []) ∧
    (∀ reason peer?, ((Snapshot.unavailable reason).eligibility peer?).toList = []) ∧
    (∀ b peer, ∃ as, (Snapshot.loaded b).eligibility (some peer) = .actions as ∧
      as.Pairwise (fun x y => x.position < y.position) ∧ as.Nodup ∧
      ∀ a, a ∈ as ↔ ∃ row ∈ Rule.table, row.action = a ∧ row.Permits b peer) ∧
    (∀ (s : Snapshot) p q, p ≠ q →
      (s.eligibility (some p)).toList.Disjoint (s.eligibility (some q)).toList) ∧
    (∀ (s : Snapshot) a, (s.eligibility (some ⟨""⟩)).allows a = false) ∧
    ∀ b peer, (∀ r p, b.namedParty r = some p → p.peerId ≠ peer) →
      ∀ a, ((Snapshot.loaded b).eligibility (some peer)).allows a = false := by
  refine ⟨fun _ _ => eligibility_eq_notYetLoaded_iff, fun _ _ => rfl, ?_, ?_, ?_, ?_, ?_⟩
  · intro reason peer?
    cases peer? <;> rfl
  · intro b peer
    have hsorted := pairwise_position_eligibleActions b peer
    refine ⟨b.eligibleActions peer, rfl, hsorted, ?_, fun a => mem_eligibleActions_iff_row⟩
    apply hsorted.imp
    intro x y hlt heq
    subst heq
    exact Nat.lt_irrefl _ hlt
  · intro s p q hpq a ha ha'
    obtain ⟨b, _, rfl, hp, ha⟩ := mem_toList_eligibility_iff.1 ha
    obtain ⟨b', _, hb, hq, ha'⟩ := mem_toList_eligibility_iff.1 ha'
    cases hp
    cases hq
    cases hb
    exact disjoint_eligibleActions b hpq ha ha'
  · intro s
    exact allows_eq_false fun b _ r => hasRole_empty b r
  · intro b peer hparty
    apply allows_eq_false
    intro b' hb' r
    cases hb'
    exact hasRole_of_no_party hparty r

end BillDesk.Bill
