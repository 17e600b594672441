import BillDesk.Proofs.Office.Basic
import BillDesk.Proofs.Session.Run

/-!
# Fetching together

What an occasion makes out of date is asked for at once. The answers arrive in any order, and are
written in any order. The outcomes are fixed beforehand, one for each resource, and an order is a
permutation of the resources. All orders leave desks that show the same, also the order in which a
session asks for one resource after the other.

Results:
1. `Settles.desk_eq`: the desk when all answers have been written for a view that stands.
2. `settles_promptly`: the answers may come in any order.
3. `balance_recordAll` and `startPage_recordAll`: the balance and the start page by the outcomes.
4. `refresh_independent_of_order`: the order shows in nothing but the order of the notices.
-/

namespace BillDesk

/-- An answer to the query for every resource. -/
abbrev Outcomes := (r : Resource) → Except LedgerError r.query.Answer

namespace Outcomes

def arrivals (f : Outcomes) (order : List Resource) : List Arrival := order.map fun r => ⟨r, f r⟩

theorem map_resource_arrivals (f : Outcomes) (order : List Resource) :
    (f.arrivals order).map Arrival.resource = order := by
  simp [arrivals, Function.comp_def]

theorem nodup_arrivals (f : Outcomes) {order : List Resource} (h : order.Nodup) :
    ((f.arrivals order).map Arrival.resource).Nodup := by
  rwa [map_resource_arrivals]

/-- Answers that are all outcomes are the outcomes of their resources. -/
theorem arrivals_map_resource {f : Outcomes} {as : List Arrival} {rs : List Resource}
    (h : as ⊆ f.arrivals rs) : f.arrivals (as.map Arrival.resource) = as := by
  rw [arrivals, List.map_map]
  refine (List.map_congr_left fun a ha => ?_).trans (List.map_id as)
  obtain ⟨r, -, rfl⟩ := List.mem_map.1 (h ha)
  rfl

theorem mem_arrivals {f : Outcomes} {order : List Resource} {r : Resource} (h : r ∈ order) :
    ⟨r, f r⟩ ∈ f.arrivals order := List.mem_map.2 ⟨r, h, rfl⟩

end Outcomes

/-- What a ledger answers to queries asked one after the other is such an assignment. -/
theorem Ledger.exists_outcomes {σ : Type} (L : Ledger σ) {rs : List Resource} (h : rs.Nodup)
    (t : σ) : ∃ f : Outcomes, (L.arrivals rs t).1 = f.arrivals rs := by
  induction rs generalizing t with
  | nil => exact ⟨fun _ => .error .noAnswer, rfl⟩
  | cons r rs ih =>
    obtain ⟨hr, hrs⟩ := List.nodup_cons.1 h
    obtain ⟨f, hf⟩ := ih hrs (L.answer r.query t).2
    refine ⟨Function.update f r (L.answer r.query t).1, ?_⟩
    have hrest : Outcomes.arrivals (Function.update f r (L.answer r.query t).1) rs =
        f.arrivals rs := by
      refine List.map_congr_left fun r' hr' => ?_
      have hne : r' ≠ r := fun heq => hr (heq ▸ hr')
      rw [Function.update_of_ne hne]
    show ⟨r, (L.answer r.query t).1⟩ :: (L.arrivals rs (L.answer r.query t).2).1 =
      ⟨r, Function.update f r (L.answer r.query t).1 r⟩ :: Outcomes.arrivals _ rs
    rw [hf, hrest, Function.update_self]

namespace Desk

variable {f : Outcomes} {order : List Resource}

/-- The balance is that of the fetched bills for the fetched peer, whichever arrived first. -/
theorem balance_recordAll (d : Desk) (hnodup : order.Nodup) {bills : List Bill} {peer : PeerId}
    (hbillsMem : .bills ∈ order) (hbills : f .bills = .ok bills)
    (hpeerMem : .peerId ∈ order) (hpeer : f .peerId = .ok peer) :
    (d.recordAll (f.arrivals order)).balance =
      Balance.ofBills (Portfolio.newestFirst bills) peer := by
  have hbillsArrived := Outcomes.mem_arrivals (f := f) hbillsMem
  have hpeerArrived := Outcomes.mem_arrivals (f := f) hpeerMem
  rw [hbills] at hbillsArrived
  rw [hpeer] at hpeerArrived
  have hlastBills := lastWritten_of_mem fetchedBy_bills? (f.nodup_arrivals hnodup)
    hbillsArrived rfl
  have hlastPeer := lastWritten_of_mem fetchedBy_peer? (f.nodup_arrivals hnodup)
    hpeerArrived rfl
  have hset : ((f.arrivals order).map Arrival.edit).any Edit.rebalances = true :=
    List.any_eq_true.2 ⟨_, List.mem_map_of_mem hbillsArrived, rfl⟩
  rw [recordAll_eq_editAll, balance_editAll, if_pos hset, dueBalance, peer?_editAll, bills_editAll,
    hlastBills, hlastPeer]
  rfl

/-- The identity that is kept is the fetched one, or the one that was kept if none was fetched. -/
theorem identity?_recordAll (d : Desk) (hnodup : order.Nodup) (hmem : .identity ∈ order) :
    (d.recordAll (f.arrivals order)).identity? = (f .identity).toOption.or d.identity? := by
  rw [recordAll_eq_editAll, identity?_editAll]
  rcases hidentity : f .identity with e | i
  · rw [lastWritten_eq_none]
    · rfl
    · intro e' he'
      obtain ⟨a, ha, rfl⟩ := List.mem_map.1 he'
      obtain ⟨r, _, rfl⟩ := List.mem_map.1 ha
      cases r with
      | identity =>
        rw [hidentity]
        rfl
      | peerId => cases f .peerId <;> rfl
      | contacts => cases f .contacts <;> rfl
      | bills => cases f .bills <;> rfl
      | openBill name => rfl
  · have harrived := Outcomes.mem_arrivals (f := f) hmem
    rw [hidentity] at harrived
    rw [lastWritten_of_mem fetchedBy_identity? (f.nodup_arrivals hnodup) harrived rfl]
    rfl

theorem startPage_recordAll (d : Desk) (hnodup : order.Nodup) (hmem : .identity ∈ order) :
    (d.recordAll (f.arrivals order)).startPage =
      if ((f .identity).toOption.or d.identity?).any Identity.isCreated then .home
      else .identity := by
  rw [startPage, identityCreated, identity?_recordAll d hnodup hmem]

end Desk

namespace Office

/-- The office after everything that an occasion makes out of date has been asked for under the
token, and after the events that bring the answers. -/
def refreshed (s : Office) (token : Nat) (o : Occasion) (es : List Event) : Office :=
  s.play (o.resources.map (.ask token) ++ es)

/-- The events bring the answers of a refresh: each arrives once, they are written, and nothing else
happens. They may arrive in any order, and be written in any other one. -/
structure Settles (s : Office) (token : Nat) (o : Occasion) (f : Outcomes) (es : List Event) :
    Prop where
  delivers : ∀ e ∈ es, e.delivers token = true
  arrivals : (es.filterMap Event.arrival?).Perm (f.arrivals o.resources)
  handed : (s.refreshed token o es).handed.Perm s.handed

section Settles

variable {s : Office} {token : Nat} {o : Occasion} {f : Outcomes}

/-- Everything that an occasion makes out of date is under way. -/
def asked (s : Office) (token : Nat) (o : Occasion) : Office :=
  { s with underWay := s.underWay ++ o.resources.map fun r => ⟨r, token⟩ }

theorem Stands.asked (h : s.Stands token) (o : Occasion) : (s.asked token o).Stands token := h

theorem refreshed_of_stands (h : s.Stands token) (o : Occasion) (es : List Event) :
    s.refreshed token o es = (s.asked token o).play es := by
  rw [refreshed, play_append, play_asks h]
  rfl

theorem subperm_underWay {as : List Arrival} (h : (as.map Arrival.resource).Subperm o.resources) :
    (as.map fun a => (⟨a.resource, token⟩ : Fetch)).Subperm (s.asked token o).underWay := by
  obtain ⟨rs, hperm, hsublist⟩ := h
  have hfetches := hperm.map fun r => (⟨r, token⟩ : Fetch)
  rw [List.map_map] at hfetches
  have hasked := (hsublist.map fun r => (⟨r, token⟩ : Fetch)).trans
    (List.sublist_append_right s.underWay _)
  exact hfetches.symm.subperm.trans hasked.subperm

/-- What a view that stands is brought while nothing else happens is written in some order, but for
what waits in the end. -/
theorem desk_refreshed_of_delivers (h : s.Stands token) {es : List Event}
    (hes : ∀ e ∈ es, e.delivers token = true)
    (has : ((es.filterMap Event.arrival?).map Arrival.resource).Subperm o.resources) :
    ∃ written, (s.refreshed token o es).desk = s.desk.recordAll (written.map Delivery.arrival) ∧
      (written ++ (s.refreshed token o es).handed).Perm
        (s.handed ++ (es.filterMap Event.arrival?).map (Delivery.mk token)) := by
  have hback := handsBack_of_stands (h.asked o) hes (subperm_underWay has)
  refine ⟨(s.asked token o).writes es, ?_, ?_⟩
  · rw [refreshed_of_stands h, desk_play_of_delivers hes]
    rfl
  · rw [refreshed_of_stands h, ← hback]
    exact writes_perm (s.asked token o) es

/-- The answers of a refresh are all written, in some order. -/
theorem Settles.desk_eq {es : List Event} (h : s.Settles token o f es) (hstands : s.Stands token) :
    ∃ order, order.Perm o.resources ∧
      (s.refreshed token o es).desk = s.desk.recordAll (f.arrivals order) := by
  have hresources := h.arrivals.map Arrival.resource
  rw [f.map_resource_arrivals] at hresources
  obtain ⟨written, hdesk, hwritten⟩ :=
    desk_refreshed_of_delivers hstands h.delivers hresources.subperm
  -- What waited before waits in the end, so what arrived is what was written.
  have hdelivered : written.Perm ((es.filterMap Event.arrival?).map (Delivery.mk token)) := by
    refine (List.perm_append_right_iff s.handed).1 ?_
    exact (h.handed.symm.append_left written).trans (hwritten.trans List.perm_append_comm)
  have harrivals : (written.map Delivery.arrival).Perm (f.arrivals o.resources) := by
    have hperm := hdelivered.map Delivery.arrival
    rw [List.map_map] at hperm
    exact (hperm.trans (by simp [Function.comp_def])).trans h.arrivals
  refine ⟨(written.map Delivery.arrival).map Arrival.resource, ?_, ?_⟩
  · have hperm := harrivals.map Arrival.resource
    rwa [f.map_resource_arrivals] at hperm
  · rw [Outcomes.arrivals_map_resource harrivals.subset, hdesk]

/-- The answers may arrive in any order, and each may be written before the next one arrives. -/
theorem settles_promptly (hstands : s.Stands token) (f : Outcomes) {order : List Resource}
    (horder : order.Perm o.resources) :
    s.Settles token o f (promptly s.handed.length token (f.arrivals order)) where
  delivers := delivers_promptly s.handed.length token _
  arrivals := by
    rw [arrivals_promptly]
    exact horder.map _
  handed := by
    have hresources : ((f.arrivals order).map Arrival.resource).Subperm o.resources := by
      rw [f.map_resource_arrivals]
      exact horder.subperm
    rw [refreshed_of_stands hstands]
    exact .of_eq (play_promptly (hstands.asked o) (subperm_underWay hresources)).2

end Settles

end Office

/-- Whatever the outcomes, the answers may arrive in any order, and be written in any other one. For
a session, which asks for one resource after the other, the desk shows the same too. After starting,
the balance is that of the fetched bills for the fetched peer, and the page depends on nothing but
the identity. -/
theorem refresh_independent_of_order {s : Office} {token : Nat} (hstands : s.Stands token)
    (o : Occasion) (f : Outcomes) :
    (∀ order, order.Perm o.resources →
      s.Settles token o f (Office.promptly s.handed.length token (f.arrivals order))) ∧
    (∀ es es', s.Settles token o f es → s.Settles token o f es' →
      (s.refreshed token o es).desk.Agrees (s.refreshed token o es').desk) ∧
    (∀ es, s.Settles token o f es → ∀ (σ : Type) (L : Ledger σ) (sess : Session σ),
      sess.IsLive → sess.desk = s.desk →
      (L.arrivals o.resources sess.ledger).1 = f.arrivals o.resources →
      (s.refreshed token o es).desk.Agrees (Session.refresh L o sess).2.desk) ∧
    (∀ es, s.Settles token .startup f es →
      let done := (s.refreshed token .startup es).desk
      (∀ bills peer, f .bills = .ok bills → f .peerId = .ok peer →
        done.balance = Balance.ofBills (Portfolio.newestFirst bills) peer) ∧
      (done.navigate done.startPage).page =
        if ((f .identity).toOption.or s.desk.identity?).any Identity.isCreated then .home
        else .identity) ∧
    (∀ (σ : Type) (L : Ledger σ) (sess : Session σ), sess.IsLive →
      (Session.start L sess).2.desk.page =
        if ((L.answer .identity sess.ledger).1.toOption.or sess.desk.identity?).any
          Identity.isCreated then .home
        else .identity) := by
  refine ⟨fun order => Office.settles_promptly hstands f, ?_, ?_, ?_, ?_⟩
  · intro es es' hes hes'
    obtain ⟨order, horder, hdesk⟩ := hes.desk_eq hstands
    obtain ⟨order', horder', hdesk'⟩ := hes'.desk_eq hstands
    rw [hdesk, hdesk']
    have hperm : (f.arrivals order).Perm (f.arrivals order') :=
      (horder.trans horder'.symm).map _
    exact Desk.agrees_recordAll _
      (f.nodup_arrivals (horder'.nodup_iff.2 o.nodup_resources)) hperm
  · intro es hes σ L sess hlive hdesk hanswers
    obtain ⟨order, horder, hdone⟩ := hes.desk_eq hstands
    rw [hdone, Session.refresh, Session.refetchAll_apply_of_live L hlive, hdesk, hanswers]
    exact Desk.agrees_recordAll _ (f.nodup_arrivals o.nodup_resources) (horder.map _)
  · intro es hes done
    obtain ⟨order, horder, hdone⟩ := hes.desk_eq hstands
    have hnodup : order.Nodup := horder.nodup_iff.2 (Occasion.nodup_resources _)
    have hmem : ∀ r ∈ Occasion.startup.resources, r ∈ order := fun _ hr => horder.mem_iff.2 hr
    have hrecorded : done = s.desk.recordAll (f.arrivals order) := hdone
    rw [hrecorded]
    refine ⟨?_, ?_⟩
    · intro bills peer hbills hpeer
      exact Desk.balance_recordAll _ hnodup (hmem .bills (by decide)) hbills
        (hmem .peerId (by decide)) hpeer
    · exact Desk.startPage_recordAll _ hnodup (hmem .identity (by decide))
  · intro σ L sess hlive
    obtain ⟨g, hg⟩ := L.exists_outcomes (Occasion.nodup_resources .startup) sess.ledger
    have hidentity : (L.answer .identity sess.ledger).1 = g .identity := by
      have hhead := (List.cons.inj hg).1
      exact eq_of_heq (Arrival.mk.inj hhead).2
    rw [Session.start_apply, Session.refresh, Session.refetchAll_apply_of_live L hlive, hg,
      hidentity]
    exact Desk.startPage_recordAll _ (Occasion.nodup_resources .startup) (by decide)

/-- One view, at a new desk. -/
def Office.oneView : Office := { scopes := { standings := [.live], tokens := [0] } }

/-- The bills and the peer are fetched, all else fails. -/
def Outcomes.partly : Outcomes
  | .bills => .ok [exampleBill]
  | .peerId => .ok ⟨"node"⟩
  | .identity => .error .noAnswer
  | .contacts => .error (.status 500 "/contacts/return")
  | .openBill _ => .error .noAnswer

/-- All answers arrive, and then they are written, the last one first. -/
def Outcomes.lastFirst (f : Outcomes) (token : Nat) (order : List Resource) : List Office.Event :=
  (f.arrivals order).map (.arrive token) ++ (List.range order.length).reverse.map .write

theorem Office.settles_lastFirst : Office.oneView.Settles 0 .startup .partly
    (Outcomes.partly.lastFirst 0 [.peerId, .identity, .contacts, .bills]) where
  delivers := by
    intro e he
    rcases List.mem_append.1 he with he | he
    · obtain ⟨a, -, rfl⟩ := List.mem_map.1 he
      rfl
    · obtain ⟨place, -, rfl⟩ := List.mem_map.1 he
      rfl
  arrivals := by
    have horder : [.peerId, .identity, .contacts, .bills].Perm Occasion.startup.resources := by
      decide
    exact horder.map fun r => Arrival.mk r (Outcomes.partly r)
  handed := .of_eq rfl

theorem refresh_independent_of_order_partly :
    let promptly := Office.promptly 0 0 (Outcomes.partly.arrivals
      [.bills, .contacts, .peerId, .identity])
    let lastFirst := Outcomes.partly.lastFirst 0 [.peerId, .identity, .contacts, .bills]
    let done (es : List Office.Event) := (Office.oneView.refreshed 0 .startup es).desk
    Office.oneView.Stands 0 ∧ Office.oneView.Settles 0 .startup .partly promptly ∧
      Office.oneView.Settles 0 .startup .partly lastFirst ∧
      (done promptly).Agrees (done lastFirst) ∧
      (done lastFirst).balance = Balance.ofBills (Portfolio.newestFirst [exampleBill]) ⟨"node"⟩ ∧
      (done lastFirst).startPage = .identity := by
  have hstands : Office.oneView.Stands 0 := ⟨0, rfl, rfl⟩
  obtain ⟨hsettles, hagree, _, hstartup, _⟩ :=
    refresh_independent_of_order hstands .startup Outcomes.partly
  have hpromptly := hsettles [.bills, .contacts, .peerId, .identity] (by decide)
  obtain ⟨hbalance, hpage⟩ := hstartup _ Office.settles_lastFirst
  exact ⟨hstands, hpromptly, Office.settles_lastFirst,
    hagree _ _ hpromptly Office.settles_lastFirst, hbalance _ _ rfl rfl, hpage⟩

end BillDesk
