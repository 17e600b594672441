import BillDesk.Ledger.Http
import BillDesk.Proofs.Session.Journal

/-!
# What an action on the open bill sends

A request for an action passes five checks in a row: a bill is open and the local peer is known,
the bill is loaded, the form fits it, the action is eligible in the view, and for paying and buying
there is something to pay with. The first check that fails is what the user is told. Only a request
that passes them all, and is not settled outside of the ledger, makes the client tell the ledger
anything.

Results:
1. `Desk.refuses_or_passes`, `Desk.Refuses.unique`: either one check is the first to fail, or the
   request passes on a bill.
2. `execute_of_fault`, `execute_of_instruction`, `execute_of_sent_rejected`,
   `execute_of_sent_taken`: what becomes of the request in each case.
3. `obey_ok_iff`: over HTTP, an order is taken exactly when its POST is answered with 200 to 299.
4. `execute_tells_iff_passes`: what is sent, where, in which order, and what comes of it.
-/

namespace BillDesk

namespace Bill.Request

/-- Where the order for a request goes. Paying and buying send none. -/
def endpoint? : Request → Option (List String)
  | pay | buy => none
  | accept => some ["bill", "accept"]
  | endorse _ => some ["bill", "endorse"]
  | sell _ _ => some ["bill", "sell"]
  | requestToAccept => some ["bill", "request_to_accept"]
  | requestToPay => some ["bill", "request_to_pay"]

/-- The form that is sent for a request on a bill. -/
def formFields (b : Bill) : Request → List (String × String)
  | pay | buy => []
  | accept | requestToAccept | requestToPay => [("bill_name", b.name)]
  | endorse endorsee => [("bill_name", b.name), ("endorsee", Text.trim endorsee)]
  | sell buyer amount =>
      [("bill_name", b.name), ("buyer", Text.trim buyer),
        ("amount_numbers", Nat.repr amount.toNat)]

/-- What the bill says about how to settle a request outside of the ledger. -/
def instruction? (b : Bill) : Request → Option Instruction
  | pay => b.paymentInstruction?
  | buy => b.buyInstruction?
  | _ => none

/-- An eligible request is sent to its endpoint, with the bill's own name. -/
theorem settle_of_sent {r : Request} (hpay : r ≠ .pay) (hbuy : r ≠ .buy) (b : Bill) :
    ∃ order, r.settle b = .ok (.send order) ∧ r.endpoint? = some order.path ∧
      order.fields = r.formFields b := by
  cases r with
  | pay => exact absurd rfl hpay
  | buy => exact absurd rfl hbuy
  | accept => exact ⟨_, rfl, rfl, rfl⟩
  | endorse endorsee => exact ⟨_, rfl, rfl, rfl⟩
  | sell buyer amount => exact ⟨_, rfl, rfl, rfl⟩
  | requestToAccept => exact ⟨_, rfl, rfl, rfl⟩
  | requestToPay => exact ⟨_, rfl, rfl, rfl⟩

theorem settle_of_instructed {r : Request} {b : Bill} {i : Instruction}
    (h : r.instruction? b = some i) : r.settle b = .ok (.pay i) := by
  cases r <;> simp_all [instruction?, settle, instructed]

theorem settle_of_no_instruction {r : Request} {b : Bill} (hr : r = .pay ∨ r = .buy)
    (h : r.instruction? b = none) : r.settle b = .error (.noPaymentData b.name r.action) := by
  rcases hr with rfl | rfl <;> simp_all [instruction?, settle, instructed, action]

theorem decide_of_checked {r : Request} {b : Bill} {peer : PeerId} (hcheck : r.check b = .ok ())
    (h : (b.eligibleActions peer).contains r.action = true) : r.decide b peer = r.settle b := by
  simp only [decide, hcheck, h, if_true]

end Bill.Request

/-! ## The checks -/

/-- Why a request came to nothing before anything was sent. -/
inductive Fault where
  | notThere
  | failed (error : BillError)

/-- What the user is told. -/
def Fault.text : Fault → String
  | notThere => "The bill is not loaded yet."
  | failed error => "Action failed: " ++ error.message

namespace Desk

variable {d : Desk} {r : Bill.Request} {b : Bill}

/-- A loaded bill is shown and the local peer is known. -/
structure Shows (d : Desk) (b : Bill) : Prop where
  loaded : ∃ name, d.openBill? = some ⟨name, .loaded b⟩
  peer_known : ∃ peer, d.peer? = some peer

/-- The request passes on the bill that is shown. -/
structure Passes (d : Desk) (r : Bill.Request) (b : Bill) : Prop where
  shows : d.Shows b
  fits : r.check b = .ok ()
  eligible : d.eligibility.allows r.action = true

/-- The first check that a request fails. Each is made only when those before it have passed. -/
inductive Refuses (d : Desk) (r : Bill.Request) : Fault → Prop
  | notThere (h : d.openBill? = none ∨ d.peer? = none) : Refuses d r .notThere
  | loading {name : String} {peer : PeerId} (hpeer : d.peer? = some peer)
      (h : d.openBill? = some ⟨name, .loading⟩) :
      Refuses d r (.failed (.unavailable "still loading"))
  | unavailable {name reason : String} {peer : PeerId} (hpeer : d.peer? = some peer)
      (h : d.openBill? = some ⟨name, .unavailable reason⟩) :
      Refuses d r (.failed (.unavailable reason))
  | form {b : Bill} {e : FormError} (hshows : d.Shows b) (h : r.check b = .error e) :
      Refuses d r (.failed (.form e))
  | notEligible {b : Bill} (hshows : d.Shows b) (hfits : r.check b = .ok ())
      (h : d.eligibility.allows r.action = false) :
      Refuses d r (.failed (.notEligible r.action b.name))
  | noPaymentData {b : Bill} (hpasses : d.Passes r b) (hr : r = .pay ∨ r = .buy)
      (h : r.instruction? b = none) :
      Refuses d r (.failed (.noPaymentData b.name r.action))

/-- What the view shows as eligible is what the request is decided by. -/
theorem allows_eligibility {name : String} {peer : PeerId}
    (hopen : d.openBill? = some ⟨name, .loaded b⟩) (hpeer : d.peer? = some peer)
    (a : Bill.Action) : d.eligibility.allows a = (b.eligibleActions peer).contains a := by
  rw [eligibility, hopen, hpeer]
  rfl

theorem Passes.unique {b' : Bill} (h : d.Passes r b) (h' : d.Passes r b') : b = b' := by
  obtain ⟨_, hopen⟩ := h.shows.loaded
  obtain ⟨_, hopen'⟩ := h'.shows.loaded
  rw [hopen] at hopen'
  cases hopen'
  rfl

/-- A request that passes is settled on the bill. -/
theorem Passes.dispatch (h : d.Passes r b) :
    ∃ name peer, d.openBill? = some ⟨name, .loaded b⟩ ∧ d.peer? = some peer ∧
      r.dispatch (.loaded b) peer = r.settle b := by
  obtain ⟨name, hopen⟩ := h.shows.loaded
  obtain ⟨peer, hpeer⟩ := h.shows.peer_known
  refine ⟨name, peer, hopen, hpeer, ?_⟩
  have heligible := h.eligible
  rw [allows_eligibility hopen hpeer] at heligible
  rw [Bill.Request.dispatch, Bill.Request.decide_of_checked h.fits heligible]

/-- A refused request is told its fault: nobody is there to act, or the dispatch fails. -/
theorem Refuses.dispatch {e : BillError} (h : d.Refuses r (.failed e)) :
    ∃ o peer, d.openBill? = some o ∧ d.peer? = some peer ∧
      r.dispatch o.snapshot peer = .error e := by
  cases h with
  | loading hpeer hopen => exact ⟨_, _, hopen, hpeer, rfl⟩
  | unavailable hpeer hopen => exact ⟨_, _, hopen, hpeer, rfl⟩
  | form hshows hcheck =>
    obtain ⟨⟨_, hopen⟩, ⟨_, hpeer⟩⟩ := hshows
    refine ⟨_, _, hopen, hpeer, ?_⟩
    simp only [Bill.Request.dispatch, Bill.Request.decide, hcheck]
  | notEligible hshows hfits hallows =>
    obtain ⟨⟨_, hopen⟩, ⟨_, hpeer⟩⟩ := hshows
    refine ⟨_, _, hopen, hpeer, ?_⟩
    rw [allows_eligibility hopen hpeer] at hallows
    simp only [Bill.Request.dispatch, Bill.Request.decide, hfits, hallows, Bool.false_eq_true,
      if_false]
  | noPaymentData hpasses hr hnone =>
    obtain ⟨_, _, hopen, hpeer, hsettle⟩ := hpasses.dispatch
    exact ⟨_, _, hopen, hpeer, hsettle.trans (Bill.Request.settle_of_no_instruction hr hnone)⟩

/-- Only one check is the first to fail. -/
theorem Refuses.unique {fault fault' : Fault} (h : d.Refuses r fault)
    (h' : d.Refuses r fault') : fault = fault' := by
  have hthere : ∀ {e}, d.Refuses r .notThere → ¬d.Refuses r (.failed e) := by
    intro e hnot hfailed
    obtain ⟨o, peer, hopen, hpeer, _⟩ := hfailed.dispatch
    cases hnot with
    | notThere hnone =>
      rw [hopen, hpeer] at hnone
      rcases hnone with hnone | hnone <;> cases hnone
  cases fault with
  | notThere =>
    cases fault' with
    | notThere => rfl
    | failed e => exact absurd h' (hthere h)
  | failed e =>
    cases fault' with
    | notThere => exact absurd h (hthere h')
    | failed e' =>
      -- Both are what the one dispatch on the desk fails with.
      obtain ⟨o, peer, hopen, hpeer, hdispatch⟩ := h.dispatch
      obtain ⟨o', peer', hopen', hpeer', hdispatch'⟩ := h'.dispatch
      cases hopen.symm.trans hopen'
      cases hpeer.symm.trans hpeer'
      cases hdispatch.symm.trans hdispatch'
      rfl

/-- Either a first check fails, or the request passes on the bill that is shown. When it is settled
outside of the ledger, there is something to pay with. -/
theorem refuses_or_passes (d : Desk) (r : Bill.Request) :
    (∃ fault, d.Refuses r fault) ∨
      ∃ b, d.Passes r b ∧ ((∃ i, r.instruction? b = some i) ∨ (r ≠ .pay ∧ r ≠ .buy)) := by
  -- One step for each check, in the order in which they are made.
  rcases hpeer : d.peer? with _ | peer
  · exact .inl ⟨_, .notThere (.inr hpeer)⟩
  rcases hopen : d.openBill? with _ | ⟨name, _ | reason | b⟩
  · exact .inl ⟨_, .notThere (.inl hopen)⟩
  · exact .inl ⟨_, .loading hpeer hopen⟩
  · exact .inl ⟨_, .unavailable hpeer hopen⟩
  have hshows : d.Shows b := ⟨⟨name, hopen⟩, ⟨peer, hpeer⟩⟩
  rcases hfits : r.check b with e | _
  · exact .inl ⟨_, .form hshows hfits⟩
  rcases hallows : d.eligibility.allows r.action with _ | _
  · exact .inl ⟨_, .notEligible hshows hfits hallows⟩
  have hpasses : d.Passes r b := ⟨hshows, hfits, hallows⟩
  rcases hi : r.instruction? b with _ | i
  · by_cases hr : r = .pay ∨ r = .buy
    · exact .inl ⟨_, .noPaymentData hpasses hr hi⟩
    · exact .inr ⟨b, hpasses, .inr (not_or.1 hr)⟩
  · exact .inr ⟨b, hpasses, .inl ⟨i, hi⟩⟩

end Desk

namespace Session

variable {σ : Type} {L : Ledger σ} {r : Bill.Request} {s : Session σ}

/-! ## What becomes of a request -/

/-- A refused request is one notice, and nothing else changes. -/
theorem execute_of_fault {fault : Fault} (h : s.desk.Refuses r fault) :
    execute L r s = (none, { s with desk := s.desk.notify .error fault.text }) := by
  cases fault with
  | notThere =>
    cases h with
    | notThere h => exact execute_of_not_there h
  | failed e =>
    obtain ⟨o, peer, hopen, hpeer, hdispatch⟩ := h.dispatch
    exact execute_of_refused hopen hpeer hdispatch

/-- A request that is settled outside of the ledger ends with the instruction of the bill. -/
theorem execute_of_instruction {b : Bill} {i : Bill.Instruction} (h : s.desk.Passes r b)
    (hi : r.instruction? b = some i) :
    (execute L r s).1 = some (.paymentRequired r.action i) ∧
      (execute L r s).2.ledger = s.ledger := by
  obtain ⟨name, peer, hopen, hpeer, hdispatch⟩ := h.dispatch
  rw [Bill.Request.settle_of_instructed hi] at hdispatch
  rw [execute_of_instructed hopen hpeer hdispatch]
  exact ⟨rfl, rfl⟩

section Sent

variable {b : Bill} {order : Order} {e : LedgerError}

/-- The ledger refuses the order. -/
theorem execute_of_sent_rejected (h : s.desk.Passes r b) (hsettle : r.settle b = .ok (.send order))
    (hobey : (L.obey order s.ledger).1 = .error e) :
    execute L r s = (none, {
      desk := s.desk.notify .error (Fault.failed (.ledger e)).text
      watch := s.watch.tick
      ledger := (L.obey order s.ledger).2 }) := by
  obtain ⟨name, peer, hopen, hpeer, hdispatch⟩ := h.dispatch
  exact execute_of_rejected hopen hpeer (hdispatch.trans hsettle) hobey

/-- The ledger takes the order, and what it made out of date is fetched again. -/
theorem execute_of_sent_taken (h : s.desk.Passes r b) (hsettle : r.settle b = .ok (.send order))
    (hobey : (L.obey order s.ledger).1 = .ok ()) :
    ∃ name, s.desk.openBill? = some ⟨name, .loaded b⟩ ∧
      execute L r s = (some (.submitted r.action), (afterSubmission L name r.action {
        s with ledger := (L.obey order s.ledger).2, watch := s.watch.tick }).2) := by
  obtain ⟨name, peer, hopen, hpeer, hdispatch⟩ := h.dispatch
  refine ⟨name, hopen, ?_⟩
  rw [execute_of_taken hopen hpeer (hdispatch.trans hsettle) hobey, afterSubmission_apply]

end Sent

/-! ## What is sent -/

/-- Over HTTP, an order is taken exactly when its POST can be sent and is answered with a status
from 200 to 299. -/
theorem obey_ok_iff {τ : Type} (c : LedgerClient) (T : Http.Transport τ) (o : Order) (t : τ) :
    ((c.ledger T).obey o t).1 = .ok () ↔
      ∃ request response, c.orderRequest o = .ok request ∧ request.isSendable = true ∧
        (T request t).1 = some response ∧ 200 ≤ response.status ∧ response.status < 300 := by
  simp only [LedgerClient.ledger, LedgerClient.send]
  rcases c.orderRequest o with e | request
  · simp
  · by_cases hsendable : request.isSendable = true
    · rcases hT : T request t with ⟨_ | response, t'⟩
      · simp [hsendable, hT]
      · by_cases hstatus : 200 ≤ response.status ∧ response.status < 300 <;>
          simp [hsendable, hT, Http.Response.isSuccess, hstatus]
    · simp [hsendable]

/-- The POST of an order goes below the base URL and carries the fields of the order. -/
theorem orderRequest_eq_ok_iff {c : LedgerClient} {o : Order} {request : Http.Request} :
    c.orderRequest o = .ok request ↔
      ∃ url, c.base.append? o.path = some url ∧
        request = ⟨.post, url, c.authorization, o.fields⟩ := by
  simp only [LedgerClient.orderRequest, LedgerClient.endpoint, Option.toList_none, List.append_nil]
  cases c.base.append? o.path with
  | none => simp [bind, Except.bind]
  | some url => simp [pure, Except.pure, bind, Except.bind, eq_comm]

/-- A request that passes goes out as one order, before anything is asked. -/
theorem journal_of_sent {s : Session (σ × List Exchange)} {b : Bill} (h : s.desk.Passes r b)
    (hpay : r ≠ .pay) (hbuy : r ≠ .buy) :
    ∃ order asks,
      (execute L.journaled r s).2.ledger.2 =
        s.ledger.2 ++ Exchange.told order (L.obey order s.ledger.1).1 :: asks ∧
      (∀ e ∈ asks, e.isAsk = true) ∧
      r.endpoint? = some order.path ∧ order.fields = r.formFields b ∧
      (∀ e, (L.obey order s.ledger.1).1 = .error e → asks = [] ∧
        (execute L.journaled r s).1 = none ∧
        (execute L.journaled r s).2.desk =
          s.desk.notify .error (Fault.failed (.ledger e)).text) ∧
      ((execute L.journaled r s).1 = some (.submitted r.action) ↔
        (L.obey order s.ledger.1).1 = .ok ()) := by
  obtain ⟨order, hsettle, hpath, hfields⟩ := Bill.Request.settle_of_sent hpay hbuy b
  rcases hobey : (L.obey order s.ledger.1).1 with e | _
  · have hrejected := execute_of_sent_rejected (L := L.journaled) h hsettle hobey
    -- Nothing is fetched after an order that was refused.
    refine ⟨order, [], ?_, by simp, hpath, hfields, ?_, ?_⟩
    · rw [hrejected, obey_journaled, hobey]
    · intro e' he'
      rw [hobey] at he'
      cases he'
      rw [hrejected]
      exact ⟨rfl, rfl, rfl⟩
    · rw [hrejected, hobey]
      simp
  · obtain ⟨name, _, htaken⟩ := execute_of_sent_taken (L := L.journaled) h hsettle hobey
    obtain ⟨asks, hasks, hask⟩ := journal_afterSubmission L name r.action {
      s with ledger := (L.journaled.obey order s.ledger).2, watch := s.watch.tick }
    refine ⟨order, asks, ?_, hask, hpath, hfields, ?_, ?_⟩
    · rw [htaken, hasks, obey_journaled, hobey, List.append_assoc]
      rfl
    · intro e' he'
      rw [hobey] at he'
      cases he'
    · rw [htaken, hobey]
      simp

/-- A request that is not sent is refused with its fault or answered with an instruction, and the
ledger hears nothing of it. -/
theorem execute_of_not_sent (h : ¬((∃ b, s.desk.Passes r b) ∧ r ≠ .pay ∧ r ≠ .buy)) :
    (execute L r s).2.ledger = s.ledger ∧
      ((∃ fault, s.desk.Refuses r fault ∧ (∀ other, s.desk.Refuses r other → other = fault) ∧
        execute L r s = (none, { s with desk := s.desk.notify .error fault.text })) ∨
      ∃ b i, s.desk.Passes r b ∧ r.instruction? b = some i ∧
        (execute L r s).1 = some (.paymentRequired r.action i)) := by
  rcases s.desk.refuses_or_passes r with ⟨fault, hfault⟩ | ⟨b, hb, ⟨i, hi⟩ | hne⟩
  · have hrefused := execute_of_fault (L := L) hfault
    exact ⟨by rw [hrefused], .inl ⟨fault, hfault, fun _ h => h.unique hfault, hrefused⟩⟩
  · obtain ⟨houtcome, hledger⟩ := execute_of_instruction (L := L) hb hi
    exact ⟨hledger, .inr ⟨b, i, hb, hi, houtcome⟩⟩
  · exact absurd ⟨⟨b, hb⟩, hne⟩ h

/-- What an action on the open bill sends, for every ledger and every session. With a journal or
without it, the same is done. The ledger is told something exactly when the request passes on the
bill that is shown and is neither to pay nor to buy. Then it is one order, before anything is asked,
with the name of that bill, and the action is submitted exactly when the ledger takes it, which over
HTTP means that the POST is answered with 200 to 299. Otherwise nothing is sent at all, and either
the first check that fails is told, or the user gets the instruction of the bill. -/
theorem execute_tells_iff_passes (L : Ledger σ) (r : Bill.Request)
    (s : Session (σ × List Exchange)) :
    execute L r s.forget = ((execute L.journaled r s).1, (execute L.journaled r s).2.forget) ∧
    (∃ sent, (execute L.journaled r s).2.ledger.2 = s.ledger.2 ++ sent ∧
      ((∃ order answer, .told order answer ∈ sent) ↔
        (∃ b, s.desk.Passes r b) ∧ r ≠ .pay ∧ r ≠ .buy) ∧
      (∀ b, s.desk.Passes r b → r ≠ .pay → r ≠ .buy → ∃ order asks,
        sent = .told order (L.obey order s.ledger.1).1 :: asks ∧
        (∀ e ∈ asks, e.isAsk = true) ∧
        r.endpoint? = some order.path ∧ order.fields = r.formFields b ∧
        (∀ e, (L.obey order s.ledger.1).1 = .error e → asks = [] ∧
          (execute L.journaled r s).1 = none ∧
          (execute L.journaled r s).2.desk =
            s.desk.notify .error (Fault.failed (.ledger e)).text) ∧
        ((execute L.journaled r s).1 = some (.submitted r.action) ↔
          (L.obey order s.ledger.1).1 = .ok ())) ∧
      (¬((∃ b, s.desk.Passes r b) ∧ r ≠ .pay ∧ r ≠ .buy) → sent = [] ∧
        ((∃ fault, s.desk.Refuses r fault ∧
          (∀ other, s.desk.Refuses r other → other = fault) ∧
          execute L.journaled r s =
            (none, { s with desk := s.desk.notify .error fault.text })) ∨
        ∃ b i, s.desk.Passes r b ∧ r.instruction? b = some i ∧
          (execute L.journaled r s).1 = some (.paymentRequired r.action i)))) ∧
    ∀ (c : LedgerClient) (τ : Type) (T : Http.Transport τ) (o : Order) (t : τ),
      ((c.ledger T).obey o t).1 = .ok () ↔
        ∃ url response, c.base.append? o.path = some url ∧
          (Http.Request.mk .post url c.authorization o.fields).isSendable = true ∧
          (T ⟨.post, url, c.authorization, o.fields⟩ t).1 = some response ∧
          200 ≤ response.status ∧ response.status < 300 := by
  refine ⟨Shadows.execute L r s, ?_, ?_⟩
  · by_cases hsent : (∃ b, s.desk.Passes r b) ∧ r ≠ .pay ∧ r ≠ .buy
    · obtain ⟨⟨b, hb⟩, hpay, hbuy⟩ := hsent
      obtain ⟨order, asks, hjournal, hrest⟩ := journal_of_sent (L := L) hb hpay hbuy
      refine ⟨_, hjournal, ?_, ?_, ?_⟩
      · exact ⟨fun _ => ⟨⟨b, hb⟩, hpay, hbuy⟩, fun _ => ⟨order, _, List.mem_cons_self⟩⟩
      · intro b' hb' _ _
        rw [hb'.unique hb]
        exact ⟨order, asks, rfl, hrest⟩
      · intro hnot
        exact absurd ⟨⟨b, hb⟩, hpay, hbuy⟩ hnot
    · obtain ⟨hledger, houtcome⟩ := execute_of_not_sent (L := L.journaled) hsent
      refine ⟨[], by rw [hledger, List.append_nil], ?_, ?_, fun _ => ⟨rfl, houtcome⟩⟩
      · simpa using hsent
      · intro b hb hpay hbuy
        exact absurd ⟨⟨b, hb⟩, hpay, hbuy⟩ hsent
  · intro c τ T o t
    rw [obey_ok_iff]
    constructor
    · rintro ⟨request, response, hrequest, hsendable, hrest⟩
      obtain ⟨url, hurl, rfl⟩ := orderRequest_eq_ok_iff.1 hrequest
      exact ⟨url, response, hurl, hsendable, hrest⟩
    · rintro ⟨url, response, hurl, hsendable, hrest⟩
      exact ⟨_, response, orderRequest_eq_ok_iff.2 ⟨url, hurl, rfl⟩, hsendable, hrest⟩

end Session

end BillDesk
