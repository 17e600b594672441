import BillDesk.Proofs.Session.Submission

/-!
# Where and whom to pay

A bill is paid, or bought, outside of the ledger, and money that is sent to the wrong place is lost
there. The user is told the amount, the currency and the bill, which are always those of the bill
that is shown. Where and whom to pay is taken from what the ledger gave. It counts as given when
there is an address or a link, blank or not. A seller that is a placeholder is passed over, but the
holder who takes the place of one is not looked at. So some instructions cannot be followed.

Results:
1. `isPlaceholder_receiver_buying_iff`: when a purchase would be paid to nobody.
2. `dispatch_eq_iff`: what becomes of the request for a payment.
3. `asksSafely_iff`: for which bills all that is asked for can be followed.
4. `payment_asked_as_given`: all of it; `not_asksSafely_blank_or_nobody` for bills that ask for
   money without a place, or without anybody to receive it.
-/

namespace BillDesk

namespace Bill

/-- What is settled outside of the ledger: the drawee pays the bill, or the buyer pays for it. -/
inductive Payment where
  | paying
  | buying
  deriving DecidableEq

namespace Payment

def request : Payment → Request
  | paying => .pay
  | buying => .buy

def address? (b : Bill) : Payment → Option String
  | paying => b.addressToPay
  | buying => b.addressForSelling

def link? (b : Bill) : Payment → Option String
  | paying => b.linkToPay
  | buying => b.linkForBuy

/-- A bill on offer has its price. Without one it is bought for what it is worth. -/
def amount (b : Bill) : Payment → UInt64
  | paying => b.amount
  | buying => b.amountForSelling.getD b.amount

def receiver (b : Bill) : Payment → Party
  | paying => b.holder
  | buying => b.sellerOrHolder

/-- What the bill says about the payment. -/
def instruction (b : Bill) (p : Payment) : Instruction where
  billName := b.name
  receiver := p.receiver b
  amount := p.amount b
  currency := b.currency
  address := p.address? b
  link := p.link? b

/-- The ledger gave an address or a link. -/
def IsGiven (p : Payment) (b : Bill) : Prop :=
  (p.address? b).isSome = true ∨ (p.link? b).isSome = true

instance (p : Payment) (b : Bill) : Decidable (p.IsGiven b) := inferInstanceAs (Decidable (_ ∨ _))

/-- The peer may pay: the bill has a name, and the action is eligible. -/
structure IsDue (p : Payment) (b : Bill) (peer : PeerId) : Prop where
  named : Text.isBlank b.name = false
  eligible : p.request.action ∈ b.eligibleActions peer

end Payment

/-! ## Instructions that can be followed -/

/-- There is a place to send the money to, and somebody who receives it. -/
structure Instruction.CanBeFollowed (i : Instruction) : Prop where
  place : ∃ place ∈ i.address.toList ++ i.link.toList, Text.isBlank place = false
  receiver : i.receiver.peerId.isEmpty = false

/-- The instruction asks for what the payment of the bill comes to. -/
structure Instruction.IsFor (i : Instruction) (p : Payment) (b : Bill) : Prop where
  billName : i.billName = b.name
  currency : i.currency = b.currency
  amount : i.amount = p.amount b

namespace Payment

variable {p : Payment} {b : Bill} {peer : PeerId} {i : Instruction}

theorem isFor_instruction (p : Payment) (b : Bill) : (p.instruction b).IsFor p b := ⟨rfl, rfl, rfl⟩

/-- The seller is paid where one is filled in, and else the holder, filled in or not. -/
theorem isPlaceholder_receiver_buying_iff : (buying.receiver b).isPlaceholder = true ↔
    (∀ s ∈ b.seller, s.isPlaceholder = true) ∧ b.holder.isPlaceholder = true := by
  rw [receiver, sellerOrHolder]
  cases b.seller with
  | none => simp [holder]
  | some s => cases hs : s.isPlaceholder <;> simp [Option.filter, hs, holder]

/-! ## What becomes of the request -/

/-- What becomes of the request for a payment, and when. -/
inductive Verdict (p : Payment) (b : Bill) (peer : PeerId) : Except BillError Dispatch → Prop
  | nameless (h : Text.isBlank b.name = true) :
      Verdict p b peer (.error (.form (.missing .billName)))
  | notEligible (hnamed : Text.isBlank b.name = false)
      (h : p.request.action ∉ b.eligibleActions peer) :
      Verdict p b peer (.error (.notEligible p.request.action b.name))
  | noPaymentData (hdue : p.IsDue b peer) (h : ¬p.IsGiven b) :
      Verdict p b peer (.error (.noPaymentData b.name p.request.action))
  | asked (hdue : p.IsDue b peer) (h : p.IsGiven b) :
      Verdict p b peer (.ok (.pay (p.instruction b)))

theorem instruction?_request (p : Payment) (b : Bill) :
    p.request.instruction? b = if p.IsGiven b then some (p.instruction b) else none := by
  have hgiven : ∀ (o o' : Option String) (i : Instruction),
      (if o.isNone && o'.isNone then none else some i) =
        if o.isSome = true ∨ o'.isSome = true then some i else none := by
    intro o o' i
    cases o <;> cases o' <;> rfl
  cases p with
  | paying => exact hgiven ..
  | buying => exact hgiven ..

theorem request_eq (p : Payment) : p.request = .pay ∨ p.request = .buy := by
  cases p with
  | paying => exact .inl rfl
  | buying => exact .inr rfl

/-- The form of a payment has no fields, so only the name of the bill is checked. -/
theorem check_request (p : Payment) (b : Bill) :
    p.request.check b = refuseIf (Text.isBlank b.name) (.missing .billName) := by
  have hdo : p.request.check b = do
      refuseIf (Text.isBlank b.name) (.missing .billName)
      return := by
    cases p <;> rfl
  rw [hdo]
  cases Text.isBlank b.name <;> rfl

theorem check_of_named (h : Text.isBlank b.name = false) : p.request.check b = .ok () := by
  rw [check_request, h]
  rfl

theorem IsDue.dispatch (h : p.IsDue b peer) :
    p.request.dispatch (.loaded b) peer = p.request.settle b := by
  rw [Request.dispatch, Request.decide_of_checked (check_of_named h.named)]
  simpa using h.eligible

/-- The verdict is what the dispatch gives. -/
theorem Verdict.dispatch {o : Except BillError Dispatch} (h : p.Verdict b peer o) :
    p.request.dispatch (.loaded b) peer = o := by
  cases h with
  | nameless hname =>
    have hcheck : p.request.check b = .error (.missing .billName) := by
      rw [check_request, hname]
      rfl
    simp only [Request.dispatch, Request.decide, hcheck]
  | notEligible hnamed hnot =>
    have hcontains : (b.eligibleActions peer).contains p.request.action = false := by
      simpa using hnot
    simp only [Request.dispatch, Request.decide, check_of_named hnamed, hcontains,
      Bool.false_eq_true, if_false]
  | noPaymentData hdue hnone =>
    rw [hdue.dispatch, Request.settle_of_no_instruction p.request_eq]
    rw [instruction?_request, if_neg hnone]
  | asked hdue hgiven =>
    rw [hdue.dispatch, Request.settle_of_instructed]
    rw [instruction?_request, if_pos hgiven]

theorem exists_verdict (p : Payment) (b : Bill) (peer : PeerId) : ∃ o, p.Verdict b peer o := by
  cases hname : Text.isBlank b.name with
  | true => exact ⟨_, .nameless hname⟩
  | false =>
    by_cases heligible : p.request.action ∈ b.eligibleActions peer
    · by_cases hgiven : p.IsGiven b
      · exact ⟨_, .asked ⟨hname, heligible⟩ hgiven⟩
      · exact ⟨_, .noPaymentData ⟨hname, heligible⟩ hgiven⟩
    · exact ⟨_, .notEligible hname heligible⟩

theorem dispatch_eq_iff {o : Except BillError Dispatch} :
    p.request.dispatch (.loaded b) peer = o ↔ p.Verdict b peer o := by
  constructor
  · rintro rfl
    obtain ⟨o, h⟩ := p.exists_verdict b peer
    rwa [h.dispatch]
  · exact Verdict.dispatch

/-! ## What is asked for -/

/-- Whatever is asked for can be followed and is what the payment comes to, and a payment that is
due and not asked for is refused because the data for it is missing. -/
def AsksSafely (p : Payment) (b : Bill) (peer : PeerId) : Prop :=
  (∀ i, p.request.dispatch (.loaded b) peer = .ok (.pay i) → i.CanBeFollowed ∧ i.IsFor p b) ∧
  (p.IsDue b peer → (∀ i, p.request.dispatch (.loaded b) peer ≠ .ok (.pay i)) →
    p.request.dispatch (.loaded b) peer = .error (.noPaymentData b.name p.request.action))

theorem asksSafely_iff : p.AsksSafely b peer ↔
    (p.IsDue b peer → p.IsGiven b → (p.instruction b).CanBeFollowed) := by
  constructor
  · rintro ⟨hasked, _⟩ hdue hgiven
    exact (hasked _ (Verdict.asked hdue hgiven).dispatch).1
  · intro hfollow
    constructor
    · intro i h
      cases dispatch_eq_iff.1 h with
      | asked hdue hgiven => exact ⟨hfollow hdue hgiven, isFor_instruction p b⟩
    · intro hdue hnot
      have hnone : ¬p.IsGiven b := fun hgiven => hnot _ (Verdict.asked hdue hgiven).dispatch
      exact (Verdict.noPaymentData hdue hnone).dispatch

/-- A payment that is due is asked for exactly when an address or a link is given, with the data of
the bill, and else the data is missing. What is asked for can be followed unless all that is given
is blank or nobody receives it, and nobody receives the price of a bill of which neither the seller
nor the holder is filled in. -/
theorem payment_asked_as_given (p : Payment) (b : Bill) (peer : PeerId) :
    (∀ o, p.request.dispatch (.loaded b) peer = o ↔ p.Verdict b peer o) ∧
    (p.AsksSafely b peer ↔
      (p.IsDue b peer → p.IsGiven b → (p.instruction b).CanBeFollowed)) ∧
    ((buying.receiver b).isPlaceholder = true ↔
      (∀ s ∈ b.seller, s.isPlaceholder = true) ∧ b.holder.isPlaceholder = true) :=
  ⟨fun _ => dispatch_eq_iff, asksSafely_iff, isPlaceholder_receiver_buying_iff⟩

/-- A bill of which the ledger sent a blank address. -/
def blankBill : Bill :=
  { exampleBill with
    drawee := ⟨"Me", ⟨"12D3KooWMe"⟩, "", "", ""⟩
    addressToPay := some "" }

/-- A bill on offer whose seller was left out and whose payee is a placeholder. -/
def nobodysBill : Bill :=
  { blankBill with
    payee := ⟨"", ⟨""⟩, "", "", ""⟩
    buyer := some ⟨"Me", ⟨"12D3KooWMe"⟩, "", "", ""⟩
    status := { waitedForPayment := true }
    addressForSelling := some "tb1qseller" }

/-- The drawee is asked to pay to a blank address, and the buyer to pay nobody. -/
theorem not_asksSafely_blank_or_nobody :
    ¬paying.AsksSafely blankBill ⟨"12D3KooWMe"⟩ ∧
      ¬buying.AsksSafely nobodysBill ⟨"12D3KooWMe"⟩ := by
  constructor
  · rw [asksSafely_iff]
    intro hsafe
    obtain ⟨place, hplace, hblank⟩ := (hsafe ⟨rfl, by decide⟩ (by decide)).place
    obtain rfl : place = "" := by
      simpa [instruction, address?, link?, blankBill, exampleBill] using hplace
    exact absurd hblank (by decide)
  · rw [asksSafely_iff]
    intro hsafe
    exact absurd (hsafe ⟨rfl, by decide⟩ (by decide)).receiver (by decide)

end Payment

end Bill

end BillDesk
