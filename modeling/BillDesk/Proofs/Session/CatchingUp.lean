import BillDesk.Proofs.Session.SingleSubmission
import BillDesk.Proofs.Session.Success

/-!
# A ledger that lags behind

The ledger may take an action and show it later. So after an action the client fetches the bill
again and looks for the flag by which the ledger shows the action, and where it is missing the user
is told. This tells a ledger that lags behind only where the flag was not there before. The rules
see to it for every action but one: a bill that was endorsed may be endorsed again.

Results:
1. `eq_endorse_of_has`: an action that is allowed on a bill with its flag is an endorsement.
2. `allowed_of_submitted`: what was submitted was allowed on the bill that was open.
3. `lag_is_told_unless_endorsed_again`: when the user is told after an action, for every ledger.
4. `not_tellsLag_unmoved`: nobody is told that the second endorsement of a bill does not show.
-/

namespace BillDesk

variable {σ : Type}

namespace Bill.Action

/-- An action that is allowed on an open bill with its flag is an endorsement. The flags of the
other actions bar them, or close the bill. -/
theorem eq_endorse_of_has {a : Action} {flag : Flag} {s : Status} (hopen : s.isOpen = true)
    (hallowed : a.allowedBy s = true) (hflag : a.expectedFlag? = some flag)
    (hset : s.has flag = true) : a = .endorse := by
  by_cases hlasting : flag.isLasting = true
  · rw [bars_of_expectedFlag? hflag hlasting s hset] at hallowed
    cases hallowed
  cases a with
  | endorse => rfl
  | pay =>
    cases hflag
    have hpayed : s.payed = true := hset
    rw [Status.isOpen, hpayed] at hopen
    cases hopen
  | buy => cases hflag
  | accept | sell | requestToAccept | requestToPay =>
    cases hflag
    exact absurd rfl hlasting

/-- What the user is told when the ledger lags behind with an action. -/
def lag (a : Action) (name : String) : NoticeKind × String :=
  (.info, a.label ++ " on bill " ++ name ++ " is not confirmed by the ledger yet.")

end Bill.Action

def isInfo (n : NoticeKind × String) : Bool := n.1 == .info

/-- A failure is no information. -/
theorem filter_isInfo_complaints (as : List Arrival) :
    (as.filterMap Arrival.complaint?).filter isInfo = [] := by
  rw [List.filter_eq_nil_iff]
  intro n hn
  obtain ⟨⟨r, answer⟩, _, hcomplaint⟩ := List.mem_filterMap.1 hn
  cases answer with
  | ok => cases hcomplaint
  | error e =>
    obtain ⟨failed, _, rfl⟩ := Option.map_eq_some_iff.1 hcomplaint
    simp [isInfo]

theorem filter_isInfo_unconfirmed {a : Bill.Action} {flag : Bill.Flag}
    (hflag : a.expectedFlag? = some flag) (name : String) (b : Bill) :
    (a.unconfirmed? name (.ok b)).toList.filter isInfo =
      if b.status.has flag then [] else [a.lag name] := by
  simp only [Bill.Action.unconfirmed?, hflag]
  split <;> rfl

namespace Session

variable {L : Ledger σ} {s : Session (σ × List Exchange)}

/-- What was submitted was allowed on the bill that was open. -/
theorem allowed_of_submitted {L : Ledger σ} {s : Session σ} {r : Bill.Request} {a : Bill.Action}
    {name : String} {b : Bill} (hopen : s.desk.openBill? = some ⟨name, .loaded b⟩)
    (h : (execute L r s).1 = some (.submitted a)) :
    b.status.isOpen = true ∧ a.allowedBy b.status = true := by
  rcases s.desk.refuses_or_passes r with ⟨fault, hfault⟩ | ⟨b', hpasses, _⟩
  · rw [execute_of_fault hfault] at h
    cases h
  obtain ⟨name', peer, hopen', hpeer, _⟩ := hpasses.dispatch
  cases hopen.symm.trans hopen'
  have heligible := hpasses.eligible
  rw [Desk.allows_eligibility hopen hpeer, List.contains_iff_mem, Bill.mem_eligibleActions]
    at heligible
  obtain ⟨hisOpen, _, hallowed⟩ := heligible
  rcases execute_cases L r s with hnone | ⟨i, hpay⟩ | ⟨_, _, _, _, _, htaken⟩
  · rw [hnone] at h
    cases h
  · rw [hpay] at h
    cases h
  · rw [htaken] at h
    cases h
    exact ⟨hisOpen, hallowed⟩

/-- After an action that the ledger took, for every ledger, every bill and every local peer. The
last call fetches the bill again. Where the answer lacks the flag of the action, the user is told
so, once, and where it has the flag, no such thing is told. The flag was clear before unless the
action is an endorsement. So a ledger that answers with the very same bill is told to lag behind,
once, unless the bill was endorsed before and is endorsed again. -/
theorem lag_is_told_unless_endorsed_again (L : Ledger σ) {s : Session (σ × List Exchange)}
    (hlive : s.IsLive) {r : Bill.Request} {a : Bill.Action} {flag : Bill.Flag}
    (hsubmitted : (execute L.journaled r s).1 = some (.submitted a))
    (hflag : a.expectedFlag? = some flag) :
    let done := (execute L.journaled r s).2
    ∃ name b answer before told,
      s.desk.openBill? = some ⟨name, .loaded b⟩ ∧
      done.ledger.2 = s.ledger.2 ++ (before ++ [.asked (.bill name) answer]) ∧
      s.desk.Tells done.desk told ∧
      (∀ b', answer = .ok b' →
        told.filter isInfo = if b'.status.has flag then [] else [a.lag name]) ∧
      (b.status.has flag = true → a = .endorse) ∧
      (answer = .ok b →
        (told.filter isInfo = [a.lag name] ↔ ¬(a = .endorse ∧ b.status.endorsed = true))) := by
  intro done
  obtain ⟨name, b, order, f, hopen, hdesk, hjournal⟩ := execute_of_submitted hlive hsubmitted
  have htells := Desk.tells_afterAction hopen a f (List.Perm.refl _)
  have hinfo : ∀ b', f (.openBill name) = .ok b' →
      List.filter isInfo ((.success, a.label ++ " was submitted for bill " ++ name ++ ".") ::
        ((f.arrivals (Occasion.billActionSucceeded name).resources).filterMap Arrival.complaint? ++
          (a.unconfirmed? name (f (.openBill name))).toList)) =
        if b'.status.has flag then [] else [a.lag name] := by
    intro b' hanswer
    rw [hanswer, List.filter_cons_of_neg (by simp [isInfo]), List.filter_append,
      filter_isInfo_complaints, filter_isInfo_unconfirmed hflag, List.nil_append]
  obtain ⟨hisOpen, hallowed⟩ := allowed_of_submitted hopen hsubmitted
  have hclear : b.status.has flag = true → a = .endorse :=
    Bill.Action.eq_endorse_of_has hisOpen hallowed hflag
  refine ⟨name, b, f (.openBill name),
    [.told order (.ok ()), .asked .identity (f .identity), .asked .bills (f .bills)], _, hopen,
    hjournal, hdesk ▸ htells, hinfo, hclear, ?_⟩
  intro hanswer
  rw [hinfo b hanswer]
  by_cases hset : b.status.has flag = true
  · have ha := hclear hset
    have hendorsed : b.status.endorsed = true := by
      rw [ha] at hflag
      cases hflag
      exact hset
    simp [hset, ha, hendorsed]
  · have hnot : ¬(a = .endorse ∧ b.status.endorsed = true) := by
      rintro ⟨rfl, hendorsed⟩
      cases hflag
      exact hset hendorsed
    simp [hset, hnot]

end Session

/-! ## A second endorsement -/

/-- The example bill, once it was endorsed to the node "node". -/
def endorsedBill : Bill :=
  { exampleBill with payee := { name := "Holder", peerId := ⟨"node"⟩ }, status.endorsed := true }

/-- A ledger that takes every order and does nothing about it. -/
def Ledger.unmoved : Ledger Unit where
  answer
    | .bill _, t => (.ok endorsedBill, t)
    | _, t => (.error .noAnswer, t)
  obey _ t := (.ok (), t)

namespace Session

/-- The holder looks at the bill. -/
def lookingAtEndorsed : Session (Unit × List Exchange) where
  desk := { peer? := some ⟨"node"⟩, openBill? := some ⟨"bill-2", .loaded endorsedBill⟩ }
  ledger := ((), [])

theorem lag_is_told_unless_endorsed_again_unmoved :
    let s := lookingAtEndorsed
    let done := (execute Ledger.unmoved.journaled .requestToPay s).2
    s.IsLive ∧ ∃ told, s.desk.Tells done.desk told ∧
      told.filter isInfo = [Bill.Action.requestToPay.lag "bill-2"] := by
  intro s done
  have hlive : s.IsLive := rfl
  have hsubmitted : (execute Ledger.unmoved.journaled .requestToPay s).1 =
      some (.submitted .requestToPay) := rfl
  have hflag : Bill.Action.requestToPay.expectedFlag? = some .requestedToPay := rfl
  obtain ⟨name, b, answer, before, told, hopen, hjournal, htells, hinfo, _⟩ :=
    lag_is_told_unless_endorsed_again Ledger.unmoved hlive hsubmitted hflag
  cases hopen
  have hlast : (before ++ [Exchange.asked (.bill "bill-2") answer]).getLast? =
      some (.asked (.bill "bill-2") (.ok endorsedBill)) := congrArg List.getLast? hjournal.symm
  rw [List.getLast?_append, List.getLast?_singleton] at hlast
  cases hlast
  exact ⟨hlive, told, htells, hinfo endorsedBill rfl⟩

/-- After an action that the ledger took, a bill that is answered as it was is told to lag behind,
once. Nothing is told where the bill has the flag that it had not before. -/
def TellsLag (L : Ledger σ) : Prop :=
  ∀ (s : Session (σ × List Exchange)) (r : Bill.Request) (a : Bill.Action) (flag : Bill.Flag)
    (name : String) (b : Bill) (answer : Except LedgerError Bill) (before : List Exchange)
    (told : List (NoticeKind × String)), s.IsLive →
    s.desk.openBill? = some ⟨name, .loaded b⟩ →
    (execute L.journaled r s).1 = some (.submitted a) → a.expectedFlag? = some flag →
    (execute L.journaled r s).2.ledger.2 =
      s.ledger.2 ++ (before ++ [.asked (.bill name) answer]) →
    s.desk.Tells (execute L.journaled r s).2.desk told →
    (answer = .ok b → told.filter isInfo = [a.lag name]) ∧
      ∀ b', answer = .ok b' → b'.status.has flag = true → b.status.has flag = false →
        told.filter isInfo = []

/-- The second endorsement does not show, and nobody is told. -/
theorem not_tellsLag_unmoved : ¬TellsLag Ledger.unmoved := by
  intro h
  have hinfo := (h lookingAtEndorsed (.endorse "Alice") .endorse .endorsed "bill-2" endorsedBill
    (.ok endorsedBill)
    [.told (.endorse "bill-2" "Alice") (.ok ()), .asked .identity (.error .noAnswer),
      .asked .bills (.error .noAnswer)]
    [(.success, "ENDORSE was submitted for bill bill-2."),
      (.error, "Could not load identity: " ++ (ServiceError.ledger .noAnswer).message),
      (.error, "Could not load bills: " ++ (ServiceError.ledger .noAnswer).message)]
    rfl rfl rfl rfl rfl ⟨_, rfl, rfl⟩).1 rfl
  exact absurd hinfo (by decide)

end Session

end BillDesk
