import BillDesk.Proofs.Session.Run
import BillDesk.Proofs.Session.Submission

/-!
# The name that is posted

Two names travel with the open bill: the one that it was opened by, and the one inside the bill that
the ledger answered. The client never compares them. An order carries the name inside the bill. The
notice, the fetching afterwards and the check whether the ledger has caught up go by the name that
was opened.

Results:
1. `holds_showsLatest`: a loaded bill is the latest answer to the query for the opened name.
2. `not_postsOpenedName_misnaming`: a ledger that answers with another bill has that one acted on.
3. `postsOpenedName_of_named`: with a ledger that answers by the name it is asked for, the two names
   agree in every run.
4. `posts_latest_answered_name`: what is posted and what goes by the opened name, for every ledger.
-/

namespace BillDesk

/-- What an exchange says about the bill of a name. -/
def Exchange.billAnswer? (name : String) : Exchange → Option (Except LedgerError Bill)
  | asked (.bill name') answer => if name' = name then some answer else none
  | _ => none

/-- The latest answer to the query for a bill. -/
def latestAnswer? (name : String) (journal : List Exchange) : Option (Except LedgerError Bill) :=
  (journal.filterMap (Exchange.billAnswer? name)).getLast?

theorem latestAnswer?_append (name : String) (journal : List Exchange) (e : Exchange) :
    latestAnswer? name (journal ++ [e]) =
      (e.billAnswer? name).or (latestAnswer? name journal) := by
  rw [latestAnswer?, List.filterMap_append]
  cases h : e.billAnswer? name <;> simp [latestAnswer?, h]

theorem Bill.Request.lookup_formFields {r : Bill.Request} (hpay : r ≠ .pay) (hbuy : r ≠ .buy)
    (b : Bill) : (r.formFields b).lookup "bill_name" = some b.name := by
  cases r with
  | pay => exact absurd rfl hpay
  | buy => exact absurd rfl hbuy
  | accept | endorse | sell | requestToAccept | requestToPay => rfl

namespace Session

variable {σ : Type}

/-! ## The open bill is the latest answer -/

/-- A loaded bill is the latest answer to the query for the name that it was opened by. -/
def ShowsLatest (o : Option OpenBill) (t : σ × List Exchange) : Prop :=
  ∀ name b, o = some ⟨name, .loaded b⟩ → latestAnswer? name t.2 = some (.ok b)

theorem kept_showsLatest (L : Ledger σ) : Kept L.journaled ShowsLatest where
  closed _ _ _ h := by cases h
  opened _ _ _ _ h := by cases h
  asked q hq h name b ho := by
    rw [answer_journaled, latestAnswer?_append, h name b ho]
    cases q with
    | bill name' =>
      have hne : name' ≠ name := fun heq => hq _ ho (heq ▸ rfl)
      simp [Exchange.billAnswer?, hne]
    | _ => rfl
  shown := by
    intro name snap t _ name' b ho
    obtain ⟨rfl, hsnap⟩ := OpenBill.mk.inj (Option.some.inj ho)
    rw [answer_journaled] at hsnap ⊢
    rw [latestAnswer?_append, ← Bill.Snapshot.ofAnswer_eq_loaded.1 hsnap]
    simp [Exchange.billAnswer?]
  told := by
    intro o t order _ h name b ho
    rw [obey_journaled, latestAnswer?_append, h name b ho]
    rfl
  rejected := by
    intro _ _ t _ _ _ order h _ _ name b ho
    rw [obey_journaled, latestAnswer?_append, h name b ho]
    rfl
  taken := by
    intro _ _ _ _ _ _ _ _ _ _ _ ho
    cases ho

/-- After every run, a loaded bill is the latest answer for the name that it was opened by. -/
theorem holds_showsLatest (L : Ledger σ) (t : σ) (moves : List Move) :
    (play L.journaled { ledger := (t, []) } moves).Holds ShowsLatest :=
  (kept_showsLatest L).play (holds_new (by rintro _ _ ⟨⟩)) moves

/-! ## What is posted -/

/-- An order that is posted is about the bill that is shown, whatever name it was opened by. Once it
is taken, everything goes by the opened name. -/
theorem posted_of_live {L : Ledger σ} {r : Bill.Request} {s : Session (σ × List Exchange)}
    (hlive : s.IsLive) {name : String} {snap : Bill.Snapshot} {order : Order}
    {answer : Except LedgerError Unit} {rest : List Exchange}
    (hopen : s.desk.openBill? = some ⟨name, snap⟩)
    (hsent : (execute L.journaled r s).2.ledger.2 = s.ledger.2 ++ .told order answer :: rest) :
    ∃ b, snap = .loaded b ∧ order.fields.lookup "bill_name" = some b.name ∧
      (answer = .ok () →
        (∃ i bs a, rest = [.asked .identity i, .asked .bills bs, .asked (.bill name) a]) ∧
        (execute L.journaled r s).2.desk =
          (((s.desk.notify .success
              (r.action.label ++ " was submitted for bill " ++ name ++ ".")).recordAll
            (L.arrivals (Occasion.billActionSucceeded name).resources
              (L.obey order s.ledger.1).2).1).checkedFor name r.action).navigate .home) := by
  -- The journal has grown by an order, so neither a fault nor an instruction came of the request.
  rcases s.desk.refuses_or_passes r with ⟨fault, hfault⟩ | ⟨b, hb, ⟨i, hi⟩ | ⟨hpay, hbuy⟩⟩
  · rw [execute_of_fault hfault] at hsent
    simp at hsent
  · rw [(execute_of_instruction hb hi).2] at hsent
    simp at hsent
  obtain ⟨order', hsettle, _, hfields⟩ := Bill.Request.settle_of_sent hpay hbuy b
  have hlookup : order'.fields.lookup "bill_name" = some b.name := by
    rw [hfields, Bill.Request.lookup_formFields hpay hbuy]
  obtain ⟨name', hopen'⟩ := hb.shows.loaded
  obtain ⟨rfl, rfl⟩ := OpenBill.mk.inj (Option.some.inj (hopen.symm.trans hopen'))
  rcases hobey : (L.obey order' s.ledger.1).1 with e | _
  · have hrejected := execute_of_sent_rejected (L := L.journaled) hb hsettle hobey
    rw [hrejected, obey_journaled, hobey] at hsent
    simp only [List.append_cancel_left_eq, List.cons.injEq, Exchange.told.injEq] at hsent
    obtain ⟨⟨rfl, rfl⟩, rfl⟩ := hsent
    exact ⟨b, rfl, hlookup, by rintro ⟨⟩⟩
  · obtain ⟨name', hopen', htaken⟩ := execute_of_sent_taken (L := L.journaled) hb hsettle hobey
    obtain ⟨rfl, _⟩ := OpenBill.mk.inj (Option.some.inj (hopen.symm.trans hopen'))
    have htold : IsLive { s with
        ledger := (L.journaled.obey order' s.ledger).2, watch := s.watch.tick } := hlive.tick
    rw [htaken, afterSubmission_apply_of_live _ htold, arrivals_journaled, obey_journaled,
      hobey] at hsent ⊢
    simp only [List.append_assoc, List.append_cancel_left_eq, List.singleton_append,
      List.cons.injEq, Exchange.told.injEq] at hsent
    obtain ⟨⟨rfl, rfl⟩, rfl⟩ := hsent
    exact ⟨b, rfl, hlookup, fun _ => ⟨⟨_, _, _, rfl⟩, rfl⟩⟩

/-- In every run, an action on the open bill is posted with the name that the bill was opened by. -/
def PostsOpenedName (L : Ledger σ) : Prop :=
  ∀ (t : σ) (moves : List Move) (r : Bill.Request) (name : String) (snap : Bill.Snapshot)
    (order : Order) (answer : Except LedgerError Unit) (rest : List Exchange),
    (play L.journaled { ledger := (t, []) } moves).desk.openBill? = some ⟨name, snap⟩ →
    (execute L.journaled r (play L.journaled { ledger := (t, []) } moves)).2.ledger.2 =
      (play L.journaled { ledger := (t, []) } moves).ledger.2 ++ .told order answer :: rest →
    order.fields.lookup "bill_name" = some name

/-- A ledger that answers every query for a bill with the same bill. -/
def misnaming : Ledger Unit where
  answer
    | .peerId, t => (.ok ⟨"node"⟩, t)
    | .bill _, t => (.ok exampleBill, t)
    | _, t => (.error .noAnswer, t)
  obey _ t := (.ok (), t)

/-- The bill that is opened as "bill-1" is accepted as "bill-2". -/
theorem not_postsOpenedName_misnaming : ¬PostsOpenedName misnaming := by
  intro h
  have hname := h () [.start, .openBill "bill-1"] .accept "bill-1" (.loaded exampleBill)
    (.accept "bill-2") (.ok ()) [.asked .identity _, .asked .bills _, .asked (.bill "bill-1") _]
    rfl rfl
  revert hname
  decide

theorem kept_named {L : Ledger σ}
    (h : ∀ name t b, (L.answer (.bill name) t).1 = .ok b → b.name = name) :
    Kept L.journaled fun o _ => ∀ name b, o = some ⟨name, .loaded b⟩ → b.name = name where
  closed _ _ _ ho := by cases ho
  opened _ _ _ _ ho := by cases ho
  asked _ _ hI := hI
  shown := by
    intro name snap t _ name' b ho
    obtain ⟨rfl, hsnap⟩ := OpenBill.mk.inj (Option.some.inj ho)
    exact h _ _ b (Bill.Snapshot.ofAnswer_eq_loaded.1 hsnap)
  told _ hI := hI
  rejected hI _ _ := hI
  taken _ _ _ _ _ ho := by cases ho

/-- The names agree in every run when the ledger answers by the name that it is asked for. -/
theorem postsOpenedName_of_named {L : Ledger σ}
    (h : ∀ name t b, (L.answer (.bill name) t).1 = .ok b → b.name = name) :
    PostsOpenedName L := by
  intro t moves r name snap order answer rest hopen hsent
  obtain ⟨hlive, hnamed⟩ := (kept_named h).play (s := { ledger := (t, []) })
    (holds_new (by rintro _ _ ⟨⟩)) moves
  obtain ⟨b, rfl, hlookup, _⟩ := posted_of_live hlive hopen hsent
  rw [hlookup, hnamed name b hopen]

/-- For every ledger and every run, an action that is posted while a bill is open carries the name
inside the latest answer to the query for the opened name, which is the opened name exactly when the
ledger has answered so. Once the ledger has taken it, the notice, the fetching and the check whether
the ledger has caught up go by the opened name. -/
theorem posts_latest_answered_name (L : Ledger σ) (t : σ) (moves : List Move) (r : Bill.Request)
    {name : String} {snap : Bill.Snapshot} {order : Order} {answer : Except LedgerError Unit}
    {rest : List Exchange}
    (hopen : (play L.journaled { ledger := (t, []) } moves).desk.openBill? = some ⟨name, snap⟩)
    (hsent : (execute L.journaled r (play L.journaled { ledger := (t, []) } moves)).2.ledger.2 =
      (play L.journaled { ledger := (t, []) } moves).ledger.2 ++ .told order answer :: rest) :
    let s := play L.journaled { ledger := (t, []) } moves
    ∃ b, snap = .loaded b ∧ latestAnswer? name s.ledger.2 = some (.ok b) ∧
      order.fields.lookup "bill_name" = some b.name ∧
      (order.fields.lookup "bill_name" = some name ↔ b.name = name) ∧
      (answer = .ok () →
        (∃ i bs a, rest = [.asked .identity i, .asked .bills bs, .asked (.bill name) a]) ∧
        (execute L.journaled r s).2.desk =
          (((s.desk.notify .success
              (r.action.label ++ " was submitted for bill " ++ name ++ ".")).recordAll
            (L.arrivals (Occasion.billActionSucceeded name).resources
              (L.obey order s.ledger.1).2).1).checkedFor name r.action).navigate .home) := by
  obtain ⟨hlive, hlatest⟩ := holds_showsLatest L t moves
  obtain ⟨b, rfl, hlookup, htaken⟩ := posted_of_live hlive hopen hsent
  refine ⟨b, rfl, hlatest name b hopen, hlookup, ?_, htaken⟩
  rw [hlookup, Option.some.injEq]

theorem posts_latest_answered_name_misnaming :
    let s := play misnaming.journaled { ledger := ((), []) } [.start, .openBill "bill-1"]
    s.desk.openBill? = some ⟨"bill-1", .loaded exampleBill⟩ ∧
      latestAnswer? "bill-1" s.ledger.2 = some (.ok exampleBill) ∧
      (Order.accept "bill-2").fields.lookup "bill_name" = some exampleBill.name ∧
      exampleBill.name ≠ "bill-1" := by
  obtain ⟨b, hb, hlatest, hlookup, _⟩ := @posts_latest_answered_name Unit misnaming ()
    [.start, .openBill "bill-1"] .accept "bill-1" (.loaded exampleBill) (.accept "bill-2") (.ok ())
    [.asked .identity _, .asked .bills _, .asked (.bill "bill-1") _] rfl rfl
  cases hb
  exact ⟨rfl, hlatest, hlookup, by decide⟩

end Session

end BillDesk
