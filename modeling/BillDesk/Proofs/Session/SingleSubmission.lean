import BillDesk.Proofs.Session.Run

/-!
# No action is taken twice

The client shows what the ledger answered last, and fetches it again after every action that was
taken. So a flag that the ledger has set and never clears is seen before the next action, and the
rules then bar what it excludes. All that it takes is a ledger that sets the flag of the action it
takes, does not lose it, and answers with the bill as it is.

Results:
1. `kept_orderly`: whatever a ledger of this kind has taken is marked in its book, and the open bill
   shows the marks.
2. `submission_barred`: nothing is posted that a flag set before bars.
3. `submits_once`: at most one acceptance, request to accept, request to pay and sale is taken for a
   bill, and nothing is posted for it once it was sold.
-/

namespace BillDesk

namespace Bill

/-- The flags that stay once they are set. -/
def Flag.isLasting : Flag → Bool
  | .accepted | .requestedToAccept | .requestedToPay | .waitedForPayment => true
  | .payed | .pending | .endorsed => false

/-- The rules exclude the action on a bill with the flag. -/
def Flag.Bars (f : Flag) (a : Action) : Prop := ∀ s : Status, s.has f = true → a.allowedBy s = false

/-- An action that sets a lasting flag is not eligible any more. -/
theorem bars_of_expectedFlag? {a : Action} {f : Flag} (hf : a.expectedFlag? = some f)
    (hlasting : f.isLasting = true) : f.Bars a := by
  intro s hs
  cases a with
  | buy => cases hf
  | pay | endorse =>
    cases hf
    cases hlasting
  | accept | sell | requestToAccept | requestToPay =>
    cases hf
    simp_all [Status.has, Action.allowedBy]

theorem waitedForPayment_bars {a : Action} (h : a ≠ .buy) : Flag.waitedForPayment.Bars a := by
  intro s hs
  cases a with
  | buy => exact absurd rfl h
  | _ => simp_all [Status.has, Action.allowedBy]

end Bill

open Bill

theorem Order.submission?_ne_buy {o : Order} {a : Action} {name : String}
    (h : o.submission? = some (a, name)) : a ≠ .buy := by
  cases o <;> cases h <;> decide

/-! ## What was posted and taken -/

namespace Exchange

/-- The action that was posted and the name of the bill, whatever the answer. -/
def submission? : Exchange → Option (Action × String)
  | told order _ => order.submission?
  | asked .. => none

/-- The ledger took the action on the bill of that name. -/
def takes (a : Action) (name : String) : Exchange → Bool
  | told order (.ok ()) => order.submission? = some (a, name)
  | _ => false

theorem takes_told_iff {a : Action} {name : String} {order : Order}
    {answer : Except LedgerError Unit} :
    (told order answer).takes a name = true ↔
      answer = .ok () ∧ order.submission? = some (a, name) := by
  cases answer <;> simp [takes]

theorem submission?_of_takes {a : Action} {name : String} {e : Exchange}
    (h : e.takes a name = true) : e.submission? = some (a, name) := by
  cases e with
  | asked query answer => cases h
  | told order answer => exact (takes_told_iff.1 h).2

/-- The earlier exchange took an action on the bill that left the flag for good. -/
def Leaves (e : Exchange) (name : String) (f : Flag) : Prop :=
  ∃ a, e.takes a name = true ∧ a.expectedFlag? = some f ∧ f.isLasting = true

/-- The later exchange posts nothing that a flag of the earlier one bars. -/
def Respects (earlier later : Exchange) : Prop :=
  ∀ name f a, earlier.Leaves name f → f.Bars a → later.submission? ≠ some (a, name)

theorem not_leaves_asked {q : Query} {answer : Except LedgerError q.Answer} {name : String}
    {f : Flag} : ¬(asked q answer).Leaves name f := by
  rintro ⟨a, h, _⟩
  cases h

theorem not_leaves_of_submission? {order : Order} {answer : Except LedgerError Unit}
    (h : order.submission? = none) {name : String} {f : Flag} :
    ¬(told order answer).Leaves name f := by
  rintro ⟨a, ha, _⟩
  rw [takes_told_iff, h] at ha
  cases ha.2

theorem respects_of_submission? {earlier later : Exchange} (h : later.submission? = none) :
    earlier.Respects later := by
  intro name f a _ _ hsub
  rw [h] at hsub
  cases hsub

end Exchange

/-- Something that was taken on the bill has left the flag for good. -/
def Left (journal : List Exchange) (name : String) (f : Flag) : Prop :=
  ∃ e ∈ journal, e.Leaves name f

theorem Left.isLasting {journal : List Exchange} {name : String} {f : Flag}
    (h : Left journal name f) : f.isLasting = true := by
  obtain ⟨_, _, _, _, _, hlasting⟩ := h
  exact hlasting

theorem left_snoc {journal : List Exchange} {e : Exchange} {name : String} {f : Flag} :
    Left (journal ++ [e]) name f ↔ Left journal name f ∨ e.Leaves name f := by
  simp only [Left, List.mem_append, List.mem_singleton]
  constructor
  · rintro ⟨x, hx | rfl, hleaves⟩
    · exact .inl ⟨x, hx, hleaves⟩
    · exact .inr hleaves
  · rintro (⟨x, hx, hleaves⟩ | hleaves)
    · exact ⟨x, .inl hx, hleaves⟩
    · exact ⟨e, .inr rfl, hleaves⟩

/-! ## Ledgers that keep their word -/

variable {σ : Type}

/-- The bill of that name is on the book, with the flag. -/
def Flagged (book : String → σ → Option Bill) (name : String) (f : Flag) (t : σ) : Prop :=
  ∃ b, book name t = some b ∧ b.status.has f = true

/-- A ledger with a book of its bills. What it answers for a bill is on the book, as it was before
the call or after it. The action that it takes is marked on the book, and a lasting flag is never
cleared. Anything else may happen to the bills at any time, on behalf of others. -/
structure Sound (L : Ledger σ) (book : String → σ → Option Bill) : Prop where
  named {name t b} : book name t = some b → b.name = name
  answers {name t b} : (L.answer (.bill name) t).1 = .ok b →
    book name t = some b ∨ book name (L.answer (.bill name) t).2 = some b
  marks {order t a name f} : (L.obey order t).1 = .ok () → order.submission? = some (a, name) →
    a.expectedFlag? = some f → Flagged book name f (L.obey order t).2
  lasts_answer {q name f t} : f.isLasting = true → Flagged book name f t →
    Flagged book name f (L.answer q t).2
  lasts_obey {order name f t} : f.isLasting = true → Flagged book name f t →
    Flagged book name f (L.obey order t).2

theorem Flagged.has {book : String → σ → Option Bill} {name : String} {f : Flag} {t : σ}
    {b : Bill} (h : Flagged book name f t) (hb : book name t = some b) :
    b.status.has f = true := by
  obtain ⟨b', hb', hf⟩ := h
  rw [hb] at hb'
  cases hb'
  exact hf

/-! ### An example -/

/-- The status with a flag set. -/
def Bill.Status.mark (s : Status) : Flag → Status
  | .accepted => { s with accepted := true }
  | .payed => { s with payed := true }
  | .pending => { s with pending := true }
  | .endorsed => { s with endorsed := true }
  | .requestedToAccept => { s with requestedToAccept := true }
  | .requestedToPay => { s with requestedToPay := true }
  | .waitedForPayment => { s with waitedForPayment := true }

def shelf (name : String) (t : Status) : Option Bill :=
  if name = exampleBill.name then some { exampleBill with status := t } else none

/-- A ledger with one bill, that takes every action on it and marks it. -/
def registry : Ledger Status where
  answer
    | .peerId, t => (.ok ⟨"node"⟩, t)
    | .bill name, t =>
        match shelf name t with
        | some b => (.ok b, t)
        | none => (.error .noAnswer, t)
    | _, t => (.error .noAnswer, t)
  obey order t :=
    match order.submission? with
    | some (a, name) =>
        if name = exampleBill.name then (.ok (), (a.expectedFlag?.map t.mark).getD t)
        else (.error .noAnswer, t)
    | none => (.error .noAnswer, t)

theorem Bill.Status.has_mark (s : Status) (f : Flag) : (s.mark f).has f = true := by cases f <;> rfl

theorem Bill.Status.has_mark_of_has {s : Status} {f : Flag} (h : s.has f = true) (f' : Flag) :
    (s.mark f').has f = true := by
  cases f <;> cases f' <;> first | exact h | rfl

theorem flagged_shelf_iff {name : String} {f : Flag} {t : Status} :
    Flagged shelf name f t ↔ name = exampleBill.name ∧ t.has f = true := by
  unfold Flagged shelf
  constructor
  · rintro ⟨b, hb, hf⟩
    split at hb
    · next hname =>
      cases hb
      exact ⟨hname, hf⟩
    · cases hb
  · rintro ⟨rfl, hf⟩
    exact ⟨{ exampleBill with status := t }, if_pos rfl, hf⟩

theorem registry_answer_snd (q : Query) (t : Status) : (registry.answer q t).2 = t := by
  cases q with
  | bill name =>
    simp only [registry]
    split <;> rfl
  | _ => rfl

/-- What the registry takes is an action on its bill, which is marked. -/
theorem registry_obey (order : Order) (t : Status) :
    ((∃ e, (registry.obey order t).1 = .error e) ∧ (registry.obey order t).2 = t) ∨
      ∃ a, order.submission? = some (a, exampleBill.name) ∧
        (registry.obey order t).2 = (a.expectedFlag?.map t.mark).getD t := by
  simp only [registry]
  rcases order.submission? with _ | ⟨a, name⟩
  · exact .inl ⟨⟨_, rfl⟩, rfl⟩
  · by_cases hname : name = exampleBill.name
    · exact .inr ⟨a, by rw [hname], by simp [hname]⟩
    · exact .inl (by simp [hname])

theorem sound_registry : Sound registry shelf where
  named := by
    intro name t b hb
    unfold shelf at hb
    split at hb
    · next hname =>
      cases hb
      exact hname.symm
    · cases hb
  answers := by
    intro name t b hanswer
    simp only [registry] at hanswer
    split at hanswer
    · next b' hb' =>
      cases hanswer
      exact .inl hb'
    · cases hanswer
  marks := by
    intro order t a name f hobey hsub hf
    rcases registry_obey order t with ⟨⟨e, he⟩, _⟩ | ⟨a', hsub', ht⟩
    · rw [he] at hobey
      cases hobey
    · cases hsub.symm.trans hsub'
      rw [flagged_shelf_iff, ht, hf]
      exact ⟨rfl, t.has_mark f⟩
  lasts_answer := by
    intro q name f t _ hflagged
    rwa [registry_answer_snd]
  lasts_obey := by
    intro order name f t _ hflagged
    rw [flagged_shelf_iff] at hflagged ⊢
    refine ⟨hflagged.1, ?_⟩
    rcases registry_obey order t with ⟨_, ht⟩ | ⟨a, _, ht⟩
    · rw [ht]
      exact hflagged.2
    · rw [ht]
      cases a.expectedFlag? with
      | none => exact hflagged.2
      | some f' => exact Status.has_mark_of_has hflagged.2 f'

namespace Session

/-! ## What a run keeps -/

variable {L : Ledger σ} {book : String → σ → Option Bill}

/-- Every exchange respects those before it, what was taken is marked on the book, and a bill that
is shown has its own name and the marks. -/
structure Orderly (book : String → σ → Option Bill) (o : Option OpenBill)
    (t : σ × List Exchange) : Prop where
  respects : t.2.Pairwise Exchange.Respects
  marked : ∀ name f, Left t.2 name f → Flagged book name f t.1
  named : ∀ name b, o = some ⟨name, .loaded b⟩ → b.name = name
  seen : ∀ name b, o = some ⟨name, .loaded b⟩ → ∀ f, Left t.2 name f → b.status.has f = true

theorem pairwise_snoc {α : Type} {R : α → α → Prop} {l : List α} {a : α}
    (h : l.Pairwise R) (ha : ∀ x ∈ l, R x a) : (l ++ [a]).Pairwise R := by
  rw [List.pairwise_append]
  refine ⟨h, List.pairwise_singleton R a, ?_⟩
  intro x hx y hy
  rw [List.mem_singleton.1 hy]
  exact ha x hx

/-- What is posted by an orderly session respects what was posted before. -/
theorem Orderly.respects_sent {name : String} {b : Bill} {t : σ × List Exchange}
    (h : Orderly book (some ⟨name, .loaded b⟩) t) {r : Bill.Request} {peer : PeerId}
    {order : Order} (hdecide : r.decide b peer = .ok (.send order))
    (answer : Except LedgerError Unit) (e : Exchange) (he : e ∈ t.2) :
    e.Respects (.told order answer) := by
  obtain ⟨heligible, hsettle⟩ := Bill.Request.mem_eligibleActions_of_decide hdecide
  intro name' f a hleaves hbars hsub
  cases (Bill.Request.submission?_of_settle hsettle).symm.trans hsub
  -- The order goes by the name inside the bill. Its marks show under the name that was opened.
  rw [h.named name b rfl] at hleaves
  have hallowed := (mem_eligibleActions.1 heligible).2.2
  rw [hbars b.status (h.seen name b rfl f ⟨e, he, hleaves⟩)] at hallowed
  cases hallowed

/-- One more exchange keeps a session orderly when it respects the journal, clears no lasting flag
and marks what it takes, and when the bill that is shown after it has the marks. -/
theorem Orderly.snoc {o o' : Option OpenBill} {t : σ × List Exchange} (h : Orderly book o t)
    {t' : σ} {e : Exchange} (hrespects : ∀ x ∈ t.2, x.Respects e)
    (hlasts : ∀ name f, f.isLasting = true → Flagged book name f t.1 → Flagged book name f t')
    (hmarked : ∀ name f, e.Leaves name f → Flagged book name f t')
    (hnamed : ∀ name b, o' = some ⟨name, .loaded b⟩ → b.name = name)
    (hseen : ∀ name b, o' = some ⟨name, .loaded b⟩ →
      ∀ f, Left (t.2 ++ [e]) name f → b.status.has f = true) :
    Orderly book o' (t', t.2 ++ [e]) where
  respects := pairwise_snoc h.respects hrespects
  marked := by
    intro name f hleft
    rcases left_snoc.1 hleft with hleft | hleaves
    · exact hlasts name f hleft.isLasting (h.marked name f hleft)
    · exact hmarked name f hleaves
  named := hnamed
  seen := hseen

/-- An exchange in which nothing was taken is nothing that the open bill would have to show. -/
theorem Orderly.snoc_of_not_leaves {o : Option OpenBill} {t : σ × List Exchange}
    (h : Orderly book o t) {t' : σ} {e : Exchange} (hrespects : ∀ x ∈ t.2, x.Respects e)
    (hlasts : ∀ name f, f.isLasting = true → Flagged book name f t.1 → Flagged book name f t')
    (he : ∀ name f, ¬e.Leaves name f) : Orderly book o (t', t.2 ++ [e]) := by
  refine h.snoc hrespects hlasts (fun name f hleaves => absurd hleaves (he name f)) h.named ?_
  intro name b ho f hleft
  rcases left_snoc.1 hleft with hleft | hleaves
  · exact h.seen name b ho f hleft
  · exact absurd hleaves (he name f)

/-- A bill that the ledger answers now has all the marks. -/
theorem Orderly.seen_answer (hL : Sound L book) {o : Option OpenBill} {t : σ × List Exchange}
    (h : Orderly book o t) {name : String} {b : Bill}
    (hanswer : (L.answer (.bill name) t.1).1 = .ok b) {f : Flag} (hleft : Left t.2 name f) :
    b.status.has f = true := by
  have hflagged := h.marked name f hleft
  rcases hL.answers hanswer with hb | hb
  · exact hflagged.has hb
  · exact (hL.lasts_answer hleft.isLasting hflagged).has hb

theorem kept_orderly (hL : Sound L book) : Kept L.journaled (Orderly book) where
  closed h := ⟨h.respects, h.marked, by rintro _ _ ⟨⟩, by rintro _ _ ⟨⟩⟩
  opened _ h := ⟨h.respects, h.marked, by rintro _ _ ⟨⟩, by rintro _ _ ⟨⟩⟩
  asked q _ h := h.snoc_of_not_leaves (fun _ _ => Exchange.respects_of_submission? rfl)
    (fun _ _ => hL.lasts_answer) fun _ _ => Exchange.not_leaves_asked
  shown := by
    intro name snap t h
    refine h.snoc (fun _ _ => Exchange.respects_of_submission? rfl) (fun _ _ => hL.lasts_answer)
      (fun _ _ hleaves => absurd hleaves Exchange.not_leaves_asked) ?_ ?_
    · intro name' b ho
      obtain ⟨rfl, hsnap⟩ := OpenBill.mk.inj (Option.some.inj ho)
      rcases hL.answers (Snapshot.ofAnswer_eq_loaded.1 hsnap) with hb | hb <;> exact hL.named hb
    · intro name' b ho f hleft
      obtain ⟨rfl, hsnap⟩ := OpenBill.mk.inj (Option.some.inj ho)
      rcases left_snoc.1 hleft with hleft | hleaves
      · exact h.seen_answer hL (Snapshot.ofAnswer_eq_loaded.1 hsnap) hleft
      · exact absurd hleaves Exchange.not_leaves_asked
  told hnone h := h.snoc_of_not_leaves (fun _ _ => Exchange.respects_of_submission? hnone)
    (fun _ _ => hL.lasts_obey) fun _ _ => Exchange.not_leaves_of_submission? hnone
  rejected := by
    intro name b t e r peer order h hdecide hobey
    refine h.snoc_of_not_leaves (h.respects_sent hdecide _) (fun _ _ => hL.lasts_obey) ?_
    rintro name' f ⟨a, htakes, _⟩
    rw [obey_journaled] at hobey
    rw [Exchange.takes_told_iff, hobey] at htakes
    cases htakes.1
  taken := by
    -- Nothing is shown until the bill is fetched again, so the mark need not be seen yet.
    intro name b t r peer order h hdecide hobey
    refine h.snoc (h.respects_sent hdecide _) (fun _ _ => hL.lasts_obey) ?_
      (by rintro _ _ ⟨⟩) (by rintro _ _ ⟨⟩)
    rintro name' f ⟨a, htakes, hf, _⟩
    exact hL.marks hobey (Exchange.takes_told_iff.1 htakes).2 hf

/-- After every run, each exchange respects those before it. -/
theorem pairwise_respects_play (hL : Sound L book) (t : σ) (moves : List Move) :
    (play L.journaled { ledger := (t, []) } moves).ledger.2.Pairwise Exchange.Respects := by
  have hnew : Orderly book none (t, []) :=
    ⟨List.Pairwise.nil, by rintro _ _ ⟨_, ⟨⟩, _⟩, by rintro _ _ ⟨⟩, by rintro _ _ ⟨⟩⟩
  exact ((kept_orderly hL).play (holds_new hnew) moves).2.respects

/-! ## At most once -/

theorem countP_takes_le_one {journal : List Exchange} (h : journal.Pairwise Exchange.Respects)
    {a : Action} {f : Flag} (hf : a.expectedFlag? = some f) (hlasting : f.isLasting = true)
    (name : String) : journal.countP (·.takes a name) ≤ 1 := by
  induction journal with
  | nil => simp
  | cons e journal ih =>
    obtain ⟨he, hjournal⟩ := List.pairwise_cons.1 h
    by_cases htakes : e.takes a name = true
    · have hnone : journal.countP (·.takes a name) = 0 := by
        rw [List.countP_eq_zero]
        intro x hx htakes'
        exact he x hx name f a ⟨a, htakes, hf, hlasting⟩ (bars_of_expectedFlag? hf hlasting)
          (Exchange.submission?_of_takes htakes')
      apply Nat.le_of_eq
      rw [List.countP_cons_of_pos htakes, hnone]
    · rw [List.countP_cons_of_neg htakes]
      exact ih hjournal

/-- What was taken on a bill bars what comes later. -/
theorem submission_barred {journal : List Exchange} (h : journal.Pairwise Exchange.Respects)
    {earlier later : List Exchange} {e : Exchange} (heq : journal = earlier ++ e :: later)
    {name : String} {f : Flag} (hleaves : e.Leaves name f) {a : Action} (hbars : f.Bars a) :
    ∀ x ∈ later, x.submission? ≠ some (a, name) := by
  intro x hx
  rw [heq, List.pairwise_append] at h
  exact (List.pairwise_cons.1 h.2.1).1 x hx name f a hleaves hbars

/-- In every run with a ledger that keeps its word, each bill is accepted at most once, is requested
to be accepted and to be paid at most once each, and is sold at most once. Once it was sold, nothing
is posted for it any more. -/
theorem submits_once (hL : Sound L book) (t : σ) (moves : List Move) (name : String) :
    let journal := (play L.journaled { ledger := (t, []) } moves).ledger.2
    journal.countP (·.takes .accept name) ≤ 1 ∧
    journal.countP (·.takes .requestToAccept name) ≤ 1 ∧
    journal.countP (·.takes .requestToPay name) ≤ 1 ∧
    journal.countP (·.takes .sell name) ≤ 1 ∧
    ∀ earlier sale later, journal = earlier ++ sale :: later → sale.takes .sell name = true →
      ∀ e ∈ later, ∀ a, e.submission? ≠ some (a, name) := by
  intro journal
  have h : journal.Pairwise Exchange.Respects := pairwise_respects_play hL t moves
  refine ⟨countP_takes_le_one h rfl rfl name, countP_takes_le_one h rfl rfl name,
    countP_takes_le_one h rfl rfl name, countP_takes_le_one h rfl rfl name, ?_⟩
  intro earlier sale later heq hsale e he a hsub
  have hbuy : a ≠ .buy := by
    cases e with
    | asked query answer => cases hsub
    | told order answer => exact Order.submission?_ne_buy hsub
  exact submission_barred h heq ⟨.sell, hsale, rfl, rfl⟩ (waitedForPayment_bars hbuy) e he hsub

/-- The bill is accepted once, however often it is tried. -/
theorem submits_once_registry :
    let journal := (play registry.journaled { ledger := ({}, []) }
      [.start, .openBill "bill-2", .execute .accept, .execute .accept]).ledger.2
    Sound registry shelf ∧ journal.countP (·.takes .accept "bill-2") = 1 ∧
      journal.countP (·.takes .sell "bill-2") ≤ 1 := by
  obtain ⟨_, _, _, hsell, _⟩ := submits_once sound_registry {}
    [.start, .openBill "bill-2", .execute .accept, .execute .accept] "bill-2"
  exact ⟨sound_registry, by rfl, hsell⟩

end Session

end BillDesk
