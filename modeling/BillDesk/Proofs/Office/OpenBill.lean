import BillDesk.Proofs.Office.Basic
import BillDesk.Proofs.Session.Run

/-!
# The open bill while others work

Several views open bills, each under a scope of its own, and their fetches are under way together.
What is shown of the open bill comes from a fetch for that very name: an answer carries the name
that it was asked for, and a bill that is opened is loading until an answer for it is written. What
arrives for a view that has fallen is dropped.

The scope is looked at when the answer arrives, and not again when it is written. An answer whose
scope falls in between is shown all the same.

Results:
1. `askedFor_of_underWay` and `handedBack_of_handed`: what is under way was asked for by a view that
   stood then, and so was what waits to be written, for which it still stood.
2. `shows_play`: the open bill was opened last, and it is loading or shows what was written for it.
3. `exists_play_eq_openBill`: what a session does to open a bill is a run of the office.
4. `showsStandingAnswer_iff`: in which runs the view stands when what is shown is written.
5. `open_bill_shows_own_answer`: all of it; `not_showsStandingAnswer_lateFall` for a scope that
   falls while an answer waits.
-/

namespace BillDesk

/-- An answer, whichever it is, ends the loading. -/
theorem Bill.Snapshot.ofAnswer_settled (answer : Except LedgerError Bill) :
    (∃ b, Bill.Snapshot.ofAnswer answer = .loaded b) ∨
      ∃ reason, Bill.Snapshot.ofAnswer answer = .unavailable reason := by
  cases answer with
  | ok b => exact .inl ⟨b, rfl⟩
  | error e => exact .inr ⟨e.message, rfl⟩

namespace Office

namespace Event

def opened? : Event → Option String
  | openBill name => some name
  | _ => none

/-- A bill is opened or closed. -/
def turns : Event → Bool
  | openBill _ | closeBill => true
  | _ => false

theorem opened?_of_not_turns {e : Event} (h : e.turns = false) : e.opened? = none := by
  cases e with
  | openBill => cases h
  | _ => rfl

end Event

/-! ## What is under way, and what waits -/

/-- The resource was asked for under the token, for a view that stood. -/
def AskedFor (es : List Event) (f : Fetch) : Prop :=
  ∃ before after, es = before ++ .ask f.token f.resource :: after ∧
    (({} : Office).play before).Stands f.token

theorem AskedFor.snoc {es : List Event} {f : Fetch} (h : AskedFor es f) (e : Event) :
    AskedFor (es ++ [e]) f := by
  obtain ⟨before, after, rfl, hstands⟩ := h
  exact ⟨before, after ++ [e], by simp, hstands⟩

/-- Nothing is under way that was not asked for. -/
theorem askedFor_of_underWay {es : List Event} {f : Fetch}
    (h : f ∈ (({} : Office).play es).underWay) : AskedFor es f := by
  induction es using List.reverseRecOn with
  | nil => cases h
  | append_singleton es e ih =>
    rw [play_snoc] at h
    cases e with
    | ask token r =>
      simp only [step] at h
      split at h
      · exact (ih h).snoc _
      · next hstands =>
        rcases List.mem_append.1 h with hbefore | hnew
        · exact (ih hbefore).snoc _
        · rw [List.mem_singleton.1 hnew]
          exact ⟨es, [], rfl, stands_iff.2 (Bool.not_eq_true _ ▸ hstands)⟩
    | arrive token a =>
      simp only [step] at h
      split at h
      · exact (ih (List.mem_of_mem_erase h)).snoc _
      · exact (ih h).snoc _
    | write place =>
      simp only [step] at h
      split at h <;> exact (ih h).snoc _
    | _ => exact (ih h).snoc _

/-- The answer arrived under the token, for a fetch that was under way and a view that stood. -/
def HandedBack (es : List Event) (d : Delivery) : Prop :=
  ∃ before after, es = before ++ .arrive d.token d.arrival :: after ∧
    ⟨d.arrival.resource, d.token⟩ ∈ (({} : Office).play before).underWay ∧
    (({} : Office).play before).Stands d.token

/-- Nothing waits that was not handed back. -/
theorem handedBack_of_handed {es : List Event} {d : Delivery}
    (h : d ∈ (({} : Office).play es).handed) : HandedBack es d := by
  induction es using List.reverseRecOn with
  | nil => cases h
  | append_singleton es e ih =>
    rw [play_snoc] at h
    rcases mem_handed_step h with hbefore | hback
    · obtain ⟨before, after, rfl, hunderWay, hstands⟩ := ih hbefore
      exact ⟨before, after ++ [e], by simp, hunderWay, hstands⟩
    · obtain ⟨rfl, hunderWay, hstands⟩ := handedBack?_eq_some_iff.1 hback
      exact ⟨es, [], rfl, hunderWay, hstands⟩

/-! ## The course of an answer -/

/-- The course of an answer about a bill: what happened before it was asked for, while it was under
way, while it waited to be written, and since then. -/
structure Course where
  name : String
  answer : Except LedgerError Bill
  token : Nat
  /-- Where it waits when it is written. -/
  place : Nat
  before : List Event
  underWay : List Event
  waiting : List Event
  since : List Event

namespace Course

def untilArrived (c : Course) : List Event :=
  c.before ++ .ask c.token (.openBill c.name) :: c.underWay

def untilWritten (c : Course) : List Event :=
  c.untilArrived ++ .arrive c.token ⟨.openBill c.name, c.answer⟩ :: c.waiting

def run (c : Course) : List Event := c.untilWritten ++ .write c.place :: c.since

/-- In the run, what is shown comes from the answer. The view stood when it was asked for and when
it arrived, and no bill was opened or closed since it was written. -/
structure Shows (c : Course) (es : List Event) (o : OpenBill) : Prop where
  run : es = c.run
  shown : o = ⟨c.name, .ofAnswer c.answer⟩
  asked : (({} : Office).play c.before).Stands c.token
  arrived : (({} : Office).play c.untilArrived).Stands c.token
  written : (({} : Office).play c.untilWritten).handed[c.place]? =
    some ⟨c.token, .openBill c.name, c.answer⟩
  kept : ∀ e ∈ c.since, e.turns = false

/-- The scope fell while the answer waited to be written. -/
def FallsWaiting (c : Course) : Prop :=
  ∃ e, .fall e ∈ c.waiting ∧
    (({} : Office).play c.untilArrived).scopes.tokens[c.token]? = some e.scope

/-- The view stands when the answer is written, unless its scope fell while the answer waited. -/
theorem Shows.stands_iff {c : Course} {es : List Event} {o : OpenBill} (h : c.Shows es o) :
    (({} : Office).play c.untilWritten).Stands c.token ↔ ¬ c.FallsWaiting := by
  obtain ⟨scope, hbelongs⟩ := h.arrived.belongs
  rw [untilWritten, play_append, stands_play_iff hbelongs, FallsWaiting, hbelongs.token]
  simp [h.arrived, eq_comm]

end Course

/-! ## What is shown -/

/-- The bill was opened last. It is loading, or it shows an answer for its name. -/
structure Shows (es : List Event) (o : OpenBill) : Prop where
  opened : lastWritten Event.opened? es = some o.name
  answered : o.snapshot = .loading ∨ ∃ c : Course, c.Shows es o

theorem Shows.snoc {es : List Event} {o : OpenBill} (h : Shows es o) {e : Event}
    (he : e.turns = false) : Shows (es ++ [e]) o := by
  refine ⟨?_, h.answered.imp_right ?_⟩
  · rw [lastWritten_snoc, Event.opened?_of_not_turns he, h.opened]
    rfl
  · rintro ⟨c, hc⟩
    refine ⟨{ c with since := c.since ++ [e] }, ?_, hc.shown, hc.asked, hc.arrived, hc.written, ?_⟩
    · rw [hc.run]
      exact List.append_assoc c.untilWritten (.write c.place :: c.since) [e]
    · intro x hx
      rcases List.mem_append.1 hx with hx | hx
      · exact hc.kept x hx
      · rwa [List.mem_singleton.1 hx]

/-- What is shown after a writing was shown before, or it is what was written. -/
theorem shows_write {es : List Event} {place : Nat} {d : Delivery} {o : OpenBill}
    (ih : ∀ {o}, (({} : Office).play es).desk.openBill? = some o → Shows es o)
    (hd : (({} : Office).play es).handed[place]? = some d)
    (h : (d.arrival.resource.record (({} : Office).play es).desk d.arrival.answer).openBill? =
      some o) : Shows (es ++ [.write place]) o := by
  rcases d with ⟨token, r, answer⟩
  cases r with
  | identity | peerId | contacts | bills =>
    rw [Session.openBill?_record (by simp)] at h
    exact (ih h).snoc rfl
  | openBill name =>
    rw [Session.openBill?_record_openBill, Option.map_eq_some_iff] at h
    obtain ⟨o', hopen, hshown⟩ := h
    split at hshown
    · next hname =>
      subst hname hshown
      refine ⟨((ih hopen).snoc (e := .write place) rfl).opened, .inr ?_⟩
      obtain ⟨arriving, waiting, rfl, hunderWay, hstands⟩ :=
        handedBack_of_handed (List.mem_of_getElem? hd)
      obtain ⟨before, underWay, rfl, hasked⟩ := askedFor_of_underWay hunderWay
      exact ⟨⟨o'.name, answer, token, place, before, underWay, waiting, []⟩, rfl, rfl, hasked,
        hstands, hd, by simp⟩
    · rw [← hshown]
      exact (ih hopen).snoc rfl

theorem shows_play {es : List Event} {o : OpenBill}
    (h : (({} : Office).play es).desk.openBill? = some o) : Shows es o := by
  induction es using List.reverseRecOn generalizing o with
  | nil => cases h
  | append_singleton es e ih =>
    rw [play_snoc] at h
    cases e with
    | openBill name =>
      cases h
      refine ⟨?_, .inl rfl⟩
      rw [lastWritten_snoc]
      rfl
    | closeBill => cases h
    | ask token r =>
      simp only [step] at h
      split at h <;> exact (ih h).snoc rfl
    | arrive token a =>
      simp only [step] at h
      split at h <;> exact (ih h).snoc rfl
    | write place =>
      simp only [step] at h
      split at h
      · next hd => exact shows_write ih hd h
      · exact (ih h).snoc rfl
    | _ => exact (ih h).snoc rfl

/-! ## Views that stand when their answers are written -/

/-- What is shown was opened last, and it is loading or comes from an answer for its name, for a
view that stood when the answer was written. -/
def ShowsStandingAnswer (es : List Event) : Prop :=
  ∀ o, (({} : Office).play es).desk.openBill? = some o →
    lastWritten Event.opened? es = some o.name ∧
    (o.snapshot ≠ .loading → ∃ c : Course, c.Shows es o ∧
      (({} : Office).play c.untilWritten).Stands c.token)

/-- No scope falls while an answer for its view waits to be written. -/
def Prompt (es : List Event) : Prop :=
  ∀ before e after, es = before ++ .fall e :: after →
    ∀ d ∈ (({} : Office).play before).handed,
      (({} : Office).play before).scopes.tokens[d.token]? ≠ some e.scope

/-- In a run in which no scope falls while an answer waits, none fell while the shown answer did. -/
theorem Prompt.not_fallsWaiting {es : List Event} (h : Prompt es) {c : Course} {o : OpenBill}
    (hc : c.Shows es o) : ¬ c.FallsWaiting := by
  rintro ⟨e, he, htoken⟩
  obtain ⟨scope, hbelongs⟩ := hc.arrived.belongs
  obtain rfl : scope = e.scope := by simpa [hbelongs.token] using htoken
  obtain ⟨sooner, later, hwaiting⟩ := List.append_of_mem he
  let arrived : Event := .arrive c.token ⟨.openBill c.name, c.answer⟩
  let falling := c.untilArrived ++ arrived :: sooner
  have huntil : c.untilWritten = falling ++ .fall e :: later := by
    rw [Course.untilWritten, hwaiting, List.append_assoc]
    rfl
  have hthere : (({} : Office).play falling).scopes.Belongs c.token e.scope := by
    rw [play_append]
    exact belongs_play hbelongs _
  have hfallen := hasFallen_step_fall hthere rfl
  -- What is written waited already when the scope fell.
  have hwritten := List.mem_of_getElem? hc.written
  rw [huntil, play_append, play_cons] at hwritten
  have hwaits := mem_handed_of_hasFallen hfallen rfl hwritten
  have hrun : es = falling ++ .fall e :: (later ++ .write c.place :: c.since) := by
    rw [hc.run, Course.run, huntil, List.append_assoc]
    rfl
  exact h falling e _ hrun _ hwaits hthere.token

/-- The view stands when its answer is written exactly if its scope does not fall while the answer
waits. -/
theorem showsStandingAnswer_iff {es : List Event} : ShowsStandingAnswer es ↔
    ∀ o, (({} : Office).play es).desk.openBill? = some o → o.snapshot ≠ .loading →
      ∃ c : Course, c.Shows es o ∧ ¬ c.FallsWaiting := by
  refine forall_congr' fun o => forall_congr' fun hopen => ?_
  rw [and_iff_right (shows_play hopen).opened]
  exact imp_congr_right fun _ => exists_congr fun c => and_congr_right fun hc => hc.stands_iff

theorem Prompt.showsStandingAnswer {es : List Event} (h : Prompt es) : ShowsStandingAnswer es := by
  rw [showsStandingAnswer_iff]
  intro o hopen hsettled
  obtain ⟨c, hc⟩ := (shows_play hopen).answered.resolve_left hsettled
  exact ⟨c, hc, h.not_fallsWaiting hc⟩

/-- What is written about a bill shows if that bill is open, and is dropped otherwise. Whether the
view still stands does not matter. -/
theorem openBill?_write {s : Office} {place token : Nat} {name : String}
    {answer : Except LedgerError Bill}
    (h : s.handed[place]? = some ⟨token, .openBill name, answer⟩) :
    (s.step (.write place)).desk.openBill? =
      s.desk.openBill?.map fun o => if o.name = name then ⟨name, .ofAnswer answer⟩ else o := by
  rw [step_write h]
  exact Session.openBill?_record_openBill _ name answer

/-! ## Opening a bill alone -/

/-- A view opens a bill, its scope may fall meanwhile, the answer arrives, and what waits at the
place is written. -/
def opening (token : Nat) (name : String) (falls : List Scopes.Event)
    (answer : Except LedgerError Bill) (place : Nat) : List Event :=
  [.openBill name, .navigate (.bill name), .ask token (.openBill name)] ++ falls.map .fall ++
    [.arrive token ⟨.openBill name, answer⟩, .write place]

theorem play_falls (s : Office) (falls : List Scopes.Event) :
    s.play (falls.map .fall) = { s with scopes := falls.foldl Scopes.apply s.scopes } := by
  induction falls generalizing s with
  | nil => rfl
  | cons e falls ih => exact ih (s.step (.fall e))

/-- The answer is written if the view stands still when it arrives. -/
theorem desk_opening {s : Office} {token : Nat} (h : s.Stands token) (name : String)
    (falls : List Scopes.Event) (answer : Except LedgerError Bill) :
    let opened := (s.desk.openBill name).navigate (.bill name)
    (s.play (opening token name falls answer s.handed.length)).desk =
      if (falls.foldl Scopes.apply s.scopes).isCancelled token then opened
      else (Resource.openBill name).record opened answer := by
  intro opened
  have hopened : Stands { s with desk := opened } token := h
  have hasked : s.play [.openBill name, .navigate (.bill name), .ask token (.openBill name)] =
      { s with desk := opened, underWay := s.underWay ++ [⟨.openBill name, token⟩] } :=
    step_ask hopened _
  rw [opening, play_append, play_append, hasked, play_falls]
  show (step (step _ (.arrive token ⟨.openBill name, answer⟩)) (.write s.handed.length)).desk = _
  cases hcancelled : (falls.foldl Scopes.apply s.scopes).isCancelled token with
  | true => simp [step, hcancelled]
  | false => simp [step, hcancelled]

/-- Under a token that is cancelled nothing is asked, and an answer would be dropped. -/
theorem desk_opening_of_not_stands {s : Office} {token : Nat} (h : ¬ s.Stands token) (name : String)
    (answer : Except LedgerError Bill) :
    (s.play (opening token name [] answer s.handed.length)).desk =
      (s.desk.openBill name).navigate (.bill name) := by
  let opened : Office := { s with desk := (s.desk.openBill name).navigate (.bill name) }
  let late : Arrival := ⟨.openBill name, answer⟩
  have hasked : opened.step (.ask token (.openBill name)) = opened := by
    rw [step, if_pos (not_stands_iff.1 h)]
  obtain ⟨hdesk, hhanded⟩ := step_arrive_of_not_stands (s := opened) h late
  have hnothing : (opened.step (.arrive token late)).handed.length ≤ s.handed.length :=
    Nat.le_of_eq (congrArg List.length hhanded)
  show (((opened.step (.ask token (.openBill name))).step (.arrive token late)).step
    (.write s.handed.length)).desk = opened.desk
  rw [hasked, step_write_of_length_le hnothing, hdesk]

/-- What a session does to open a bill is a run of the office, whenever its view falls. -/
theorem exists_play_eq_openBill {σ : Type} (L : Ledger σ) (sess : Session σ) {s : Office}
    {token : Nat} (hdesk : s.desk = sess.desk)
    (hstands : s.Stands token ↔ sess.watch.standing = true) (name : String) :
    let answer := (L.answer (.bill name) sess.ledger).1
    ∃ falls, (s.play (opening token name falls answer s.handed.length)).desk =
      (Session.openBill L name sess).2.desk := by
  intro answer
  have hrefetch : Session.openBill L name sess = Session.refetch L (.openBill name)
      { sess with desk := (sess.desk.openBill name).navigate (.bill name) } :=
    Session.openBill_apply L name sess
  rw [hrefetch, Session.refetch_apply, ← hdesk]
  by_cases hnow : sess.watch.standing = true
  · obtain ⟨scope, htoken, hlive⟩ := hstands.2 hnow
    simp only [hnow, if_true]
    by_cases hthen : sess.watch.tick.standing = true
    · refine ⟨[], ?_⟩
      rw [desk_opening ⟨scope, htoken, hlive⟩, if_pos hthen, List.foldl_nil,
        stands_iff.1 ⟨scope, htoken, hlive⟩]
      rfl
    · -- The view falls before the answer is there.
      have hfallen : (s.scopes.apply (.cancel scope)).isCancelled token = true := by
        rw [Scopes.isCancelled, Scopes.tokens_apply, htoken]
        simp [Scopes.standing?_apply, hlive, Scopes.Event.scope, Scopes.Event.fallen]
      refine ⟨[.cancel scope], ?_⟩
      rw [desk_opening ⟨scope, htoken, hlive⟩, if_neg hthen, List.foldl_cons, List.foldl_nil,
        if_pos hfallen]
  · refine ⟨[], ?_⟩
    rw [if_neg hnow]
    exact desk_opening_of_not_stands (fun h => hnow (hstands.1 h)) name answer

/-- A bill that is opened alone ends as what the ledger answered. -/
theorem openBill?_opening {s : Office} {token : Nat} (h : s.Stands token) (name : String)
    (answer : Except LedgerError Bill) :
    (s.play (opening token name [] answer s.handed.length)).desk.openBill? =
      some ⟨name, .ofAnswer answer⟩ := by
  rw [desk_opening h, List.foldl_nil, stands_iff.1 h, if_neg (by simp),
    Session.openBill?_record_openBill]
  simp [Desk.openBill]

theorem openBill?_openBill_of_live {σ : Type} (L : Ledger σ) {sess : Session σ}
    (h : sess.IsLive) (name : String) :
    (Session.openBill L name sess).2.desk.openBill? =
      some ⟨name, .ofAnswer (L.answer (.bill name) sess.ledger).1⟩ := by
  let opened : Session σ := { sess with desk := (sess.desk.openBill name).navigate (.bill name) }
  have hlive : opened.IsLive := h
  rw [Session.openBill_apply, Session.refresh, Session.refetchAll_apply_of_live L hlive]
  show ((Resource.openBill name).record opened.desk _).openBill? = _
  rw [Session.openBill?_record_openBill]
  simp [opened, Desk.openBill]

/-! ## The guarantee -/

/-- In every run, the open bill is the one that was opened last. When it is not loading, it shows an
answer that was asked for under its name, for a view that stood when it asked and when the answer
arrived. The view stood when the answer was written too, exactly if its scope did not fall while the
answer waited, which is so in every run in which no scope falls while an answer waits. An answer
that arrives for a view that has fallen is dropped, and so is one that is written for a bill that is
not open. A bill that is opened alone under a standing scope ends loaded or unavailable, with what
the ledger answered. -/
theorem open_bill_shows_own_answer (es : List Event) :
    (∀ o, (({} : Office).play es).desk.openBill? = some o →
      lastWritten Event.opened? es = some o.name ∧
      (o.snapshot ≠ .loading → ∃ c : Course, c.Shows es o)) ∧
    (ShowsStandingAnswer es ↔ ∀ o, (({} : Office).play es).desk.openBill? = some o →
      o.snapshot ≠ .loading → ∃ c : Course, c.Shows es o ∧ ¬ c.FallsWaiting) ∧
    (Prompt es → ShowsStandingAnswer es) ∧
    (∀ (s : Office) (token : Nat) (a : Arrival), ¬ s.Stands token →
      (s.step (.arrive token a)).desk = s.desk ∧ (s.step (.arrive token a)).handed = s.handed) ∧
    (∀ (s : Office) (place token : Nat) (name : String) (answer : Except LedgerError Bill),
      s.handed[place]? = some ⟨token, .openBill name, answer⟩ →
      (s.step (.write place)).desk.openBill? =
        s.desk.openBill?.map fun o => if o.name = name then ⟨name, .ofAnswer answer⟩ else o) ∧
    (∀ (s : Office) (token : Nat) (name : String) (answer : Except LedgerError Bill),
      s.Stands token → ∃ snap,
        (s.play (opening token name [] answer s.handed.length)).desk.openBill? =
          some ⟨name, snap⟩ ∧
        snap = .ofAnswer answer ∧
        ((∃ b, snap = .loaded b) ∨ ∃ reason, snap = .unavailable reason)) ∧
    (∀ (σ : Type) (L : Ledger σ) (sess : Session σ) (name : String),
      sess.IsLive → ∃ snap,
        (Session.openBill L name sess).2.desk.openBill? = some ⟨name, snap⟩ ∧
        snap = .ofAnswer (L.answer (.bill name) sess.ledger).1 ∧
        ((∃ b, snap = .loaded b) ∨ ∃ reason, snap = .unavailable reason)) := by
  refine ⟨?_, showsStandingAnswer_iff, Prompt.showsStandingAnswer, ?_, ?_, ?_, ?_⟩
  · intro o hopen
    obtain ⟨hopened, hanswered⟩ := shows_play hopen
    exact ⟨hopened, hanswered.resolve_left⟩
  · exact fun s token a hfallen => step_arrive_of_not_stands hfallen a
  · exact fun s place token name answer hwaits => openBill?_write hwaits
  · intro s token name answer hstands
    exact ⟨_, openBill?_opening hstands name answer, rfl, Bill.Snapshot.ofAnswer_settled answer⟩
  · intro σ L sess name hlive
    exact ⟨_, openBill?_openBill_of_live L hlive name, rfl, Bill.Snapshot.ofAnswer_settled _⟩

/-- Two views open a bill each, and the answer for the first bill comes last. -/
def lateAnswer : List Event :=
  [.enter, .takeToken 0, .enter, .takeToken 1,
    .openBill "bill-1", .ask 0 (.openBill "bill-1"),
    .openBill "bill-2", .ask 1 (.openBill "bill-2"),
    .arrive 1 ⟨.openBill "bill-2", .ok exampleBill⟩, .write 0,
    .arrive 0 ⟨.openBill "bill-1", .error .noAnswer⟩, .write 0]

theorem open_bill_shows_own_answer_lateAnswer :
    let shown : OpenBill := ⟨"bill-2", .loaded exampleBill⟩
    (({} : Office).play lateAnswer).desk.openBill? = some shown ∧
      lastWritten Event.opened? lateAnswer = some "bill-2" ∧
      (∃ c : Course, c.Shows lateAnswer shown) ∧
      Prompt lateAnswer ∧ ShowsStandingAnswer lateAnswer := by
  intro shown
  have hopen : (({} : Office).play lateAnswer).desk.openBill? = some shown := by decide
  have hprompt : Prompt lateAnswer := by
    intro before e after hes
    have hfall : Event.fall e ∈ lateAnswer := hes ▸ List.mem_append_right _ List.mem_cons_self
    simp [lateAnswer] at hfall
  obtain ⟨hevery, _, hstanding, _⟩ := open_bill_shows_own_answer lateAnswer
  obtain ⟨hlast, hshown⟩ := hevery shown hopen
  exact ⟨hopen, hlast, hshown (by simp [shown]), hprompt, hstanding hprompt⟩

/-- A view opens a bill, and is cancelled while the answer waits to be written. -/
def lateFall : List Event :=
  [.enter, .takeToken 0, .openBill "bill-1", .ask 0 (.openBill "bill-1"),
    .arrive 0 ⟨.openBill "bill-1", .ok exampleBill⟩, .fall (.cancel 0), .write 0]

/-- The answer is written for a view that has fallen. -/
theorem not_showsStandingAnswer_lateFall : ¬ ShowsStandingAnswer lateFall := by
  intro h
  have hopen : (({} : Office).play lateFall).desk.openBill? =
      some ⟨"bill-1", .loaded exampleBill⟩ := by decide
  obtain ⟨_, hshown⟩ := h _ hopen
  obtain ⟨c, hc, hstands⟩ := hshown (by simp)
  -- Nothing is written but in the last event.
  have huntil : c.untilWritten = lateFall.dropLast := by
    have hlast : lateFall = lateFall.dropLast ++ [.write 0] := rfl
    have hrun := hc.run
    rw [Course.run, hlast] at hrun
    rcases List.eq_nil_or_concat c.since with hnone | ⟨since, e, hsince⟩
    · rw [hnone] at hrun
      exact (List.append_inj' hrun rfl).1.symm
    · rw [hsince, List.concat_eq_append, ← List.cons_append, ← List.append_assoc] at hrun
      have hbefore := (List.append_inj' hrun rfl).1
      have hwrite : Event.write c.place ∈ lateFall.dropLast :=
        hbefore ▸ List.mem_append_right _ List.mem_cons_self
      simp [lateFall] at hwrite
  obtain ⟨scope, -, hlive⟩ := huntil ▸ hstands
  have hfallen : (({} : Office).play lateFall.dropLast).scopes.standings = [.cancelled] := rfl
  rw [Scopes.standing?, hfallen, List.getElem?_singleton] at hlive
  split at hlive <;> cases hlive

end Office

end BillDesk
