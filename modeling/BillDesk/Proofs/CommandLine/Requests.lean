import BillDesk.Proofs.CommandLine.Secrecy
import BillDesk.Proofs.Office.OpenBill
import BillDesk.Proofs.Session.Failure

/-!
# What a command sends

A command first asks for what the start page shows, then for what it is itself about. A command that
changes something tells one order at most, and once the ledger has taken it, asks again for what it
made out of date. That is all. Over HTTP every call is one request, and no request is made again
before an order was taken.

Results:
1. `work_calls` and `run_calls`: the calls of a command, for every ledger and a view that stays
   open.
2. `Sends.exists_request`: with accepted settings, every call is carried as one request.
3. `taken_between_equal`: a request is made again only behind an order that was taken.
4. `run_sends`: the requests of a command, for all settings and every script.
-/

namespace BillDesk

variable {σ : Type}

/-! ## Calls -/

namespace Ledger

variable (L : Ledger σ)

/-- The ledger after calls, made one after the other. -/
def afterAll (t : σ) (calls : List Call) : σ := calls.foldl L.after t

theorem afterAll_append (t : σ) (calls calls' : List Call) :
    L.afterAll t (calls ++ calls') = L.afterAll (L.afterAll t calls) calls' :=
  List.foldl_append

theorem arrivals_snd (rs : List Resource) (t : σ) :
    (L.arrivals rs t).2 = L.afterAll t (rs.map fun r => .ask r.query) := by
  induction rs generalizing t with
  | nil => rfl
  | cons r rs ih => exact ih _

end Ledger

/-- What is asked about on an occasion. -/
def Occasion.queries (o : Occasion) : List Query := o.resources.map Resource.query

/-- What an action makes out of date once the ledger has taken its order. Paying and buying have
none. -/
def Bill.Request.renewal? (name : String) : Bill.Request → Option Occasion
  | .pay | .buy => none
  | _ => some (.billActionSucceeded name)

namespace Command

/-- What a command is about, if that is not on the desk already. -/
def lookups : Command → List Query
  | .showBill name | .listActions name | .act name _ => [.bill name]
  | .showChain name => [.chain name]
  | .listOperations => [.operations]
  | _ => []

/-- What a command asks before it tells anything. -/
def questions (c : Command) : List Query := Occasion.startup.queries ++ c.lookups

/-- What a command makes out of date once the ledger has taken its order. A command that tells
nothing has none. -/
def renewal? : Command → Option Occasion
  | .createIdentity _ | .changeIdentity _ => some .identityChanged
  | .addContact .. | .editContact .. | .removeContact _ => some .contactsChanged
  | .issue _ => some .billIssued
  | .act name request => request.renewal? name
  | _ => none

/-- The calls that follow the questions: none, an order that is not taken, or one that is, and then
what it made out of date. -/
inductive Sequel (taken : Order → Prop) : Option Occasion → List Call → Prop
  | nothing {o? : Option Occasion} : Sequel taken o? []
  | refused {o : Occasion} {order : Order} (h : ¬taken order) : Sequel taken (some o) [.tell order]
  | renewed {o : Occasion} {order : Order} (h : taken order) :
      Sequel taken (some o) (.tell order :: o.queries.map .ask)

end Command

/-! ## The calls of a command -/

namespace Session

open Command

variable {L : Ledger σ} {s : Session σ}

theorem refresh_calls (hlive : s.IsLive) (o : Occasion) :
    (refresh L o s).2.IsLive ∧
      (refresh L o s).2.ledger = L.afterAll s.ledger (o.queries.map .ask) := by
  rw [refresh, refetchAll_apply_of_live L hlive, Occasion.queries, List.map_map]
  exact ⟨hlive, L.arrivals_snd _ _⟩

theorem start_calls (hlive : s.IsLive) :
    (start L s).2.IsLive ∧
      (start L s).2.ledger = L.afterAll s.ledger (Occasion.startup.queries.map .ask) := by
  obtain ⟨hfetched, hledger⟩ := refresh_calls (L := L) hlive .startup
  rw [IsLive] at hfetched
  rw [start_apply, IsLive]
  exact ⟨hfetched, hledger⟩

theorem make_calls (hlive : s.IsLive) (c : Change) (checked : Except FormError Order) :
    ∃ calls, Sequel (fun order => (L.obey order s.ledger).1 = .ok ()) (some c.occasion) calls ∧
      (make L c checked s).2.ledger = L.afterAll s.ledger calls := by
  rcases checked with e | order
  · exact ⟨[], .nothing, rfl⟩
  rcases hobey : (L.obey order s.ledger).1 with e | _
  · refine ⟨[.tell order], .refused (by simp [hobey]), ?_⟩
    rw [make_of_rejected hobey]
    rfl
  · let told : Session σ := {
      desk := s.desk.notify .success c.saved
      watch := s.watch.tick
      ledger := (L.obey order s.ledger).2 }
    have htold : told.IsLive := hlive.tick
    refine ⟨_, .renewed hobey, ?_⟩
    rw [make_of_taken hobey]
    exact (refresh_calls htold c.occasion).2

theorem look_calls (L : Ledger σ) (q : Query) (failure : String) (s : Session σ) :
    (look L q failure s).2.ledger = L.afterAll s.ledger [.ask q] := by
  rw [look_apply]
  rfl

/-- An action on the bill that is open under a name. -/
theorem execute_calls (hlive : s.IsLive) {name : String} {snapshot : Bill.Snapshot}
    (hopen : s.desk.openBill? = some ⟨name, snapshot⟩) (r : Bill.Request) :
    ∃ calls, Sequel (fun order => (L.obey order s.ledger).1 = .ok ()) (r.renewal? name) calls ∧
      (execute L r s).2.ledger = L.afterAll s.ledger calls := by
  rcases s.desk.refuses_or_passes r with ⟨fault, hfault⟩ | ⟨b, hb, ⟨i, hi⟩ | ⟨hpay, hbuy⟩⟩
  · refine ⟨[], .nothing, ?_⟩
    rw [execute_of_fault hfault]
    rfl
  · exact ⟨[], .nothing, (execute_of_instruction hb hi).2⟩
  · have hrenewal : r.renewal? name = some (.billActionSucceeded name) := by
      cases r <;> first | rfl | contradiction
    rw [hrenewal]
    obtain ⟨order, hsettle, _⟩ := Bill.Request.settle_of_sent hpay hbuy b
    rcases hobey : (L.obey order s.ledger).1 with e | _
    · refine ⟨[.tell order], .refused (by simp [hobey]), ?_⟩
      rw [execute_of_sent_rejected hb hsettle hobey]
      rfl
    · obtain ⟨name', hopen', htaken⟩ := execute_of_sent_taken hb hsettle hobey
      cases hopen.symm.trans hopen'
      let told : Session σ := {
        desk := s.desk.notify .success (r.action.label ++ " was submitted for bill " ++ name ++ ".")
        watch := s.watch.tick
        ledger := (L.obey order s.ledger).2 }
      have htold : told.IsLive := hlive.tick
      refine ⟨_, .renewed hobey, ?_⟩
      rw [htaken, afterSubmission_apply]
      exact (refresh_calls htold (.billActionSucceeded name)).2

end Session

namespace Command

open Session

variable {L : Ledger σ} {s : Session σ}

/-- Printing calls nobody. -/
theorem printIf_snd (done : Bool) (print : Desk → String) (s : Session σ) :
    (printIf done print s).2 = s := by
  cases done <;> rfl

/-- A bill that is opened for a view that stays open is not loading any more, so the work on it is
done. -/
theorem withBill_of_live (hlive : s.IsLive) (name : String) (w : Work σ String) :
    ∃ opened : Session σ, opened.IsLive ∧
      opened.ledger = L.afterAll s.ledger [.ask (.bill name)] ∧
      (∃ snapshot, opened.desk.openBill? = some ⟨name, snapshot⟩) ∧
      withBill L name w s = (.ok (w opened).1, (w opened).2) := by
  let shown : Session σ := { s with desk := (s.desk.openBill name).navigate (.bill name) }
  have hshown : shown.IsLive := hlive
  obtain ⟨hopened, hledger⟩ := refresh_calls (L := L) hshown (.billOpened name)
  have hopen := Office.openBill?_openBill_of_live L hlive name
  refine ⟨(openBill L name s).2, ?_, ?_, ⟨_, hopen⟩, ?_⟩
  · rw [openBill_apply]
    exact hopened
  · rw [openBill_apply]
    exact hledger
  · have harrived : (openBill L name s).2.desk.openSnapshot ≠ .loading := by
      rw [Desk.openSnapshot, hopen]
      cases (L.answer (.bill name) s.ledger).1 <;> simp [Bill.Snapshot.ofAnswer]
    rw [withBill_apply, if_neg harrived]

/-- The work of a command for a view that stays open: its own questions, and then the order. -/
theorem work_calls (hlive : s.IsLive) (today : Date) (f : Format) (c : Command) :
    let asked := L.afterAll s.ledger (c.lookups.map .ask)
    ∃ calls, Sequel (fun order => (L.obey order asked).1 = .ok ()) c.renewal? calls ∧
      (c.work L today f s).2.ledger = L.afterAll asked calls := by
  cases c with
  | showIdentity | listContacts | listBills | showBalance => exact ⟨[], .nothing, rfl⟩
  | createIdentity form =>
    simp only [work, bind_apply, map_apply, printIf_snd, Session.createIdentity]
    exact make_calls hlive savingIdentity _
  | changeIdentity form =>
    simp only [work, bind_apply, map_apply, printIf_snd, Session.changeIdentity]
    exact make_calls hlive savingIdentity _
  | addContact name peer =>
    simp only [work, bind_apply, map_apply, printIf_snd, addContact_apply]
    exact make_calls hlive savingContacts _
  | editContact oldName name peer =>
    simp only [work, bind_apply, map_apply, printIf_snd, editContact_apply]
    exact make_calls hlive savingContacts _
  | removeContact name =>
    simp only [work, bind_apply, map_apply, printIf_snd, removeContact_apply]
    exact make_calls hlive savingContacts _
  | issue form =>
    simp only [work, bind_apply, map_apply, printIf_snd, Session.issue]
    exact make_calls hlive issuing _
  | showBill name | listActions name =>
    obtain ⟨opened, _, hledger, _, hwork⟩ := withBill_of_live (L := L) hlive name
      (printIf true _)
    refine ⟨[], .nothing, ?_⟩
    rw [work, hwork]
    exact hledger
  | act name request =>
    obtain ⟨opened, hopened, hledger, ⟨snapshot, hopen⟩, hwork⟩ :=
      withBill_of_live (L := L) hlive name _
    obtain ⟨calls, hcalls, hdone⟩ := execute_calls (L := L) hopened hopen request
    rw [hledger] at hcalls hdone
    refine ⟨calls, hcalls, ?_⟩
    rw [work, hwork]
    exact hdone
  | showChain name =>
    let looked := look L (.chain name) "Could not load the chain of the bill" s
    have hledger : looked.2.ledger = _ := look_calls L (.chain name) _ s
    refine ⟨[], .nothing, Eq.trans ?_ hledger⟩
    simp only [work, bind_apply, chain]
    cases looked.1 <;> rfl
  | listOperations =>
    let looked := look L .operations "Could not load operation codes" s
    have hledger : looked.2.ledger = _ := look_calls L .operations _ s
    refine ⟨[], .nothing, Eq.trans ?_ hledger⟩
    simp only [work, bind_apply, operations]
    cases looked.1 <;> rfl

/-- The run of a command for a view that stays open. -/
theorem run_calls (L : Ledger σ) (today : Date) (f : Format) (c : Command) {s : Session σ}
    (hlive : s.IsLive) :
    let asked := L.afterAll s.ledger (c.questions.map .ask)
    ∃ calls, Sequel (fun order => (L.obey order asked).1 = .ok ()) c.renewal? calls ∧
      (c.run L today f s).2.ledger = L.afterAll asked calls := by
  obtain ⟨hstarted, hledger⟩ := start_calls (L := L) hlive
  rw [questions, List.map_append, Ledger.afterAll_append, ← hledger]
  exact work_calls hstarted today f c

end Command

/-! ## Requests -/

open Http

/-- The script responds to a request with a status that means success. -/
def Http.Script.Succeeds (S : Script) (before : List Request) (request : Request) : Prop :=
  ∃ response, S before request = some response ∧ 200 ≤ response.status ∧ response.status < 300

def Call.method : Call → Method
  | .ask _ => .get
  | .tell _ => .post

namespace LedgerClient

/-- The client can send whatever it builds: the base URL is one of HTTP that has a path, and the
token can stand in a header. -/
structure Sends (c : LedgerClient) : Prop where
  path : c.base.cannotBeBase = false
  scheme : c.base.scheme = "http" ∨ c.base.scheme = "https"
  header : c.authorization.all isHeaderValue = true

variable {c : LedgerClient} {call : Call} {request : Request}

theorem authorization_eq_some_iff {url : String} {token : Option String} {timeoutSeconds : UInt64}
    {settings : Settings} (h : Settings.ofInput url token timeoutSeconds = .ok settings)
    {value : String} : (ofSettings settings).authorization = some value ↔
      ∃ t, token = some t ∧ Text.isBlank t = false ∧ value = "Bearer " ++ t := by
  rw [authorization, ofSettings, (Settings.of_ofInput h).2]
  simp only [Option.map_eq_some_iff, Option.filter_eq_some_iff, Bool.not_eq_true']
  constructor
  · rintro ⟨t, ⟨ht, hblank⟩, rfl⟩
    exact ⟨t, ht, hblank, rfl⟩
  · rintro ⟨t, ht, hblank, rfl⟩
    exact ⟨t, ⟨ht, hblank⟩, rfl⟩

/-- With settings that are accepted, a URL of HTTP and a token that can stand in a header. -/
theorem Sends.of_accepted {url : String} {token : Option String} {timeoutSeconds : UInt64}
    {settings : Settings} (h : Settings.ofInput url token timeoutSeconds = .ok settings)
    (hscheme : settings.base.scheme = "http" ∨ settings.base.scheme = "https")
    (htoken : token.all isHeaderValue = true) : (ofSettings settings).Sends where
  path := (Settings.of_ofInput h).1
  scheme := hscheme
  header := by
    rw [Option.all_eq_true]
    intro value hvalue
    obtain ⟨t, rfl, _, rfl⟩ := (authorization_eq_some_iff h).1 hvalue
    have hlead : isHeaderValue "Bearer " = true := by decide
    rw [isHeaderValue, String.toList_append, List.all_append, ← isHeaderValue, ← isHeaderValue,
      hlead]
    exact htoken

theorem Sends.exists_endpoint (h : c.Sends) (path : List String) :
    ∃ url, c.base.append? path = some url ∧ (url.scheme = "http" ∨ url.scheme = "https") := by
  have hpath := h.path
  rw [Url.cannotBeBase] at hpath
  rw [Url.append?]
  split at hpath
  · cases hpath
  · exact ⟨_, rfl, h.scheme⟩

/-- Every call is carried as one request. -/
theorem Sends.exists_request (h : c.Sends) (call : Call) :
    ∃ request, c.request call = .ok request ∧ request.isSendable = true ∧
      request.method = call.method ∧ request.authorization = c.authorization := by
  have hsendable {request : Request}
      (hscheme : request.url.scheme = "http" ∨ request.url.scheme = "https")
      (hauthorization : request.authorization = c.authorization) : request.isSendable = true := by
    rw [Request.isSendable, hauthorization, h.header]
    simpa using hscheme
  cases call with
  | ask q =>
    obtain ⟨url, hurl, hscheme⟩ := h.exists_endpoint (q.path ++ q.name?.toList)
    exact ⟨_, queryRequest_eq_ok_iff.2 ⟨url, hurl, rfl⟩, hsendable hscheme rfl, rfl, rfl⟩
  | tell o =>
    obtain ⟨url, hurl, hscheme⟩ := h.exists_endpoint o.path
    exact ⟨_, Session.orderRequest_eq_ok_iff.2 ⟨url, hurl, rfl⟩, hsendable hscheme rfl, rfl, rfl⟩

end LedgerClient

/-! ## No request is made again -/

theorem not_nodup_of_twice {α : Type} {front middle back : List α} {a : α} :
    ¬(front ++ a :: (middle ++ a :: back)).Nodup := by
  intro h
  have hfrom : (a :: (middle ++ a :: back)).Nodup := h.of_append_right
  exact (List.nodup_cons.1 hfrom).1 (by simp)

/-- What splits a list into two that repeat nothing stands between equal elements. -/
theorem mem_between_of_split {α : Type} {before after front middle back : List α} {p a : α}
    (hbefore : (before ++ [p]).Nodup) (hafter : (p :: after).Nodup)
    (h : before ++ p :: after = front ++ a :: (middle ++ a :: back)) : p ∈ middle := by
  rcases List.append_eq_append_iff.1 h with ⟨rest, rfl, hrest⟩ | ⟨rest, rfl, hrest⟩
  · exact absurd (hrest ▸ hafter) not_nodup_of_twice
  rcases rest with _ | ⟨_, rest⟩
  · cases hrest
    exact absurd (by simp) (List.nodup_cons.1 hafter).1
  rw [List.cons_append, List.cons.injEq] at hrest
  obtain ⟨rfl, hrest⟩ := hrest
  rcases List.append_eq_append_iff.1 hrest with ⟨part, rfl, hpart⟩ | ⟨part, rfl, hpart⟩
  · obtain ⟨tail, htail⟩ : ∃ tail, part ++ [p] = a :: tail := by
      rcases part with _ | ⟨_, part⟩
      · cases hpart
        exact ⟨[], rfl⟩
      · cases hpart
        exact ⟨_, rfl⟩
    have htwice : (front ++ a :: (middle ++ a :: tail)).Nodup := by
      simpa only [List.append_assoc, List.cons_append, htail] using hbefore
    exact absurd htwice not_nodup_of_twice
  · rcases part with _ | ⟨_, part⟩
    · cases hpart
      have htwice : (front ++ p :: (rest ++ p :: [])).Nodup := by
        simpa only [List.append_assoc, List.cons_append] using hbefore
      exact absurd htwice not_nodup_of_twice
    · cases hpart
      simp

/-- Different queries, of which one at least names nothing. -/
def Query.Apart (q q' : Query) : Prop := q ≠ q' ∧ (q.name? = none ∨ q'.name? = none)

theorem Command.apart_questions (c : Command) : c.questions.Pairwise Query.Apart := by
  cases c <;> simp [questions, lookups, Occasion.queries, Occasion.resources, Query.Apart,
    Query.name?]

theorem Occasion.apart_queries (o : Occasion) : o.queries.Pairwise Query.Apart := by
  cases o <;> simp [queries, resources, Query.Apart, Query.name?]

namespace LedgerClient

variable {c : LedgerClient} {request : Call → Request}

theorem nodup_asks (h : ∀ call, c.request call = .ok (request call)) {qs : List Query}
    (hqs : qs.Pairwise Query.Apart) : ((qs.map Call.ask).map request).Nodup := by
  rw [List.map_map, List.Nodup, List.pairwise_map]
  refine hqs.imp ?_
  rintro q q' ⟨hne, hname⟩ heq
  have hq : c.queryRequest q = .ok (request (.ask q)) := h (.ask q)
  have hq' : c.queryRequest q' = .ok (request (.ask q)) := (h (.ask q')).trans (congrArg _ heq.symm)
  rcases hname with hname | hname
  · exact hne (eq_of_queryRequest hq' hq hname).symm
  · exact hne (eq_of_queryRequest hq hq' hname)

/-- A question is a GET, and an order is a POST. -/
theorem tell_not_mem_asks (h : ∀ call, (request call).method = call.method) (o : Order)
    (qs : List Query) : request (.tell o) ∉ (qs.map Call.ask).map request := by
  intro hmem
  obtain ⟨_, hcall, heq⟩ := List.mem_map.1 hmem
  obtain ⟨q, _, rfl⟩ := List.mem_map.1 hcall
  have hmethod := h (.ask q)
  rw [heq, h] at hmethod
  cases hmethod

/-- A request is made again only behind an order that was taken. -/
theorem taken_between_equal (h : ∀ call, c.request call = .ok (request call))
    (hmethod : ∀ call, (request call).method = call.method) {command : Command}
    {taken : Order → Prop} {calls : List Call}
    (hcalls : Command.Sequel taken command.renewal? calls) {front middle back : List Request}
    {r : Request} (htwice : (command.questions.map Call.ask ++ calls).map request =
      front ++ r :: (middle ++ r :: back)) :
    ∃ order, taken order ∧ request (.tell order) ∈ middle := by
  have hasks := nodup_asks h command.apart_questions
  have hposted (order : Order) :
      ((command.questions.map Call.ask).map request ++ [request (.tell order)]).Nodup :=
    hasks.append (List.nodup_singleton _)
      (List.disjoint_singleton.2 (tell_not_mem_asks hmethod order _))
  rw [List.map_append] at htwice
  generalize command.renewal? = o? at hcalls
  cases hcalls with
  | nothing =>
    rw [List.map_nil, List.append_nil] at htwice
    exact absurd (htwice ▸ hasks) not_nodup_of_twice
  | @refused o order _ => exact absurd (htwice ▸ hposted order) not_nodup_of_twice
  | @renewed o order htaken =>
    have hagain : (request (.tell order) :: (o.queries.map Call.ask).map request).Nodup :=
      List.nodup_cons.2 ⟨tell_not_mem_asks hmethod order _, nodup_asks h o.apart_queries⟩
    exact ⟨order, htaken, mem_between_of_split (hposted order) hagain htwice⟩

theorem obey_ok_iff_succeeds (h : ∀ call, c.request call = .ok (request call))
    (hsendable : ∀ call, (request call).isSendable = true) {S : Script} {t : List Request}
    {order : Order} : ((c.ledger S.transport).obey order t).1 = .ok () ↔
      S.Succeeds t (request (.tell order)) := by
  have horder : c.orderRequest order = .ok (request (.tell order)) := h (.tell order)
  rw [Session.obey_ok_iff]
  constructor
  · rintro ⟨_, response, hrequest, _, hresponse, hstatus⟩
    cases horder.symm.trans hrequest
    exact ⟨response, hresponse, hstatus⟩
  · rintro ⟨response, hresponse, hstatus⟩
    exact ⟨_, response, horder, hsendable _, hresponse, hstatus⟩

/-- The ledger after calls, each of which is carried. -/
theorem afterAll_transport (h : ∀ call, c.request call = .ok (request call))
    (hsendable : ∀ call, (request call).isSendable = true) (S : Script) (t : List Request)
    (calls : List Call) :
    (c.ledger S.transport).afterAll t calls = t ++ calls.map request := by
  induction calls generalizing t with
  | nil => exact (List.append_nil _).symm
  | cons call calls ih =>
    have hafter : (c.ledger S.transport).after t call = t ++ [request call] := by
      rw [after_ledger, h, carried, if_pos (hsendable call)]
      rfl
    rw [Ledger.afterAll, List.foldl_cons, hafter, ← Ledger.afterAll, ih, List.append_assoc]
    rfl

end LedgerClient

/-- How a call is sent by a client with a token. -/
structure Call.IsSentAs (c : LedgerClient) (token : Option String) (call : Call)
    (request : Request) : Prop where
  built : c.request call = .ok request
  method : request.method = call.method
  bearer (value : String) : request.authorization = some value ↔
    ∃ t, token = some t ∧ Text.isBlank t = false ∧ value = "Bearer " ++ t

/-- The run of a command, for all settings that are accepted with a URL of HTTP and a token that can
stand in a header, for every script and for a view that stays open. First come the requests of its
questions, and then at most one for an order and those for what the order made out of date, if it
was responded with success. A request is made again only behind such an order. -/
theorem Command.run_sends {url : String} {token : Option String} {timeoutSeconds : UInt64}
    {settings : Settings} (hsettings : Settings.ofInput url token timeoutSeconds = .ok settings)
    (hscheme : settings.base.scheme = "http" ∨ settings.base.scheme = "https")
    (htoken : token.all isHeaderValue = true) (S : Script) (today : Date) (f : Format)
    (command : Command) {s : Session (List Request)} (hlive : s.IsLive) :
    let client := LedgerClient.ofSettings settings
    let done := (command.run (client.ledger S.transport) today f s).2
    ∃ (request : Call → Request) (calls : List Call),
      let asked := command.questions.map Call.ask
      let taken (order : Order) :=
        S.Succeeds (s.ledger ++ asked.map request) (request (.tell order))
      done.ledger = s.ledger ++ (asked ++ calls).map request ∧
        Sequel taken command.renewal? calls ∧
        (∀ call : Call, call.IsSentAs client token (request call)) ∧
        ∀ front middle back r,
          (asked ++ calls).map request = front ++ r :: (middle ++ r :: back) →
            ∃ order, taken order ∧ request (.tell order) ∈ middle := by
  intro client done
  have hsends : client.Sends := .of_accepted hsettings hscheme htoken
  choose request hrequest hsendable hmethod hauthorization using hsends.exists_request
  obtain ⟨calls, hcalls, hledger⟩ :=
    run_calls (client.ledger S.transport) today f command hlive
  rw [LedgerClient.afterAll_transport hrequest hsendable] at hcalls hledger
  simp only [LedgerClient.obey_ok_iff_succeeds hrequest hsendable] at hcalls
  refine ⟨request, calls, ?_, hcalls, ?_, ?_⟩
  · rw [hledger, LedgerClient.afterAll_transport hrequest hsendable, List.map_append,
      List.append_assoc]
  · intro call
    refine ⟨hrequest call, hmethod call, fun value => ?_⟩
    rw [hauthorization]
    exact LedgerClient.authorization_eq_some_iff hsettings
  · intro front middle back r htwice
    exact LedgerClient.taken_between_equal hrequest hmethod hcalls htwice

/-- The default URL, and a token. -/
def withToken : Settings where
  base := {
    scheme := "http", host := some (.name "localhost"), port := some 8000, path := .segments [""] }
  token := some "secret"
  timeoutSeconds := 30

/-- A contact is added where every request succeeds. No contacts arrive, so the name is free. -/
theorem Command.run_sends_contactAdded :
    let S : Script := fun _ _ => some ⟨200, ""⟩
    let done := ((addContact "Minka" ⟨"12D3KooWMinka"⟩).run
      ((LedgerClient.ofSettings withToken).ledger S.transport) ⟨2025, 1, 1, by decide⟩ .json
      { ledger := [] }).2
    Settings.ofInput "http://localhost:8000" (some "secret") 30 = .ok withToken ∧
      done.ledger.map (fun r => (r.method, r.url.target)) =
        [(.get, "/identity/return"), (.get, "/identity/peer_id/return"), (.get, "/contacts/return"),
          (.get, "/bills/return"), (.post, "/contacts/new"), (.get, "/contacts/return")] ∧
      ∀ r ∈ done.ledger, r.authorization = some "Bearer secret" := by
  intro S done
  have hsettings : Settings.ofInput Settings.defaultUrl (some "secret") 30 = .ok withToken := rfl
  have hlive : ({ ledger := [] } : Session (List Request)).IsLive := rfl
  obtain ⟨request, calls, hledger, _, hsent, _⟩ :=
    run_sends hsettings (.inl rfl) (by decide) S ⟨2025, 1, 1, by decide⟩ .json
      (addContact "Minka" ⟨"12D3KooWMinka"⟩) hlive
  refine ⟨hsettings, by decide +kernel, ?_⟩
  intro r hr
  have hmem : r ∈ [] ++ (_ : List Call).map request := hledger ▸ hr
  obtain ⟨call, _, rfl⟩ := List.mem_map.1 hmem
  exact ((hsent call).bearer _).2 ⟨"secret", rfl, by decide, rfl⟩

end BillDesk
