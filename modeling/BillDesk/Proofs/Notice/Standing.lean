import BillDesk.Notice
import Mathlib.Data.List.Induction
import Mathlib.Data.List.Nodup

/-!
# What stands on the board

A notice stands on the board from the moment it is pushed until it is dismissed or the board is
cleared. So the whole history of a board decides what it shows. To dismiss an id that is not there,
because no notice ever had it or because its notice is gone, does nothing.

The ids may come from any source that hands out none twice, as the board does when it counts them.
Then a dismissal takes down the one notice that it names, and no second one of the same id succeeds.

Results:
1. `notices_play`: the notices after any moves are those that stand.
2. `mem_standing_iff`, `standing_sublist`: which notices stand, and in which order.
3. `count_dismissals_add_le`: an id is dismissed or on the board no more often than it was pushed.
4. `after_push_of_next`, `freshIds_of_ownIds`: a board that counts its ids is one of these sources,
   and hands out none twice.
5. `board_shows_what_stands`: what a board shows after any moves, and how often an id is dismissed.
-/

namespace BillDesk.NoticeBoard

/-! ## Moves -/

/-- What can be done to a board. A notice is pushed under the id that was handed out for it. -/
inductive Move where
  | push (n : Notice)
  | dismiss (id : Nat)
  | clear
  deriving DecidableEq

namespace Move

/-- The notice that the move puts up. -/
def pushed? : Move → Option Notice
  | push n => some n
  | _ => none

/-- The move takes a notice of that id off the board. -/
def removes (id : Nat) : Move → Bool
  | push _ => false
  | dismiss id' => id == id'
  | clear => true

theorem removes_eq_false_iff {id : Nat} {m : Move} :
    m.removes id = false ↔ m ≠ .clear ∧ m ≠ .dismiss id := by
  cases m with
  | push n => simp [removes]
  | dismiss id' => simp [removes, Ne, @eq_comm _ id']
  | clear => simp [removes]

/-- None of the moves takes a notice of that id off the board. -/
def spared (id : Nat) (later : List Move) : Bool := later.all fun m => !m.removes id

end Move

/-- The board after a move. The next id that it gives is the one that was handed out. -/
def after (b : NoticeBoard) : Move → NoticeBoard
  | .push n => { b with nextId := n.id }.push n.kind n.text
  | .dismiss id => (b.dismiss id).2
  | .clear => b.clear

def play (b : NoticeBoard) (ms : List Move) : NoticeBoard := ms.foldl after b

/-- The notices that were pushed and that no later move removed, in the order of the pushes. -/
def standing : List Move → List Notice
  | [] => []
  | m :: later => m.pushed?.toList.filter (fun n => Move.spared n.id later) ++ standing later

variable {b : NoticeBoard} {m : Move} {ms : List Move} {n : Notice} {id : Nat}

theorem play_snoc : b.play (ms ++ [m]) = (b.play ms).after m := by
  simp only [play, List.foldl_append, List.foldl_cons, List.foldl_nil]

theorem play_cons : b.play (m :: ms) = (b.after m).play ms := rfl

theorem filterMap_pushed?_cons :
    (m :: ms).filterMap Move.pushed? = m.pushed?.toList ++ ms.filterMap Move.pushed? := by
  cases m <;> rfl

/-! ## What stands -/

theorem Move.spared_snoc : spared id (ms ++ [m]) = (!m.removes id && spared id ms) := by
  rw [spared, List.all_append, List.all_cons, List.all_nil, Bool.and_true, Bool.and_comm, spared]

theorem Move.spared_iff : spared id ms = true ↔ .clear ∉ ms ∧ .dismiss id ∉ ms := by
  simp only [spared, List.all_eq_true, Bool.not_eq_true', removes_eq_false_iff]
  constructor
  · intro h
    exact ⟨fun hclear => (h _ hclear).1 rfl, fun hdismiss => (h _ hdismiss).2 rfl⟩
  · rintro ⟨hclear, hdismiss⟩ m hm
    exact ⟨fun h => hclear (h ▸ hm), fun h => hdismiss (h ▸ hm)⟩

/-- The last move removes its notices and puts up its own. -/
theorem standing_snoc (ms : List Move) (m : Move) :
    standing (ms ++ [m]) =
      (standing ms).filter (fun n => !m.removes n.id) ++ m.pushed?.toList := by
  induction ms with
  | nil => cases m <;> rfl
  | cons m' ms ih =>
    simp only [List.cons_append, standing, ih, List.filter_append, List.filter_filter,
      Move.spared_snoc, List.append_assoc]

theorem mem_standing_iff : n ∈ standing ms ↔
    ∃ before later, ms = before ++ .push n :: later ∧ .clear ∉ later ∧ .dismiss n.id ∉ later := by
  induction ms with
  | nil => simp [standing]
  | cons m later ih =>
    rw [standing, List.mem_append, List.mem_filter, Option.mem_toList, Move.spared_iff]
    constructor
    · rintro (⟨hpushed, hspared⟩ | hlater)
      · obtain rfl : m = .push n := by cases m <;> simp_all [Move.pushed?]
        exact ⟨[], later, rfl, hspared⟩
      · obtain ⟨before, later', rfl, hspared⟩ := ih.1 hlater
        exact ⟨m :: before, later', rfl, hspared⟩
    · rintro ⟨_ | ⟨m', before⟩, later', hms, hspared⟩
      · cases hms
        exact .inl ⟨rfl, hspared⟩
      · cases hms
        exact .inr (ih.2 ⟨before, later', rfl, hspared⟩)

theorem standing_sublist (ms : List Move) : (standing ms).Sublist (ms.filterMap Move.pushed?) := by
  induction ms with
  | nil => exact .slnil
  | cons m later ih =>
    rw [standing, filterMap_pushed?_cons]
    exact List.filter_sublist.append ih

/-- What a move does to the notices. -/
theorem notices_after (b : NoticeBoard) (m : Move) : (b.after m).notices =
    b.notices.filter (fun n => !m.removes n.id) ++ m.pushed?.toList := by
  cases m with
  | push n =>
    have hall : b.notices.filter (fun n' => !(Move.push n).removes n'.id) = b.notices :=
      List.filter_eq_self.2 fun _ _ => rfl
    rw [hall]
    rfl
  | dismiss id => exact (List.append_nil _).symm
  | clear =>
    have hnone : b.notices.filter (fun n' => !Move.clear.removes n'.id) = [] :=
      List.filter_eq_nil_iff.2 fun _ _ => Bool.false_ne_true
    rw [hnone]
    rfl

theorem notices_play (ms : List Move) : (({} : NoticeBoard).play ms).notices = standing ms := by
  induction ms using List.reverseRecOn with
  | nil => rfl
  | append_singleton ms m ih => rw [play_snoc, notices_after, ih, standing_snoc]

/-! ## Ids -/

/-- The ids that were handed out, in order. -/
def pushedIds (ms : List Move) : List Nat := (ms.filterMap Move.pushed?).map Notice.id

/-- No id is handed out twice. -/
def FreshIds (ms : List Move) : Prop := (pushedIds ms).Nodup

instance (ms : List Move) : Decidable (FreshIds ms) := inferInstanceAs (Decidable (List.Nodup _))

/-- The id that the move dismisses with success. -/
def dismissed? (b : NoticeBoard) : Move → Option Nat
  | .dismiss id => if (b.dismiss id).1 then some id else none
  | _ => none

/-- The ids that the moves dismiss with success, in order. -/
def dismissals (b : NoticeBoard) : List Move → List Nat
  | [] => []
  | m :: ms => (b.dismissed? m).toList ++ (b.after m).dismissals ms

def ids (b : NoticeBoard) : List Nat := b.notices.map Notice.id

theorem pushedIds_cons :
    pushedIds (m :: ms) = m.pushed?.toList.map Notice.id ++ pushedIds ms := by
  rw [pushedIds, filterMap_pushed?_cons, List.map_append, pushedIds]

/-- One move: what is dismissed leaves the board, and only what is pushed comes to it. -/
theorem count_dismissed?_add_le (b : NoticeBoard) (m : Move) (id : Nat) :
    (b.dismissed? m).toList.count id + (b.after m).ids.count id ≤
      b.ids.count id + (m.pushed?.toList.map Notice.id).count id := by
  cases m with
  | push n =>
    have hids : (b.after (.push n)).ids = b.ids ++ [n.id] := List.map_append
    rw [hids, List.count_append]
    simp [dismissed?, Move.pushed?]
  | dismiss id' =>
    have hkept : (b.after (.dismiss id')).ids.Sublist b.ids := List.filter_sublist.map Notice.id
    by_cases hfound : (b.dismiss id').1 = true
    · by_cases hid : id' = id
      · subst hid
        obtain ⟨n, hn, hnid⟩ := dismiss_fst_iff.1 hfound
        have hgone : (b.after (.dismiss id')).ids.count id' = 0 := by
          rw [List.count_eq_zero]
          simp [ids, after, dismiss]
        have hthere : 0 < b.ids.count id' :=
          List.count_pos_iff.2 (List.mem_map.2 ⟨n, hn, hnid⟩)
        simp only [dismissed?, hfound, if_true, Option.toList_some, List.count_singleton_self,
          hgone]
        omega
      · simpa [dismissed?, hfound, hid, Move.pushed?] using hkept.count_le id
    · simpa [dismissed?, hfound, Move.pushed?] using hkept.count_le id
  | clear => simp [dismissed?, after, clear, ids]

/-- Any moves: an id is dismissed or on the board no more often than it was pushed. -/
theorem count_dismissals_add_le (b : NoticeBoard) (ms : List Move) (id : Nat) :
    (b.dismissals ms).count id + (b.play ms).ids.count id ≤
      b.ids.count id + (pushedIds ms).count id := by
  induction ms generalizing b with
  | nil => simp [dismissals, pushedIds, play]
  | cons m ms ih =>
    have hstep := count_dismissed?_add_le b m id
    have hrest := ih (b.after m)
    rw [dismissals, play_cons, pushedIds_cons, List.count_append, List.count_append]
    omega

/-- An id that is handed out once is dismissed once or on the board once, and never both. -/
theorem count_dismissals_add_le_one (h : FreshIds ms) (id : Nat) :
    (({} : NoticeBoard).dismissals ms).count id +
      (({} : NoticeBoard).play ms).ids.count id ≤ 1 := by
  have hcount := count_dismissals_add_le {} ms id
  have hpushed := List.nodup_iff_count_le_one.1 h id
  simp only [ids, List.map_nil, List.count_nil] at hcount ⊢
  omega

theorem nodup_ids_play (h : FreshIds ms) : (({} : NoticeBoard).play ms).ids.Nodup :=
  List.nodup_iff_count_le_one.2 fun id =>
    Nat.le_trans (Nat.le_add_left ..) (count_dismissals_add_le_one h id)

/-! ## Counted ids -/

/-- Every id is the one that the board would give by itself. -/
def OwnIds : NoticeBoard → List Move → Prop
  | _, [] => True
  | b, m :: ms => (∀ n ∈ m.pushed?, n.id = b.nextId) ∧ OwnIds (b.after m) ms

/-- Under the id that the board would give, a notice is simply pushed. -/
theorem after_push_of_next (h : n.id = b.nextId) : b.after (.push n) = b.push n.kind n.text := by
  rw [after, h]

/-- A board that counts its ids hands out none twice. -/
theorem freshIds_of_ownIds (h : OwnIds b ms) : FreshIds ms := by
  have hgrow : (pushedIds ms).Pairwise (· < ·) ∧ ∀ id ∈ pushedIds ms, b.nextId ≤ id := by
    induction ms generalizing b with
    | nil => exact ⟨.nil, by simp [pushedIds]⟩
    | cons m ms ih =>
      obtain ⟨hid, hrest⟩ := h
      obtain ⟨hpairs, hbound⟩ := ih hrest
      cases m with
      | push n =>
        have hnext : b.nextId = n.id := (hid n rfl).symm
        refine ⟨List.pairwise_cons.2 ⟨hbound, hpairs⟩, ?_⟩
        rintro id (_ | ⟨_, hmem⟩)
        · exact Nat.le_of_eq hnext
        · exact hnext ▸ Nat.le_of_succ_le (hbound id hmem)
      | dismiss id => exact ⟨hpairs, hbound⟩
      | clear => exact ⟨hpairs, hbound⟩
  exact hgrow.1.imp Nat.ne_of_lt

/-! ## What a board shows -/

/-- Where no two notices share an id, a dismissal takes out the one that it names. -/
theorem dismiss_of_known {front back : List Notice} (hids : b.ids.Nodup)
    (h : b.notices = front ++ n :: back) :
    b.dismiss n.id = (true, { b with notices := front ++ back }) := by
  rw [ids, h, List.map_append, List.map_cons, List.nodup_middle, List.nodup_cons,
    ← List.map_append] at hids
  have hmem : n ∈ b.notices := by
    rw [h]
    exact List.mem_append_right _ (List.mem_cons_self ..)
  have hothers : (front ++ back).filter (fun n' => n'.id != n.id) = front ++ back := by
    refine List.filter_eq_self.2 fun n' hn' => bne_iff_ne.2 fun hid => hids.1 ?_
    exact List.mem_map.2 ⟨n', hn', hid⟩
  have hfilter : b.notices.filter (fun n' => n'.id != n.id) = front ++ back := by
    rw [h, List.filter_append, List.filter_cons, if_neg (by simp), ← List.filter_append, hothers]
  exact Prod.ext (dismiss_fst_iff.2 ⟨n, hmem, rfl⟩) (by rw [dismiss, hfilter])

/-- An id that no notice has changes nothing. -/
theorem dismiss_of_unknown (h : ∀ n ∈ b.notices, n.id ≠ id) : b.dismiss id = (false, b) := by
  have hfilter : b.notices.filter (fun n => n.id != id) = b.notices :=
    List.filter_eq_self.2 fun n hn => bne_iff_ne.2 (h n hn)
  have hfound : (b.dismiss id).1 = false := by
    refine eq_false_of_ne_true fun htrue => ?_
    obtain ⟨n, hn, hid⟩ := dismiss_fst_iff.1 htrue
    exact h n hn hid
  exact Prod.ext hfound (by rw [dismiss, hfilter])

/-- The board shows these notices, whichever way it is looked at, and a dismissal takes out the one
notice that it names. -/
structure Shows (b : NoticeBoard) (ns : List Notice) : Prop where
  notices : b.notices = ns
  latest : b.latest? = ns.getLast?
  ofKind : ∀ kind, b.ofKind kind = ns.filter fun n => n.kind == kind
  size : b.size = ns.length
  isEmpty : b.isEmpty = true ↔ ns = []
  dismiss_iff : ∀ id, (b.dismiss id).1 = true ↔ ∃ n ∈ ns, n.id = id
  dismiss_known : ∀ front n back, ns = front ++ n :: back →
    b.dismiss n.id = (true, { b with notices := front ++ back })
  dismiss_unknown : ∀ id, (∀ n ∈ ns, n.id ≠ id) → b.dismiss id = (false, b)

theorem shows_notices (h : b.ids.Nodup) : b.Shows b.notices where
  notices := rfl
  latest := rfl
  ofKind _ := rfl
  size := rfl
  isEmpty := List.isEmpty_iff
  dismiss_iff _ := dismiss_fst_iff
  dismiss_known _ _ _ hns := dismiss_of_known h hns
  dismiss_unknown _ hunknown := dismiss_of_unknown hunknown

/-- After any moves under fresh ids, a board shows the notices that were pushed since it was last
cleared and not dismissed since, in the order of the pushes, and no id is dismissed twice. -/
theorem board_shows_what_stands (h : FreshIds ms) :
    (({} : NoticeBoard).play ms).Shows (standing ms) ∧
      (standing ms).Sublist (ms.filterMap Move.pushed?) ∧
      (∀ n, n ∈ standing ms ↔ ∃ before later, ms = before ++ .push n :: later ∧
        .clear ∉ later ∧ .dismiss n.id ∉ later) ∧
      ∀ id, (({} : NoticeBoard).dismissals ms).count id ≤ 1 := by
  have hshows := shows_notices (nodup_ids_play h)
  rw [notices_play] at hshows
  exact ⟨hshows, standing_sublist ms, fun _ => mem_standing_iff,
    fun id => Nat.le_trans (Nat.le_add_right ..) (count_dismissals_add_le_one h id)⟩

/-- A history with dismissals of ids that are unknown, gone, and cleared away. -/
def busyHistory : List Move := [
  .push ⟨4, .error, "Something is wrong"⟩, .push ⟨9, .success, "Bill accepted"⟩, .dismiss 4,
  .dismiss 4, .clear, .push ⟨2, .info, "Pay the bill"⟩, .dismiss 9, .dismiss 7,
  .push ⟨7, .error, "Could not load bills"⟩]

/-- Only the first dismissal succeeds, and what was pushed after the clearing stands. -/
theorem board_shows_what_stands_busyHistory :
    FreshIds busyHistory ∧
      (({} : NoticeBoard).play busyHistory).Shows
        [⟨2, .info, "Pay the bill"⟩, ⟨7, .error, "Could not load bills"⟩] ∧
      ({} : NoticeBoard).dismissals busyHistory = [4] ∧
      ∀ id, (({} : NoticeBoard).dismissals busyHistory).count id ≤ 1 := by
  have hfresh : FreshIds busyHistory := by decide
  obtain ⟨hshows, _, _, hcount⟩ := board_shows_what_stands hfresh
  exact ⟨hfresh, hshows, rfl, hcount⟩

end BillDesk.NoticeBoard
