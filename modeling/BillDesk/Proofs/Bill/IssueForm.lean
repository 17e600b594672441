import BillDesk.Bill.IssueForm
import BillDesk.Proofs.Date.Calendar
import BillDesk.Proofs.Date.Text

/-!
# What passes as a bill to issue

The fields of the issue form are checked one after the other, and the first fault ends the check.
Which forms pass does not depend on that order: a form passes when each of its fields is in order
and they fit together. Nor does the verdict, whatever it is, depend on how the form is written. Of a
date only the day counts, and of any other text what is left of it without the white space around.

Results:
1. `requiredDate_eq_ok_iff`: a date field passes exactly when it denotes a date.
2. `check_eq_ok_iff`: the forms that pass are those that are issuable.
3. `check_eq_of_saysSame`: forms that say the same get the same verdict.
4. `check_judges_content`: both, for every form and every choice of fields to trim.
-/

namespace BillDesk.Bill.IssueForm

open Text

variable {f g : IssueForm} {value : String} {field : FormField}

/-! ## Forms that can be issued -/

/-- What has to be true of a form for a bill to be issued. The payee and the drawee are those that
the bill will have: the drawer where the form says so, and otherwise the one who is named. -/
structure Issuable (f : IssueForm) : Prop where
  dates : ∃ issued matures, Date.read? f.dateOfIssue = some issued ∧
    Date.read? f.maturityDate = some matures ∧ issued ≤ matures
  roles : ¬(f.drawerIsPayee = true ∧ f.drawerIsDrawee = true)
  drawer : isBlank f.drawerName = false
  payee : isBlank f.payee = false
  drawee : isBlank f.drawee = false
  apart : trim f.payee ≠ trim f.drawee
  amount : 0 < f.amount
  currency : trim f.currency ∈ Currency.valid
  placeOfDrawing : isBlank f.placeOfDrawing = false
  placeOfPayment : isBlank f.placeOfPayment = false
  jurisdiction : isBlank f.jurisdiction = false
  language : isBlank f.language = false

theorem requiredDate_eq_ok_iff (value : String) (field : FormField) {d : Date} :
    requiredDate value field = .ok d ↔ Date.read? value = some d := by
  by_cases hblank : isBlank value = true
  · simp [requiredDate, refuseIf, hblank, Date.read?_of_isBlank hblank, bind, Except.bind]
  · cases hread : Date.read? value <;>
      simp [requiredDate, refuseIf, hblank, hread, bind, Except.bind, pure, Except.pure, throw,
        throwThe, MonadExceptOf.throw]

/-- What goes on with a date passes if there is one and the rest passes with it. -/
theorem requiredDate_bind_eq_ok_iff {next : Date → Check} :
    (requiredDate value field >>= next) = .ok () ↔
      ∃ d, Date.read? value = some d ∧ next d = .ok () := by
  simp only [← requiredDate_eq_ok_iff value field]
  rcases requiredDate value field with e | d
  · simp [bind, Except.bind]
  · simp [bind, Except.bind]

/-- A currency that bills are issued in is not blank. -/
theorem isBlank_of_mem_valid (h : trim value ∈ Currency.valid) : isBlank value = false := by
  rw [Bool.eq_false_iff, Ne, isBlank_iff]
  intro hempty
  rw [hempty] at h
  exact absurd h (by decide)

theorem check_eq_ok_iff : f.check = .ok () ↔ f.Issuable := by
  simp only [check, requiredDate_bind_eq_ok_iff, Check.seq_eq_ok_iff, refuseIf_eq_ok]
  have horder : ∀ {a b : Date}, (a.compare b == .gt) = false ↔ a ≤ b := by
    intro a b
    rw [beq_eq_false_iff_ne, Date.compare_ne_gt_iff]
  have hroles : (f.drawerIsPayee && f.drawerIsDrawee) = false ↔
      ¬(f.drawerIsPayee = true ∧ f.drawerIsDrawee = true) := by
    rw [← Bool.not_eq_true, Bool.and_eq_true]
  have hapart : (trim f.payee == trim f.drawee) = false ↔ trim f.payee ≠ trim f.drawee :=
    beq_eq_false_iff_ne
  have hamount : (f.amount == 0) = false ↔ 0 < f.amount := by
    rw [beq_eq_false_iff_ne, UInt64.pos_iff_ne_zero]
  have hcurrency : (!Currency.valid.contains (trim f.currency)) = false ↔
      trim f.currency ∈ Currency.valid := by
    rw [Bool.not_eq_false', List.contains_iff_mem]
  simp only [horder, hroles, hapart, hamount, hcurrency]
  constructor
  · rintro ⟨issued, hissued, matures, hmatures, hle, hone, hdrawer, hpayee, hdrawee, hdiffer,
      hpositive, _, hvalid, hdrawing, hpayment, hjurisdiction, hlanguage⟩
    exact ⟨⟨issued, matures, hissued, hmatures, hle⟩, hone, hdrawer, hpayee, hdrawee, hdiffer,
      hpositive, hvalid, hdrawing, hpayment, hjurisdiction, hlanguage⟩
  · intro h
    obtain ⟨issued, matures, hissued, hmatures, hle⟩ := h.dates
    exact ⟨issued, hissued, matures, hmatures, hle, h.roles, h.drawer, h.payee, h.drawee, h.apart,
      h.amount, isBlank_of_mem_valid h.currency, h.currency, h.placeOfDrawing, h.placeOfPayment,
      h.jurisdiction, h.language⟩

/-! ## Forms that say the same -/

/-- Two texts denote the same day, or neither denotes one and they are blank alike. -/
def SameDay (s t : String) : Prop := isBlank s = isBlank t ∧ Date.read? s = Date.read? t

/-- Two forms differ in how they are written and not in what they say. -/
structure SaysSame (f g : IssueForm) : Prop where
  maturityDate : SameDay f.maturityDate g.maturityDate
  payeeName : trim f.payeeName = trim g.payeeName
  drawerIsPayee : f.drawerIsPayee = g.drawerIsPayee
  currency : trim f.currency = trim g.currency
  amount : f.amount = g.amount
  draweeName : trim f.draweeName = trim g.draweeName
  drawerIsDrawee : f.drawerIsDrawee = g.drawerIsDrawee
  drawerName : trim f.drawerName = trim g.drawerName
  placeOfDrawing : trim f.placeOfDrawing = trim g.placeOfDrawing
  placeOfPayment : trim f.placeOfPayment = trim g.placeOfPayment
  jurisdiction : trim f.jurisdiction = trim g.jurisdiction
  language : trim f.language = trim g.language
  dateOfIssue : SameDay f.dateOfIssue g.dateOfIssue

theorem requiredDate_eq_of_sameDay {s t : String} (h : SameDay s t) :
    requiredDate s field = requiredDate t field := by
  rw [requiredDate, requiredDate, h.1, h.2]

namespace SaysSame

theorem payee (h : SaysSame f g) : trim f.payee = trim g.payee := by
  rw [IssueForm.payee, IssueForm.payee, h.drawerIsPayee]
  split
  · exact h.drawerName
  · exact h.payeeName

theorem drawee (h : SaysSame f g) : trim f.drawee = trim g.drawee := by
  rw [IssueForm.drawee, IssueForm.drawee, h.drawerIsDrawee]
  split
  · exact h.drawerName
  · exact h.draweeName

end SaysSame

theorem check_eq_of_saysSame (h : SaysSame f g) : f.check = g.check := by
  have hblank : ∀ {s t : String}, trim s = trim t → isBlank s = isBlank t := by
    intro s t hst
    rw [isBlank, isBlank, hst]
  rw [check, check, requiredDate_eq_of_sameDay h.dateOfIssue,
    requiredDate_eq_of_sameDay h.maturityDate, h.drawerIsPayee, h.drawerIsDrawee,
    hblank h.drawerName, hblank h.payee, hblank h.drawee, h.payee, h.drawee, h.amount,
    hblank h.currency, h.currency, hblank h.placeOfDrawing, hblank h.placeOfPayment,
    hblank h.jurisdiction, hblank h.language]

/-! ## White space around the fields -/

def trimIf (chosen : Bool) (s : String) : String := if chosen then trim s else s

theorem trim_trimIf (chosen : Bool) (s : String) : trim (trimIf chosen s) = trim s := by
  cases chosen
  · rfl
  · exact trim_trim s

theorem sameDay_trimIf (chosen : Bool) (s : String) : SameDay (trimIf chosen s) s := by
  cases chosen
  · exact ⟨rfl, rfl⟩
  · exact ⟨isBlank_trim s, Date.read?_trim s⟩

/-- The form with the white space taken off around the fields that are chosen. -/
def trimmedAt (chosen : FormField → Bool) (f : IssueForm) : IssueForm :=
  { f with
    maturityDate := trimIf (chosen .maturityDate) f.maturityDate
    payeeName := trimIf (chosen .payee) f.payeeName
    currency := trimIf (chosen .currencyCode) f.currency
    draweeName := trimIf (chosen .drawee) f.draweeName
    drawerName := trimIf (chosen .drawerName) f.drawerName
    placeOfDrawing := trimIf (chosen .placeOfDrawing) f.placeOfDrawing
    placeOfPayment := trimIf (chosen .placeOfPayment) f.placeOfPayment
    jurisdiction := trimIf (chosen .billJurisdiction) f.jurisdiction
    language := trimIf (chosen .language) f.language
    dateOfIssue := trimIf (chosen .dateOfIssue) f.dateOfIssue }

theorem saysSame_trimmedAt (chosen : FormField → Bool) (f : IssueForm) :
    SaysSame (f.trimmedAt chosen) f where
  maturityDate := sameDay_trimIf _ _
  payeeName := trim_trimIf _ _
  drawerIsPayee := rfl
  currency := trim_trimIf _ _
  amount := rfl
  draweeName := trim_trimIf _ _
  drawerIsDrawee := rfl
  drawerName := trim_trimIf _ _
  placeOfDrawing := trim_trimIf _ _
  placeOfPayment := trim_trimIf _ _
  jurisdiction := trim_trimIf _ _
  language := trim_trimIf _ _
  dateOfIssue := sameDay_trimIf _ _

/-- A form passes exactly when it is issuable. Whatever the verdict on it, it is the same for the
form in which the white space around some of the fields is taken off. -/
theorem check_judges_content (f : IssueForm) :
    (f.check = .ok () ↔ f.Issuable) ∧
      ∀ chosen : FormField → Bool, (f.trimmedAt chosen).check = f.check :=
  ⟨check_eq_ok_iff, fun chosen => check_eq_of_saysSame (saysSame_trimmedAt chosen f)⟩

end BillDesk.Bill.IssueForm
