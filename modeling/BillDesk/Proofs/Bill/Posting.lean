import BillDesk.Ledger.Http
import BillDesk.Proofs.Bill.IssueForm
import BillDesk.Service.Decision

/-!
# What is posted to issue a bill

A form that passes the check is posted as it was filled in. The check goes by what the form says,
so what is posted may be written in many ways: a currency with white space around it is none that
bills are issued in, a day may have one digit, and a name may not be the name of the one it means.
Every form has a normal form, in which the currency and the names are trimmed and the dates have
their one text. It gets the same verdict, and it is what could be posted instead.

Results:
1. `order_eq_ok_iff`: which forms are posted, and as what.
2. `check_normalized`: the normal form gets the same verdict.
3. `isNormalized_issue_iff`: what is posted for a form is normalized exactly when the form is.
4. `posted_as_filled_in`: for which forms normalized fields are posted.
5. `not_postsNormalized_careless`: a form for which they are not.
-/

namespace BillDesk

/-- The text of the date that a text denotes, and the text itself where it denotes none. -/
def Date.canonical (s : String) : String := ((read? s).map text).getD s

theorem Date.canonical_of_read? {s : String} {d : Date} (h : read? s = some d) :
    canonical s = d.text := by
  rw [canonical, h]
  rfl

theorem Date.canonical_text (d : Date) : canonical d.text = d.text :=
  canonical_of_read? (read?_text d)

theorem Date.canonical_canonical (s : String) : canonical (canonical s) = canonical s := by
  rcases h : read? s with _ | d
  · have hself : canonical s = s := by
      rw [canonical, h]
      rfl
    rw [hself, hself]
  · rw [canonical_of_read? h, canonical_text]

/-- The fields of an order to issue a bill are written in the one way that they have: the currency
is a code that bills are issued in, both dates are the texts of days, with the day of issue not
after the day of maturity, and no name has white space around it. -/
structure Order.IsNormalized (order : Order) : Prop where
  currency : ∃ code ∈ Currency.valid, order.fields.lookup "currency_code" = some code
  dates : ∃ issued matures : Date, issued ≤ matures ∧
    order.fields.lookup "date_of_issue" = some issued.text ∧
    order.fields.lookup "maturity_date" = some matures.text
  names : ∀ field ∈ ["drawer_name", "payee_name", "drawee_name"], ∃ name,
    order.fields.lookup field = some name ∧ Text.trim name = name

namespace Bill.IssueForm

open Text

variable {f : IssueForm}

theorem order_eq_ok_iff {order : Order} :
    f.order = .ok order ↔ f.Issuable ∧ order = .issue f := by
  rw [IssueForm.order, Order.checked_eq_ok_iff, check_eq_ok_iff]

/-- The form with the currency and the names trimmed and the dates written in their one way. -/
def normalized (f : IssueForm) : IssueForm :=
  { f with
    maturityDate := Date.canonical f.maturityDate
    payeeName := trim f.payeeName
    currency := trim f.currency
    draweeName := trim f.draweeName
    drawerName := trim f.drawerName
    dateOfIssue := Date.canonical f.dateOfIssue }

theorem sameDay_canonical (s : String) : SameDay (Date.canonical s) s := by
  rcases h : Date.read? s with _ | d
  · rw [Date.canonical, h]
    exact ⟨rfl, rfl⟩
  · have hread := Date.read?_text d
    rw [Date.canonical_of_read? h]
    exact ⟨(Date.isBlank_of_read? hread).trans (Date.isBlank_of_read? h).symm, hread.trans h.symm⟩

theorem saysSame_normalized (f : IssueForm) : SaysSame f.normalized f where
  maturityDate := sameDay_canonical _
  payeeName := trim_trim _
  drawerIsPayee := rfl
  currency := trim_trim _
  amount := rfl
  draweeName := trim_trim _
  drawerIsDrawee := rfl
  drawerName := trim_trim _
  placeOfDrawing := rfl
  placeOfPayment := rfl
  jurisdiction := rfl
  language := rfl
  dateOfIssue := sameDay_canonical _

theorem check_normalized (f : IssueForm) : f.normalized.check = f.check :=
  check_eq_of_saysSame (saysSame_normalized f)

theorem normalized_normalized (f : IssueForm) : f.normalized.normalized = f.normalized := by
  simp only [normalized, Date.canonical_canonical, trim_trim]

theorem normalized_eq_iff :
    f.normalized = f ↔ Date.canonical f.maturityDate = f.maturityDate ∧
      trim f.payeeName = f.payeeName ∧ trim f.currency = f.currency ∧
      trim f.draweeName = f.draweeName ∧ trim f.drawerName = f.drawerName ∧
      Date.canonical f.dateOfIssue = f.dateOfIssue := by
  cases f
  simp only [normalized, mk.injEq, true_and]

theorem isNormalized_issue_iff (h : f.Issuable) :
    (Order.issue f).IsNormalized ↔ f.normalized = f := by
  rw [normalized_eq_iff]
  constructor
  · rintro ⟨⟨code, hcode, hcurrency⟩, ⟨issued, matures, _, hissued, hmatures⟩, hnames⟩
    have hname : ∀ field value, field ∈ ["drawer_name", "payee_name", "drawee_name"] →
        (Order.issue f).fields.lookup field = some value → trim value = value := by
      intro field value hfield hvalue
      obtain ⟨name, hposted, htrimmed⟩ := hnames field hfield
      rwa [Option.some.inj (hposted.symm.trans hvalue)] at htrimmed
    have hvalid : ∀ code ∈ Currency.valid, trim code = code := by decide
    have hcurrency : f.currency = code := Option.some.inj hcurrency
    have hissued : f.dateOfIssue = issued.text := Option.some.inj hissued
    have hmatures : f.maturityDate = matures.text := Option.some.inj hmatures
    rw [hcurrency, hissued, hmatures]
    exact ⟨Date.canonical_text _, hname "payee_name" _ (by decide) rfl, hvalid code hcode,
      hname "drawee_name" _ (by decide) rfl, hname "drawer_name" _ (by decide) rfl,
      Date.canonical_text _⟩
  · rintro ⟨hmatures, hpayee, hcurrency, hdrawee, hdrawer, hissued⟩
    obtain ⟨issued, matures, hreadIssued, hreadMatures, hle⟩ := h.dates
    rw [Date.canonical_of_read? hreadIssued] at hissued
    rw [Date.canonical_of_read? hreadMatures] at hmatures
    refine ⟨⟨f.currency, hcurrency ▸ h.currency, rfl⟩, ⟨issued, matures, hle, ?_, ?_⟩, ?_⟩
    · rw [hissued]
      rfl
    · rw [hmatures]
      rfl
    · simp only [List.forall_mem_cons, List.not_mem_nil, false_imp_iff, implies_true, and_true]
      exact ⟨⟨f.drawerName, rfl, hdrawer⟩, ⟨f.payeeName, rfl, hpayee⟩, ⟨f.draweeName, rfl, hdrawee⟩⟩

/-- Whatever is posted for the form is normalized. -/
def PostsNormalized (f : IssueForm) : Prop := ∀ order, f.order = .ok order → order.IsNormalized

theorem postsNormalized_iff : f.PostsNormalized ↔ (f.Issuable → f.normalized = f) := by
  simp only [PostsNormalized, order_eq_ok_iff]
  constructor
  · intro hposts hissuable
    exact (isNormalized_issue_iff hissuable).1 (hposts _ ⟨hissuable, rfl⟩)
  · rintro hnormal order ⟨hissuable, rfl⟩
    exact (isNormalized_issue_iff hissuable).2 (hnormal hissuable)

/-- A form is posted exactly when it is issuable, and as it was filled in. So its fields are posted
normalized exactly when they were filled in like that. The normal form of a form gets the same
verdict, and it is always posted normalized. -/
theorem posted_as_filled_in (f : IssueForm) :
    (∀ order, f.order = .ok order ↔ f.Issuable ∧ order = .issue f) ∧
      (f.PostsNormalized ↔ (f.Issuable → f.normalized = f)) ∧
      f.normalized.check = f.check ∧ f.normalized.PostsNormalized :=
  ⟨fun _ => order_eq_ok_iff, postsNormalized_iff, check_normalized f,
    postsNormalized_iff.2 fun _ => normalized_normalized f⟩

/-- A form with a blank before the currency, a day of one digit and a blank behind a name. -/
def careless : IssueForm where
  maturityDate := "2025-07-15"
  payeeName := "Payee "
  currency := " sat"
  amount := 5000
  draweeName := "Drawee"
  drawerName := "Drawer"
  placeOfDrawing := "Vienna"
  placeOfPayment := "Graz"
  jurisdiction := "AT"
  dateOfIssue := "2025-1-5"

/-- The careless form passes and is posted with a currency that bills are not issued in. -/
theorem not_postsNormalized_careless : ¬careless.PostsNormalized := by
  intro hposts
  obtain ⟨code, hcode, hposted⟩ := (hposts (.issue careless) (by decide +kernel)).currency
  rw [← Option.some.inj hposted] at hcode
  exact absurd hcode (by decide)

end Bill.IssueForm

end BillDesk
