import BillDesk.Desk.State
import BillDesk.Proofs.Date.Age
import BillDesk.Proofs.Date.Text

/-!
# Which identities may be created

An identity is created of a form that is complete and whose owner has come of age. Coming of age is
a day of the calendar, the anniversary on which the years are full. So a form that passes on one day
passes on every later one, and the identity that is made of it exists.

Results:
1. `check_eq_ok_iff`: which forms pass on a day.
2. `check_of_le`: a form that passes goes on to pass.
3. `isCreated_of_check`: what is made of it is an identity.
4. `passes_once_of_age`: all of this, with what it rests on.
-/

namespace BillDesk

namespace Identity.Form

open Text

/-- The form may be posted on the day. -/
structure Acceptable (f : Form) (today : Date) : Prop where
  name : isBlank f.name = false
  email : isBlank f.email = false
  atSign : '@' ∈ f.email.toList
  cityOfBirth : isBlank f.cityOfBirth = false
  countryOfBirth : isBlank f.countryOfBirth = false
  postalAddress : isBlank f.postalAddress = false
  ofAge : ∃ birth comesOfAge, Date.read? f.dateOfBirth = some birth ∧
    birth.anniversary? legalAge = some comesOfAge ∧ comesOfAge ≤ today

variable {f : Form} {today later : Date}

theorem check_eq_ok_iff : f.check today = .ok () ↔ f.Acceptable today := by
  have hsign : (!f.email.toList.contains '@') = false ↔ '@' ∈ f.email.toList := by
    rw [Bool.not_eq_false', List.contains_iff_mem]
  have hage : ∀ birth : Date, decide (birth.ageOn today < legalAge) = false ↔
      ∃ comesOfAge, birth.anniversary? legalAge = some comesOfAge ∧ comesOfAge ≤ today := by
    intro birth
    rw [decide_eq_false_iff_not, Int.not_lt, Date.le_ageOn_iff]
  simp only [check, Check.seq_eq_ok_iff, refuseIf_eq_ok, hsign]
  constructor
  · rintro ⟨hname, hemail, hat, _, h⟩
    split at h
    · cases h
    next birth hbirth =>
    simp only [Check.seq_eq_ok_iff, refuseIf_eq_ok, hage] at h
    obtain ⟨⟨comesOfAge, hday, hle⟩, hcity, hcountry, haddress⟩ := h
    exact ⟨hname, hemail, hat, hcity, hcountry, haddress, birth, comesOfAge, hbirth, hday, hle⟩
  · intro h
    obtain ⟨birth, comesOfAge, hbirth, hday, hle⟩ := h.ofAge
    refine ⟨h.name, h.email, h.atSign, Date.isBlank_of_read? hbirth, ?_⟩
    rw [hbirth]
    simp only [Check.seq_eq_ok_iff, refuseIf_eq_ok, hage]
    exact ⟨⟨comesOfAge, hday, hle⟩, h.cityOfBirth, h.countryOfBirth, h.postalAddress⟩

/-- A form that passes goes on to pass. -/
theorem check_of_le (h : f.check today = .ok ()) (hlater : today ≤ later) :
    f.check later = .ok () := by
  rw [check_eq_ok_iff] at h ⊢
  obtain ⟨birth, comesOfAge, hbirth, hday, hle⟩ := h.ofAge
  exact { h with ofAge := ⟨birth, comesOfAge, hbirth, hday, hle.trans hlater⟩ }

/-- What is made of a form that passes is an identity. -/
theorem isCreated_of_check {i : Identity} (h : i.form.check today = .ok ()) :
    i.isCreated = true := by
  have hform := check_eq_ok_iff.1 h
  have hname : isBlank i.name = false := hform.name
  have hemail : isBlank i.email = false := hform.email
  rw [isCreated, hname, hemail]
  rfl

/-- With such an identity there is more to do than to create one. -/
theorem startPage_of_check {i : Identity} {d : Desk} (h : i.form.check today = .ok ())
    (hd : d.identity? = some i) : d.startPage = .home := by
  rw [Desk.startPage, Desk.identityCreated, hd, Option.any_some, isCreated_of_check h, if_pos rfl]

/-- A form passes exactly when it is complete and its owner has come of age. The age is the number
of years that fit between the days, and within the integers of 32 bits; it grows with the day and
falls with the birth. So a form that passes goes on to pass, and what is made of it is an identity
with which the desk begins on another page. -/
theorem passes_once_of_age :
    (∀ (f : Form) (today : Date), f.check today = .ok () ↔ f.Acceptable today) ∧
      (∀ (birth day : Date) (years : Int), years = birth.ageOn day ↔
        birth.birthdayPosition (birth.year + years) ≤ day.position ∧
          day.position < birth.birthdayPosition (birth.year + years + 1)) ∧
      (∀ birth day : Date, (Date.FitsInt32 birth.year ∧ Date.FitsInt32 day.year) ∧
        Date.FitsInt32 (day.year - birth.year) ∧ Date.FitsInt32 (birth.ageOn day)) ∧
      (∀ birth day day' : Date, day ≤ day' → birth.ageOn day ≤ birth.ageOn day') ∧
      (∀ birth birth' day : Date, birth ≤ birth' → birth'.ageOn day ≤ birth.ageOn day) ∧
      (∀ (f : Form) (today later : Date), f.check today = .ok () → today ≤ later →
        f.check later = .ok ()) ∧
      ∀ (i : Identity) (today : Date), i.form.check today = .ok () →
        i.isCreated = true ∧ ∀ d : Desk, d.identity? = some i → d.startPage ≠ .identity := by
  refine ⟨fun _ _ => check_eq_ok_iff, fun _ _ _ => Date.ageOn_eq_iff, Date.fitsInt32_ageOn,
    fun _ _ _ => Date.ageOn_mono, fun _ _ _ => Date.ageOn_antitone, fun _ _ _ => check_of_le,
    fun i today h => ⟨isCreated_of_check h, fun d hd => ?_⟩⟩
  rw [startPage_of_check h hd]
  decide

/-- Born on 29 February, one comes of age on 1 March of a common year. -/
theorem passes_once_of_age_leapDay :
    let i : Identity := {
      name := "Minka", email := "minka@example.com", dateOfBirth := "2004-2-29"
      cityOfBirth := "Vienna", countryOfBirth := "AT", postalAddress := "Street 1" }
    i.form.check ⟨2022, 2, 28, by decide⟩ = .error (.tooYoung 18) ∧
      i.form.check ⟨2022, 3, 1, by decide⟩ = .ok () ∧
      i.form.check ⟨2023, 2, 28, by decide⟩ = .ok () ∧ i.isCreated = true := by
  intro i
  have hbefore : i.form.check ⟨2022, 2, 28, by decide⟩ = .error (.tooYoung 18) := by
    decide +kernel
  have hday : i.form.check ⟨2022, 3, 1, by decide⟩ = .ok () := by decide +kernel
  have hle : (⟨2022, 3, 1, by decide⟩ : Date) ≤ ⟨2023, 2, 28, by decide⟩ := by
    rw [← Date.compare_ne_gt_iff]
    decide
  obtain ⟨_, _, _, _, _, hlater, hcreated⟩ := passes_once_of_age
  exact ⟨hbefore, hday, hlater i.form _ _ hday hle, (hcreated i _ hday).1⟩

end Identity.Form

end BillDesk
