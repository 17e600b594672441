import BillDesk.Text.Blank
import Mathlib.Data.List.DropRight

/-!
# Texts without the white space around them

Trimming takes off all that there is to take off, so a trimmed text has no white space left around
it.

Results:
1. `trimChars_of_ends` and `trimChars_of_no_blank`: a text with no white space at its ends, or with
   none at all, is trimmed.
2. `trimChars_append` and `exists_trimChars`: what is taken off is white space at both ends.
3. `trim_trim`: a text from which the white space was taken is trimmed.
4. `isBlank_trim`: trimming leaves a text blank or not.
-/

namespace BillDesk.Text

/-- Nothing but white space. -/
def AllBlank (cs : List Char) : Prop := ∀ c ∈ cs, isBlankChar c = true

theorem allBlank_nil : AllBlank [] := by simp [AllBlank]

/-- Characters that begin with none that is dropped are kept. -/
theorem dropWhile_of_head? {p : Char → Bool} {cs : List Char} (h : ∀ c ∈ cs.head?, p c = false) :
    cs.dropWhile p = cs := by
  cases cs with
  | nil => rfl
  | cons c cs => exact List.dropWhile_cons_of_neg (by simp [h c rfl])

theorem trimChars_of_ends {cs : List Char} (hfirst : ∀ c ∈ cs.head?, isBlankChar c = false)
    (hlast : ∀ c ∈ cs.getLast?, isBlankChar c = false) : trimChars cs = cs := by
  have hback : ∀ c ∈ cs.reverse.head?, isBlankChar c = false := by
    rwa [List.head?_reverse]
  rw [trimChars, dropWhile_of_head? hfirst, dropWhile_of_head? hback, List.reverse_reverse]

theorem trimChars_of_no_blank {cs : List Char} (h : ∀ c ∈ cs, isBlankChar c = false) :
    trimChars cs = cs :=
  trimChars_of_ends (fun c hc => h c (List.mem_of_mem_head? hc))
    fun c hc => h c (List.mem_of_mem_getLast? hc)

theorem trimChars_eq (cs : List Char) :
    trimChars cs = (cs.dropWhile isBlankChar).rdropWhile isBlankChar := rfl

/-- White space at the ends is taken off. -/
theorem trimChars_append {before after cs : List Char} (hbefore : AllBlank before)
    (hafter : AllBlank after) (hcs : trimChars cs = cs) (hne : cs ≠ []) :
    trimChars (before ++ cs ++ after) = cs := by
  have hfront : cs.dropWhile isBlankChar ≠ [] := by
    intro hnil
    rw [trimChars, hnil] at hcs
    exact hne hcs.symm
  have hback : ∀ c ∈ after.reverse, isBlankChar c = true :=
    fun c hc => hafter c (List.mem_reverse.1 hc)
  rw [trimChars, List.append_assoc, List.dropWhile_append_of_pos hbefore, List.dropWhile_append,
    if_neg (by simpa using hfront), List.reverse_append, List.dropWhile_append_of_pos hback]
  exact hcs

/-- A text is what is left of it, with white space at both ends. -/
theorem exists_trimChars (cs : List Char) :
    ∃ before after, AllBlank before ∧ AllBlank after ∧ cs = before ++ trimChars cs ++ after := by
  have hfront : AllBlank (cs.takeWhile isBlankChar) := fun c hc => List.mem_takeWhile_imp hc
  refine ⟨cs.takeWhile isBlankChar, (cs.dropWhile isBlankChar).rtakeWhile isBlankChar, hfront,
    fun c hc => List.mem_rtakeWhile_imp hc, ?_⟩
  rw [trimChars_eq, List.append_assoc, List.rdropWhile_append_rtakeWhile,
    List.takeWhile_append_dropWhile]

theorem trimChars_trimChars (cs : List Char) : trimChars (trimChars cs) = trimChars cs := by
  have hfront : (trimChars cs).dropWhile isBlankChar = trimChars cs := by
    obtain ⟨back, hback⟩ := List.rdropWhile_prefix isBlankChar (cs.dropWhile isBlankChar)
    rw [← trimChars_eq] at hback
    cases htrimmed : trimChars cs with
    | nil => rfl
    | cons c ds =>
      -- What is left begins with the first character that is no white space.
      have hhead := List.head?_dropWhile_not isBlankChar cs
      rw [← hback, htrimmed] at hhead
      exact List.dropWhile_cons_of_neg (Bool.eq_false_iff.1 hhead)
  rw [trimChars_eq (trimChars cs), hfront, trimChars_eq, List.rdropWhile_idempotent]

theorem trim_trim (s : String) : trim (trim s) = trim s := by
  rw [trim, trim, String.toList_ofList, trimChars_trimChars]

theorem isBlank_trim (s : String) : isBlank (trim s) = isBlank s := by
  rw [isBlank, trim_trim, isBlank]

end BillDesk.Text
