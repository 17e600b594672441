import BillDesk.Json.Writer
import BillDesk.Proofs.Json.Grammar

/-!
# Written strings

A string literal is written character by character. Each character is spelled as its code point,
whether it was escaped or not, and since no character is a surrogate, the code points make the same
text again. A literal that denotes no text is written as a lone surrogate.

Results:
1. `spellsUnit_escapeChar`: one character.
2. `spellsText_quote`: a whole literal.
-/

namespace BillDesk.Json

/-- A control character is escaped as its code point. -/
theorem hexUnit_hexDigit : ∀ n < 32,
    hexUnit '0' '0' (hexDigit (n / 16)) (hexDigit (n % 16)) = some n := by decide

/-- A character is spelled by its escape, or as it stands. -/
theorem spellsUnit_escapeChar (c : Char) : SpellsUnit (escapeChar c) c.toNat := by
  by_cases hquote : c = '"'
  · exact hquote ▸ .short rfl
  by_cases hbackslash : c = '\\'
  · exact hbackslash ▸ .short rfl
  by_cases hb : c = '\x08'
  · exact hb ▸ .short rfl
  by_cases hf : c = '\x0c'
  · exact hf ▸ .short rfl
  by_cases hn : c = '\n'
  · exact hn ▸ .short rfl
  by_cases hr : c = '\r'
  · exact hr ▸ .short rfl
  by_cases ht : c = '\t'
  · exact ht ▸ .short rfl
  by_cases hcontrol : c.toNat < 32
  · have hescaped : escapeChar c =
        ['\\', 'u', '0', '0', hexDigit (c.toNat / 16), hexDigit (c.toNat % 16)] := by
      simp only [escapeChar, hquote, hbackslash, hb, hf, hn, hr, ht, hcontrol, if_true, if_false]
    rw [hescaped]
    exact .hex (hexUnit_hexDigit _ hcontrol)
  · have hraw : escapeChar c = [c] := by
      simp only [escapeChar, hquote, hbackslash, hb, hf, hn, hr, ht, hcontrol, if_false]
    rw [hraw]
    exact .raw hquote hbackslash (Nat.not_lt.1 hcontrol)

theorem spellsUnits_escaped (cs : List Char) :
    SpellsUnits (cs.flatMap escapeChar) (cs.map Char.toNat) := by
  induction cs with
  | nil => exact .nil
  | cons c cs ih =>
    rw [List.flatMap_cons, List.map_cons]
    exact .cons (spellsUnit_escapeChar c) ih

/-- A character is no surrogate. -/
theorem not_isSurrogate_toNat (c : Char) :
    isHighSurrogate c.toNat = false ∧ isLowSurrogate c.toNat = false := by
  have hvalid : c.toNat < 0xD800 ∨ (0xDFFF < c.toNat ∧ c.toNat < 0x110000) := c.valid
  simp only [isHighSurrogate, isLowSurrogate, Bool.and_eq_false_iff, decide_eq_false_iff_not]
  omega

theorem joinUnits_cons (c : Char) (us : List Nat) :
    joinUnits (c.toNat :: us) = (joinUnits us).map (c :: ·) := by
  obtain ⟨hhigh, hlow⟩ := not_isSurrogate_toNat c
  cases us with
  | nil => simp [joinUnits, hhigh, hlow]
  | cons u us => simp [joinUnits, hhigh, hlow]

theorem joinUnits_toNat (cs : List Char) : joinUnits (cs.map Char.toNat) = some cs := by
  induction cs with
  | nil => rfl
  | cons c cs ih => rw [List.map_cons, joinUnits_cons, ih, Option.map_some]

/-- A literal is spelled as it is written. -/
theorem spellsText_quote (t : Text) : SpellsText (quote t) t := by
  cases t with
  | none =>
    have hunits : SpellsUnits ['\\', 'u', 'd', '8', '0', '0'] [0xD800] := .cons (.hex rfl) .nil
    exact .intro hunits
  | some s =>
    have htext := SpellsText.intro (spellsUnits_escaped s.toList)
    rwa [joinUnits_toNat, Option.map_some, String.ofList_toList] at htext

end BillDesk.Json
