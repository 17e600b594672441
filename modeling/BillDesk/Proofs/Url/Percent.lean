import BillDesk.Url.Percent

/-!
# Percent-encoding, taken back

What is encoded with a set that contains the percent sign is decoded to the UTF-8 encoding of the
text: a percent sign in the result is never one of the text, so it begins the digits of a byte. For
the same reason a text that looks as if it were encoded already stays what it is. And no character
of the set occurs in the result, unless the digits of bytes are written with it.

Results:
1. `percentDecode_percentEncode`: the bytes of the text are found again.
2. `percentEncode_injective`: no two texts are encoded as the same.
3. `not_mem_percentEncode`: what is in the set does not occur.
-/

namespace BillDesk.Url

/-! ## Digits -/

theorem hexDigitValue?_upperHexDigit :
    ∀ n < 16, Text.hexDigitValue? (upperHexDigit n) = some n := by decide

theorem hexByte?_upperHexDigit (b : UInt8) :
    hexByte? (upperHexDigit (b.toNat / 16)) (upperHexDigit (b.toNat % 16)) = some b := by
  have hb := b.toNat_lt_size
  have hhigh := hexDigitValue?_upperHexDigit (b.toNat / 16) (by simp [UInt8.size] at hb; omega)
  have hlow := hexDigitValue?_upperHexDigit (b.toNat % 16) (Nat.mod_lt _ (by decide))
  have hsum : b.toNat / 16 * 16 + b.toNat % 16 = b.toNat := by omega
  simp only [hexByte?, hhigh, hlow, Option.bind_eq_bind, Option.bind_some, hsum, UInt8.ofNat_toNat]
  rfl

/-! ## Decoding -/

theorem percentDecode_cons_of_ne {c : Char} (h : c ≠ '%') (r : List Char) :
    percentDecode (c :: r) = String.utf8EncodeChar c ++ percentDecode r := by
  rw [percentDecode]
  exact fun _ _ _ hc => absurd hc h

theorem percentDecode_encodeByte (b : UInt8) (r : List Char) :
    percentDecode (encodeByte b ++ r) = b :: percentDecode r := by
  simp only [encodeByte, List.cons_append, List.nil_append, percentDecode,
    hexByte?_upperHexDigit]

theorem percentDecode_encodeBytes (bs : List UInt8) (r : List Char) :
    percentDecode (bs.flatMap encodeByte ++ r) = bs ++ percentDecode r := by
  induction bs with
  | nil => rfl
  | cons b bs ih =>
    rw [List.flatMap_cons, List.append_assoc, percentDecode_encodeByte, ih, List.cons_append]

section Set

variable {set : Char → Bool} {c : Char} {cs cs' : List Char}

theorem percentDecode_encodeChar (hpercent : set '%' = true) (c : Char) (r : List Char) :
    percentDecode (encodeChar set c ++ r) = String.utf8EncodeChar c ++ percentDecode r := by
  rw [encodeChar]
  split
  · exact percentDecode_encodeBytes _ r
  · next hset =>
    refine percentDecode_cons_of_ne ?_ r
    rintro rfl
    exact hset hpercent

/-- The bytes of the text are found again. -/
theorem percentDecode_percentEncode (hpercent : set '%' = true) (cs : List Char) :
    percentDecode (percentEncode set cs) = cs.flatMap String.utf8EncodeChar := by
  induction cs with
  | nil => rfl
  | cons c cs ih =>
    rw [percentEncode, List.flatMap_cons, percentDecode_encodeChar hpercent, ← percentEncode, ih,
      List.flatMap_cons]

/-- The same, as an encoding of the whole text. -/
theorem toByteArray_percentDecode (hpercent : set '%' = true) (s : String) :
    (percentDecode (percentEncode set s.toList)).toByteArray = s.toByteArray := by
  rw [percentDecode_percentEncode hpercent, ← String.utf8Encode_toList, List.utf8Encode]

/-- No two texts are encoded as the same. -/
theorem percentEncode_injective (hpercent : set '%' = true) {s s' : String}
    (h : percentEncode set s.toList = percentEncode set s'.toList) : s = s' := by
  rw [← String.toByteArray_inj, ← toByteArray_percentDecode hpercent, h,
    toByteArray_percentDecode hpercent]

/-! ## What does not occur -/

theorem mem_encodeByte {b : UInt8} (h : c ∈ encodeByte b) :
    c = '%' ∨ ∃ n < 16, c = upperHexDigit n := by
  have hb := b.toNat_lt_size
  simp only [encodeByte, List.mem_cons, List.not_mem_nil, or_false] at h
  rcases h with rfl | rfl | rfl
  · exact .inl rfl
  · exact .inr ⟨_, by simp [UInt8.size] at hb; omega, rfl⟩
  · exact .inr ⟨_, Nat.mod_lt _ (by decide), rfl⟩

/-- A character of the set does not occur, unless it is one that bytes are written with. -/
theorem not_mem_percentEncode (hset : set c = true) (hpercent : c ≠ '%')
    (hdigit : ∀ n < 16, c ≠ upperHexDigit n) : c ∉ percentEncode set cs := by
  intro h
  obtain ⟨d, _, hd⟩ := List.mem_flatMap.1 h
  rw [encodeChar] at hd
  split at hd
  · obtain ⟨b, _, hb⟩ := List.mem_flatMap.1 hd
    rcases mem_encodeByte hb with hc | ⟨n, hn, hc⟩
    · exact hpercent hc
    · exact hdigit n hn hc
  · next hkept =>
    obtain rfl := List.mem_singleton.1 hd
    exact hkept hset

end Set

end BillDesk.Url
