import GameProbe.Proofs.Text.Utf16

/-!
# Surrogates in pairs

Code units are those of a text just if no surrogate among them is without its partner. So a text
always comes back from its bytes, and bytes come back from the text that they are read as just if
their surrogates stand in pairs.
-/

namespace GameProbe.Utf16

/-- No surrogate is without its partner: right behind every high one stands a low one, and right
before every low one a high one. -/
structure Paired (units : List UInt16) : Prop where
  first : units[0]?.any isLow = false
  next : ∀ i, units[i + 1]?.any isLow = units[i]?.any isHigh

variable {unit high low : UInt16} {units : List UInt16}

lemma not_isHigh_of_isLow (h : isLow unit) : ¬ isHigh unit := by
  rw [isLow_iff] at h
  rw [isHigh_iff]
  omega

/-! ### From unit to unit -/

lemma paired_nil : Paired [] where
  first := rfl
  next _ := rfl

/-- A unit that is no surrogate has no part in the pairs behind it. -/
lemma paired_cons_iff (hhigh : ¬ isHigh unit) (hlow : ¬ isLow unit) :
    Paired (unit :: units) ↔ Paired units := by
  constructor
  · intro h
    have hhead := h.next 0
    refine ⟨?_, fun i => h.next (i + 1)⟩
    simpa [hhigh] using hhead
  · intro h
    refine ⟨by simpa using hlow, fun i => ?_⟩
    cases i with
    | zero => simpa [hhigh] using h.first
    | succ i => exact h.next i

lemma paired_pair_iff (hhigh : isHigh high) (hlow : isLow low) :
    Paired (high :: low :: units) ↔ Paired units := by
  have hhigh' : ¬ isLow high := fun h => not_isHigh_of_isLow h hhigh
  have hlow' : ¬ isHigh low := not_isHigh_of_isLow hlow
  constructor
  · intro h
    have hhead := h.next 1
    refine ⟨?_, fun i => h.next (i + 2)⟩
    simpa [hlow'] using hhead
  · intro h
    refine ⟨by simpa using hhigh', fun i => ?_⟩
    match i with
    | 0 => simp [hhigh, hlow]
    | 1 => simpa [hlow'] using h.first
    | i + 2 => exact h.next i

lemma exists_low_of_paired (h : Paired (high :: units)) (hhigh : isHigh high) :
    ∃ low rest, units = low :: rest ∧ isLow low := by
  have hnext := h.next 0
  cases units with
  | nil => simp [hhigh] at hnext
  | cons low rest => exact ⟨low, rest, rfl, by simpa [hhigh] using hnext⟩

/-! ### Units of characters -/

/-- A character has one unit, which is no surrogate, or a pair of them. -/
lemma encodeChar_cases (c : Char) :
    (∃ unit, encodeChar c = [unit] ∧ ¬ isHigh unit ∧ ¬ isLow unit) ∨
      ∃ high low, encodeChar c = [high, low] ∧ isHigh high ∧ isLow low := by
  have hc : c.toNat < 0xD800 ∨ 0xDFFF < c.toNat ∧ c.toNat < 0x110000 := c.valid
  rw [encodeChar]
  by_cases h : c.toNat < 0x10000
  · refine .inl ⟨_, if_pos h, ?_, ?_⟩
    · rw [isHigh_iff, toNat_toUInt16 h]
      omega
    · rw [isLow_iff, toNat_toUInt16 h]
      omega
  · refine .inr ⟨_, _, if_neg h, ?_, ?_⟩
    · rw [isHigh_iff, toNat_toUInt16 (by omega)]
      omega
    · rw [isLow_iff, toNat_toUInt16 (by omega)]
      omega

/-- Every number outside the surrogates is that of a character. -/
lemma exists_char {n : Nat} (h : n < 0xD800 ∨ 0xDFFF < n ∧ n < 0x110000) :
    ∃ c : Char, c.toNat = n :=
  ⟨.ofNatAux n h, rfl⟩

lemma toUInt16_of_eq {n : Nat} (h : n = unit.toNat) : n.toUInt16 = unit := by
  rw [h]
  exact UInt16.ofNat_toNat

lemma exists_char_of_unit (hhigh : ¬ isHigh unit) (hlow : ¬ isLow unit) :
    ∃ c, encodeChar c = [unit] := by
  have hunit := unit.toNat_lt
  rw [isHigh_iff] at hhigh
  rw [isLow_iff] at hlow
  obtain ⟨c, hc⟩ := exists_char (n := unit.toNat) (by omega)
  refine ⟨c, (if_pos (by omega)).trans ?_⟩
  rw [toUInt16_of_eq hc]

lemma exists_char_of_pair (hhigh : isHigh high) (hlow : isLow low) :
    ∃ c, encodeChar c = [high, low] := by
  rw [isHigh_iff] at hhigh
  rw [isLow_iff] at hlow
  obtain ⟨c, hc⟩ := exists_char
    (n := 0x10000 + (high.toNat - 0xD800) * 0x400 + (low.toNat - 0xDC00)) (by omega)
  have hfirst : (0xD800 + (c.toNat - 0x10000) / 0x400).toUInt16 = high := toUInt16_of_eq (by omega)
  have hsecond : (0xDC00 + (c.toNat - 0x10000) % 0x400).toUInt16 = low := toUInt16_of_eq (by omega)
  refine ⟨c, (if_neg (by omega)).trans ?_⟩
  rw [hfirst, hsecond]

/-! ### Units of texts -/

lemma paired_encode (text : String) : Paired (encode text) := by
  suffices ∀ chars : List Char, Paired (chars.flatMap encodeChar) from this text.toList
  intro chars
  induction chars with
  | nil => exact paired_nil
  | cons c chars ih =>
    rw [List.flatMap_cons]
    rcases encodeChar_cases c with ⟨unit, hc, hhigh, hlow⟩ | ⟨high, low, hc, hhigh, hlow⟩
    · rw [hc]
      exact (paired_cons_iff hhigh hlow).mpr ih
    · rw [hc]
      exact (paired_pair_iff hhigh hlow).mpr ih

lemma exists_chars_of_paired :
    ∀ units : List UInt16, Paired units → ∃ chars : List Char, chars.flatMap encodeChar = units
  | [], _ => ⟨[], rfl⟩
  | unit :: units, h => by
    -- the first unit tells whether one unit or two make up the first character
    by_cases hhigh : isHigh unit
    · obtain ⟨low, rest, rfl, hlow⟩ := exists_low_of_paired h hhigh
      obtain ⟨c, hc⟩ := exists_char_of_pair hhigh hlow
      obtain ⟨chars, rfl⟩ := exists_chars_of_paired rest ((paired_pair_iff hhigh hlow).mp h)
      exact ⟨c :: chars, by rw [List.flatMap_cons, hc]; rfl⟩
    · have hlow : ¬ isLow unit := by simpa using h.first
      obtain ⟨c, hc⟩ := exists_char_of_unit hhigh hlow
      obtain ⟨chars, rfl⟩ := exists_chars_of_paired units ((paired_cons_iff hhigh hlow).mp h)
      exact ⟨c :: chars, by rw [List.flatMap_cons, hc]; rfl⟩

/-- The units of texts are those whose surrogates stand in pairs. -/
theorem paired_iff_exists_encode : Paired units ↔ ∃ text, encode text = units := by
  constructor
  · intro h
    obtain ⟨chars, hchars⟩ := exists_chars_of_paired units h
    exact ⟨String.ofList chars, by rw [encode, String.toList_ofList, hchars]⟩
  · rintro ⟨text, rfl⟩
    exact paired_encode text

/-- Units come back from the text that they are read as just if they are the units of a text. -/
theorem encode_decodeLossy_iff : encode (decodeLossy units) = units ↔ Paired units := by
  rw [paired_iff_exists_encode]
  constructor
  · intro h
    exact ⟨_, h⟩
  · rintro ⟨text, rfl⟩
    rw [decodeLossy_encode]

/-! ### Bytes -/

/-- An even number of bytes are the bytes of their units. -/
lemma flatMap_unitsOfBytes {bytes : List UInt8} (h : bytes.length % 2 = 0) :
    (unitsOfBytes bytes).flatMap unitBytes = bytes := by
  have hlength : bytes.length = 2 * (bytes.length / 2) := by omega
  obtain ⟨units, -, rfl⟩ := exists_units hlength
  rw [unitsOfBytes_flatMap_unitBytes]

/-- A text comes back from its bytes, also with an odd one behind them. An even number of bytes come
back from the text that they are read as just if no surrogate among their units is without its
partner. -/
theorem texts_and_paired_bytes_come_back :
    (∀ text, decodeBytes (encodeBytes text) = text) ∧
    (∀ text odd, decodeBytes (encodeBytes text ++ [odd]) = text) ∧
    ∀ bytes : List UInt8, bytes.length % 2 = 0 →
      (unitsOfBytes bytes).flatMap unitBytes = bytes ∧
        (encodeBytes (decodeBytes bytes) = bytes ↔ Paired (unitsOfBytes bytes)) := by
  refine ⟨decodeBytes_encodeBytes, decodeBytes_encodeBytes_odd, fun bytes heven => ?_⟩
  have hbytes := flatMap_unitsOfBytes heven
  refine ⟨hbytes, ?_⟩
  rw [← encode_decodeLossy_iff, encodeBytes, decodeBytes]
  constructor
  · intro h
    exact flatMap_unitBytes_injective (h.trans hbytes.symm)
  · intro h
    rw [h, hbytes]

/-- The two surrogates of U+1F600. -/
def pairBytes : List UInt8 := [0xD8, 0x3D, 0xDE, 0x00]

/-- The same two, the low one first. -/
def turnedBytes : List UInt8 := [0xDE, 0x00, 0xD8, 0x3D]

theorem turned_bytes_do_not_come_back :
    pairBytes.length % 2 = 0 ∧ encodeBytes (decodeBytes pairBytes) = pairBytes ∧
      turnedBytes.length % 2 = 0 ∧ encodeBytes (decodeBytes turnedBytes) ≠ turnedBytes := by
  have hpair : Paired (unitsOfBytes pairBytes) := (paired_pair_iff rfl rfl).mpr paired_nil
  have hturned : ¬ Paired (unitsOfBytes turnedBytes) := fun h => Bool.noConfusion h.first
  have hcome := texts_and_paired_bytes_come_back.2.2
  exact ⟨rfl, (hcome pairBytes rfl).2.mpr hpair, rfl, fun h => hturned ((hcome _ rfl).2.mp h)⟩

end GameProbe.Utf16
