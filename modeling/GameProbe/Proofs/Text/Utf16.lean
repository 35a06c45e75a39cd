import GameProbe.Text.Utf16
import Mathlib.Tactic.Lemma

/-!
# Reading UTF-16 back

The code units of a text are read back as that text, and bytes as the code units that they were
made of. A character of one unit is the only one that has that unit among its own.
-/

namespace GameProbe.Utf16

variable {decoded : List Char}

lemma toNat_toUInt16 {n : Nat} (h : n < 0x10000) : n.toUInt16.toNat = n := by
  rw [Nat.toUInt16, UInt16.toNat_ofNat', Nat.mod_eq_of_lt h]

lemma isHigh_iff {unit : UInt16} : isHigh unit ↔ 0xD800 ≤ unit.toNat ∧ unit.toNat < 0xDC00 := by
  simp [isHigh, UInt16.le_iff_toNat_le, UInt16.lt_iff_toNat_lt]

lemma isLow_iff {unit : UInt16} : isLow unit ↔ 0xDC00 ≤ unit.toNat ∧ unit.toNat < 0xE000 := by
  simp [isLow, UInt16.le_iff_toNat_le, UInt16.lt_iff_toNat_lt]

/-! ### Characters -/

lemma start_of_not_surrogate {n : Nat} (h : n < 0x10000) (hn : n < 0xD800 ∨ 0xDFFF < n) :
    Scan.start decoded n.toUInt16 = ⟨Char.ofNat n :: decoded, none⟩ := by
  have hunit := toNat_toUInt16 h
  have hhigh : ¬ isHigh n.toUInt16 := by
    rw [isHigh_iff, hunit]
    omega
  have hlow : ¬ isLow n.toUInt16 := by
    rw [isLow_iff, hunit]
    omega
  rw [Scan.start, if_neg hhigh, if_neg hlow, hunit]

/-- The first half of a pair waits for the second. -/
lemma start_high {n : Nat} (h : n < 0x400) :
    Scan.start decoded (0xD800 + n).toUInt16 = ⟨decoded, some (0xD800 + n).toUInt16⟩ := by
  have hhigh : isHigh (0xD800 + n).toUInt16 := by
    rw [isHigh_iff, toNat_toUInt16 (by omega)]
    omega
  rw [Scan.start, if_pos hhigh]

/-- The second half of a pair brings the character. -/
lemma step_low {high low : Nat} (hhigh : high < 0x400) (hlow : low < 0x400) :
    Scan.step ⟨decoded, some (0xD800 + high).toUInt16⟩ (0xDC00 + low).toUInt16 =
      ⟨Char.ofNat (0x10000 + high * 0x400 + low) :: decoded, none⟩ := by
  have hunit : isLow (0xDC00 + low).toUInt16 := by
    rw [isLow_iff, toNat_toUInt16 (by omega)]
    omega
  simp only [Scan.step]
  rw [if_pos hunit, toNat_toUInt16 (by omega), toNat_toUInt16 (by omega), Nat.add_sub_cancel_left,
    Nat.add_sub_cancel_left]

/-- The code units of a character are scanned as that character. -/
lemma foldl_step_encodeChar (c : Char) :
    (encodeChar c).foldl Scan.step ⟨decoded, none⟩ = ⟨c :: decoded, none⟩ := by
  have hc : c.toNat < 0xD800 ∨ 0xDFFF < c.toNat ∧ c.toNat < 0x110000 := c.valid
  have hchar : Char.ofNat c.toNat = c := Char.ofNat_toNat c
  rw [encodeChar]
  generalize c.toNat = n at hc hchar
  by_cases h : n < 0x10000
  · rw [if_pos h, List.foldl_cons, Scan.step, start_of_not_surrogate h (by omega), hchar]
    rfl
  · have hpair : 0x10000 + (n - 0x10000) / 0x400 * 0x400 + (n - 0x10000) % 0x400 = n := by omega
    rw [if_neg h, List.foldl_cons, Scan.step, start_high (by omega), List.foldl_cons,
      step_low (by omega) (by omega), hpair, hchar]
    rfl

lemma foldl_step_flatMap_encodeChar (chars : List Char) :
    (chars.flatMap encodeChar).foldl Scan.step ⟨decoded, none⟩ =
      ⟨chars.reverse ++ decoded, none⟩ := by
  induction chars generalizing decoded with
  | nil => rfl
  | cons c chars ih =>
    rw [List.flatMap_cons, List.foldl_append, foldl_step_encodeChar, ih]
    simp

/-- The lossy reading of a text loses nothing. -/
theorem decodeLossy_encode (text : String) : decodeLossy (encode text) = text := by
  rw [decodeLossy, encode, foldl_step_flatMap_encodeChar]
  simp [Scan.finish]

/-! ### Units that stand for one character -/

/-- Halves of pairs are no units of other characters. -/
lemma eq_of_mem_encodeChar {c d : Char} (hd : d.toNat < 0xD800)
    (h : d.toNat.toUInt16 ∈ encodeChar c) : d = c := by
  have hc : c.toNat < 0xD800 ∨ 0xDFFF < c.toNat ∧ c.toNat < 0x110000 := c.valid
  have hunit {n : Nat} (hn : n < 0x10000) (h : d.toNat.toUInt16 = n.toUInt16) : d.toNat = n := by
    rw [← toNat_toUInt16 (by omega : d.toNat < 0x10000), h, toNat_toUInt16 hn]
  rw [encodeChar] at h
  split at h
  · rename_i hn
    exact Char.toNat_inj.mp (hunit hn (List.mem_singleton.mp h))
  · rename_i hn
    rcases List.mem_cons.mp h with h | h
    · have := hunit (by omega) h
      omega
    · have := hunit (by omega) (List.mem_singleton.mp h)
      omega

/-- A text without a character of one unit has no such unit. -/
lemma notMem_encode {text : String} {d : Char} (hd : d.toNat < 0xD800) (h : d ∉ text.toList) :
    d.toNat.toUInt16 ∉ encode text := by
  rw [encode, List.mem_flatMap]
  rintro ⟨c, hc, hunit⟩
  exact h (eq_of_mem_encodeChar hd hunit ▸ hc)

/-! ### Texts in parts -/

lemma encode_append (s t : String) : encode (s ++ t) = encode s ++ encode t := by
  rw [encode, encode, encode, String.toList_append, List.flatMap_append]

/-- The parts of a joined text keep their units, with those of the separator between them. -/
lemma encode_intercalate (separator : String) (parts : List String) :
    encode (separator.intercalate parts) = (encode separator).intercalate (parts.map encode) := by
  induction parts with
  | nil => rfl
  | cons part parts ih =>
    cases parts with
    | nil => rw [String.intercalate_singleton, List.map_singleton, List.intercalate_singleton]
    | cons next parts =>
      rw [String.intercalate_cons_cons, encode_append, encode_append, ih]
      exact List.intercalate_cons_cons.symm

/-! ### Code units and bytes -/

/-- A unit is made of its high and its low byte. -/
lemma high_or_low (unit : UInt16) :
    (unit >>> 8).toUInt8.toUInt16 <<< 8 ||| unit.toUInt8.toUInt16 = unit := by
  apply UInt16.toNat_inj.mp
  have hunit := unit.toNat_lt
  have hshift : (8 : UInt16).toNat % 16 = 8 := rfl
  rw [UInt16.toNat_or, UInt16.toNat_shiftLeft, UInt8.toNat_toUInt16, UInt8.toNat_toUInt16,
    UInt16.toNat_toUInt8, UInt16.toNat_toUInt8, UInt16.toNat_shiftRight, hshift,
    Nat.shiftRight_eq_div_pow, Nat.shiftLeft_eq, Nat.mod_eq_of_lt (by omega), ← Nat.shiftLeft_eq,
    ← Nat.shiftLeft_add_eq_or_of_lt (Nat.mod_lt _ (by decide)), Nat.shiftLeft_eq]
  omega

lemma length_flatMap_unitBytes (units : List UInt16) :
    (units.flatMap unitBytes).length = 2 * units.length := by
  simp [List.length_flatMap, unitBytes, List.map_const', Nat.mul_comm]

lemma length_encodeBytes (text : String) : (encodeBytes text).length = 2 * (encode text).length :=
  length_flatMap_unitBytes (encode text)

/-- A byte behind the last unit has no part in the units. -/
lemma unitsOfBytes_append {left : List UInt8} (h : left.length < 2) (units : List UInt16) :
    unitsOfBytes (units.flatMap unitBytes ++ left) = units := by
  suffices ∀ got, unitsOfBytes.go got (units.flatMap unitBytes ++ left) = got.reverse ++ units
    from this []
  induction units with
  | nil =>
    intro got
    match left, h with
    | [], _ | [odd], _ => exact (List.append_nil _).symm
  | cons unit units ih =>
    intro got
    rw [List.flatMap_cons]
    show unitsOfBytes.go (_ :: got) (units.flatMap unitBytes ++ left) = _
    rw [high_or_low, ih, List.reverse_cons, List.append_assoc]
    rfl

lemma unitsOfBytes_flatMap_unitBytes (units : List UInt16) :
    unitsOfBytes (units.flatMap unitBytes) = units := by
  have hnone : ([] : List UInt8).length < 2 := by decide
  rw [← List.append_nil (units.flatMap unitBytes), unitsOfBytes_append hnone]

lemma decodeBytes_flatMap_unitBytes (units : List UInt16) :
    decodeBytes (units.flatMap unitBytes) = decodeLossy units := by
  rw [decodeBytes, unitsOfBytes_flatMap_unitBytes]

lemma flatMap_unitBytes_injective :
    Function.Injective fun units : List UInt16 => units.flatMap unitBytes :=
  Function.LeftInverse.injective unitsOfBytes_flatMap_unitBytes

/-- A unit is made of any two bytes. -/
lemma unitBytes_or (high low : UInt8) :
    unitBytes (high.toUInt16 <<< 8 ||| low.toUInt16) = [high, low] := by
  have hhigh := high.toNat_lt
  have hlow := low.toNat_lt
  have hshift : (8 : UInt16).toNat % 16 = 8 := rfl
  have hunit : (high.toUInt16 <<< 8 ||| low.toUInt16).toNat = high.toNat * 2 ^ 8 + low.toNat := by
    rw [UInt16.toNat_or, UInt16.toNat_shiftLeft, UInt8.toNat_toUInt16, UInt8.toNat_toUInt16, hshift,
      Nat.shiftLeft_eq, Nat.mod_eq_of_lt (by omega), ← Nat.shiftLeft_eq,
      ← Nat.shiftLeft_add_eq_or_of_lt hlow]
  have hfirst : ((high.toUInt16 <<< 8 ||| low.toUInt16) >>> 8).toUInt8 = high := by
    apply UInt8.toNat_inj.mp
    rw [UInt16.toNat_toUInt8, UInt16.toNat_shiftRight, hshift, hunit, Nat.shiftRight_eq_div_pow]
    omega
  have hsecond : (high.toUInt16 <<< 8 ||| low.toUInt16).toUInt8 = low := by
    apply UInt8.toNat_inj.mp
    rw [UInt16.toNat_toUInt8, hunit]
    omega
  rw [unitBytes, hfirst, hsecond]

/-- Bytes of an even number are code units. -/
lemma exists_units {bytes : List UInt8} {n : Nat} (h : bytes.length = 2 * n) :
    ∃ units : List UInt16, units.length = n ∧ units.flatMap unitBytes = bytes := by
  induction n generalizing bytes with
  | zero => exact ⟨[], rfl, (List.eq_nil_of_length_eq_zero h).symm⟩
  | succ n ih =>
    match bytes, h with
    | high :: low :: rest, h =>
      have hrest : rest.length = 2 * n := by
        rw [List.length_cons, List.length_cons] at h
        omega
      obtain ⟨units, rfl, rfl⟩ := ih hrest
      refine ⟨(high.toUInt16 <<< 8 ||| low.toUInt16) :: units, rfl, ?_⟩
      rw [List.flatMap_cons, unitBytes_or]
      rfl

theorem decodeBytes_encodeBytes (text : String) : decodeBytes (encodeBytes text) = text := by
  rw [encodeBytes, decodeBytes_flatMap_unitBytes, decodeLossy_encode]

/-- An odd byte behind a text does not show in it. -/
theorem decodeBytes_encodeBytes_odd (text : String) (odd : UInt8) :
    decodeBytes (encodeBytes text ++ [odd]) = text := by
  have hodd : [odd].length < 2 := Nat.one_lt_two
  rw [decodeBytes, encodeBytes, unitsOfBytes_append hodd, decodeLossy_encode]

end GameProbe.Utf16
