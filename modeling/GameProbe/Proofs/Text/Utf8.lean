import GameProbe.Text.Utf8
import Mathlib.Tactic.Lemma
import Mathlib.Tactic.SplitIfs

/-!
# Reading UTF-8 back

The bytes of a text are read back as that text. Behind the bytes of a character the scan stands
between two characters again, with just that character decoded.
-/

namespace GameProbe.Utf8

variable {decoded : List (Option Char)}

lemma toNat_notMem_surrogates (c : Char) :
    c.toNat < 0xD800 ∨ 0xDFFF < c.toNat ∧ c.toNat < 0x110000 := c.valid

lemma toNat_toUInt8 {n : Nat} (h : n < 256) : n.toUInt8.toNat = n := by
  rw [Nat.toUInt8, UInt8.toNat_ofNat', Nat.mod_eq_of_lt h]

/-! ### First bytes -/

lemma start_one {n : Nat} (h : n < 0x80) :
    Scan.start decoded n.toUInt8 = ⟨some (Char.ofNat n) :: decoded, none⟩ := by
  simp only [Scan.start, toNat_toUInt8 (Nat.lt_trans h (by decide)), if_pos h]

lemma start_two {n : Nat} (h : 0x80 ≤ n) (h' : n < 0x800) :
    Scan.start decoded (0xC0 + n / 64).toUInt8 =
      ⟨decoded, some { bits := n / 64, missing := 1 }⟩ := by
  rw [Scan.start, toNat_toUInt8 (by omega)]
  rw [if_neg (by omega), if_neg (by omega), if_pos (by omega), Nat.add_sub_cancel_left]

/-- The first of three bytes limits the second so that no surrogate and nothing shorter is meant. -/
lemma start_three (decoded : List (Option Char)) {n : Nat} (h : 0x800 ≤ n) (h' : n < 0x10000)
    (hs : n < 0xD800 ∨ 0xDFFF < n) :
    ∃ u, Scan.start decoded (0xE0 + n / 4096).toUInt8 = ⟨decoded, some u⟩ ∧ u.bits = n / 4096 ∧
      u.missing = 2 ∧ u.low.toNat ≤ 0x80 + n / 64 % 64 ∧ 0x80 + n / 64 % 64 ≤ u.high.toNat := by
  rw [Scan.start, toNat_toUInt8 (by omega)]
  rw [if_neg (by omega), if_neg (by omega), if_neg (by omega)]
  by_cases h0 : 0xE0 + n / 4096 = 0xE0
  · rw [if_pos h0]
    exact ⟨_, rfl, by dsimp only; omega, rfl, by simp; omega, by simp; omega⟩
  by_cases hd : 0xE0 + n / 4096 = 0xED
  · rw [if_neg h0, if_pos hd]
    exact ⟨_, rfl, by dsimp only; omega, rfl, by simp, by simp; omega⟩
  · rw [if_neg h0, if_neg hd, if_pos (by omega)]
    exact ⟨_, rfl, by dsimp only; omega, rfl, by simp, by simp; omega⟩

/-- The first of four bytes limits the second so that nothing shorter and nothing beyond the last
character is meant. -/
lemma start_four (decoded : List (Option Char)) {n : Nat} (h : 0x10000 ≤ n) (h' : n < 0x110000) :
    ∃ u, Scan.start decoded (0xF0 + n / 262144).toUInt8 = ⟨decoded, some u⟩ ∧
      u.bits = n / 262144 ∧ u.missing = 3 ∧ u.low.toNat ≤ 0x80 + n / 4096 % 64 ∧
      0x80 + n / 4096 % 64 ≤ u.high.toNat := by
  rw [Scan.start, toNat_toUInt8 (by omega)]
  rw [if_neg (by omega), if_neg (by omega), if_neg (by omega), if_neg (by omega), if_neg (by omega),
    if_neg (by omega)]
  by_cases h0 : 0xF0 + n / 262144 = 0xF0
  · rw [if_pos h0]
    exact ⟨_, rfl, by dsimp only; omega, rfl, by simp; omega, by simp; omega⟩
  by_cases h4 : 0xF0 + n / 262144 < 0xF4
  · rw [if_neg h0, if_pos h4]
    exact ⟨_, rfl, by dsimp only; omega, rfl, by simp, by simp; omega⟩
  · rw [if_neg h0, if_neg h4, if_pos (by omega)]
    exact ⟨_, rfl, by dsimp only; omega, rfl, by simp, by simp; omega⟩

/-! ### Further bytes -/

lemma step_further {u : Unfinished} {tail : Nat} (ht : tail < 64) (hlow : u.low.toNat ≤ 0x80 + tail)
    (hhigh : 0x80 + tail ≤ u.high.toNat) (hmissing : 1 < u.missing) :
    Scan.step ⟨decoded, some u⟩ (0x80 + tail).toUInt8 =
      ⟨decoded, some { bits := u.bits * 64 + tail, missing := u.missing - 1 }⟩ := by
  have hb : (0x80 + tail).toUInt8.toNat = 0x80 + tail := toNat_toUInt8 (by omega)
  simp only [Scan.step, UInt8.le_iff_toNat_le, hb, Nat.add_sub_cancel_left]
  rw [if_pos ⟨hlow, hhigh⟩, if_neg (by omega)]

lemma step_last {u : Unfinished} {tail : Nat} (ht : tail < 64) (hlow : u.low.toNat ≤ 0x80 + tail)
    (hhigh : 0x80 + tail ≤ u.high.toNat) (hmissing : u.missing = 1) :
    Scan.step ⟨decoded, some u⟩ (0x80 + tail).toUInt8 =
      ⟨some (Char.ofNat (u.bits * 64 + tail)) :: decoded, none⟩ := by
  have hb : (0x80 + tail).toUInt8.toNat = 0x80 + tail := toNat_toUInt8 (by omega)
  simp only [Scan.step, UInt8.le_iff_toNat_le, hb, Nat.add_sub_cancel_left]
  rw [if_pos ⟨hlow, hhigh⟩, if_pos (by omega)]

/-! ### Whole characters and texts -/

/-- The bytes of a character are scanned as that character. -/
lemma foldl_step_encodeChar (c : Char) :
    (encodeChar c).foldl Scan.step ⟨decoded, none⟩ = ⟨some c :: decoded, none⟩ := by
  have hc := toNat_notMem_surrogates c
  have hchar : Char.ofNat c.toNat = c := Char.ofNat_toNat c
  rw [encodeChar]
  generalize c.toNat = n at hc hchar
  by_cases h₁ : n < 0x80
  · rw [if_pos h₁, List.foldl_cons, Scan.step, start_one h₁, hchar]
    rfl
  by_cases h₂ : n < 0x800
  · rw [if_neg h₁, if_pos h₂, List.foldl_cons, Scan.step, start_two (by omega) h₂, List.foldl_cons,
      step_last (by omega) (by simp) (by simp; omega) rfl]
    dsimp only
    rw [show n / 64 * 64 + n % 64 = n by omega, hchar]
    rfl
  by_cases h₃ : n < 0x10000
  · obtain ⟨u, hu, hbits, hmissing, hlow, hhigh⟩ :=
      start_three decoded (by omega : 0x800 ≤ n) h₃ (by omega)
    rw [if_neg h₁, if_neg h₂, if_pos h₃, List.foldl_cons, Scan.step, hu, List.foldl_cons,
      step_further (by omega) hlow hhigh (by omega), List.foldl_cons,
      step_last (by omega) (by simp) (by simp; omega) (by simp [hmissing]), hbits]
    rw [show (n / 4096 * 64 + n / 64 % 64) * 64 + n % 64 = n by omega, hchar]
    rfl
  · obtain ⟨u, hu, hbits, hmissing, hlow, hhigh⟩ :=
      start_four decoded (by omega : 0x10000 ≤ n) (by omega)
    rw [if_neg h₁, if_neg h₂, if_neg h₃, List.foldl_cons, Scan.step, hu, List.foldl_cons,
      step_further (by omega) hlow hhigh (by omega), List.foldl_cons,
      step_further (by omega) (by simp) (by simp; omega) (by simp [hmissing]), List.foldl_cons,
      step_last (by omega) (by simp) (by simp; omega) (by simp [hmissing]), hbits]
    rw [show ((n / 262144 * 64 + n / 4096 % 64) * 64 + n / 64 % 64) * 64 + n % 64 = n by omega,
      hchar]
    rfl

lemma foldl_step_flatMap_encodeChar (chars : List Char) :
    (chars.flatMap encodeChar).foldl Scan.step ⟨decoded, none⟩ =
      ⟨(chars.map some).reverse ++ decoded, none⟩ := by
  induction chars generalizing decoded with
  | nil => rfl
  | cons c chars ih =>
    rw [List.flatMap_cons, List.foldl_append, foldl_step_encodeChar, ih]
    simp

/-- A text has no flaws. -/
theorem scan_encode (text : String) : scan (encode text) = text.toList.map some := by
  rw [scan, encode, foldl_step_flatMap_encodeChar]
  simp [Scan.finish]

/-- The lossy reading of a text loses nothing. -/
theorem decodeLossy_encode (text : String) : decodeLossy (encode text) = text := by
  rw [decodeLossy, scan_encode, List.map_map]
  simp [Function.comp_def]

/-! ### Zero bytes -/

/-- Only the zero character has a zero byte. -/
lemma eq_zero_of_mem_encodeChar {c : Char} (h : 0 ∈ encodeChar c) : c = '\x00' := by
  have hc := toNat_notMem_surrogates c
  have hzero {n : Nat} (hn : n < 256) (h : 0 = n.toUInt8) : n = 0 := by
    rw [← toNat_toUInt8 hn, ← h]
    rfl
  have hne {n : Nat} (hn : n < 256) (hpos : n ≠ 0) : 0 ≠ n.toUInt8 := fun h => hpos (hzero hn h)
  rw [encodeChar] at h
  split_ifs at h with h₁ h₂ h₃
  · exact Char.toNat_inj.mp (hzero (by omega) (List.mem_singleton.mp h))
  -- every byte of a longer character has its high bit set
  all_goals
    refine absurd h ?_
    simp only [List.mem_cons, List.not_mem_nil, or_false, not_or]
    and_intros <;> exact hne (by omega) (by omega)

/-- A text without the zero character has no zero byte. -/
lemma zero_notMem_encode {text : String} (h : '\x00' ∉ text.toList) : 0 ∉ encode text := by
  rw [encode, List.mem_flatMap]
  rintro ⟨c, hc, hzero⟩
  exact h (eq_zero_of_mem_encodeChar hzero ▸ hc)

end GameProbe.Utf8
