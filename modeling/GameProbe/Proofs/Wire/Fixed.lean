import GameProbe.Proofs.Wire.SelfDelimiting
import Mathlib.Algebra.Group.Int.Defs
import Mathlib.Algebra.Group.Nat.Defs

/-!
# Reading integers back

An integer of fixed width is read back as it was written, whatever follows it.
-/

namespace GameProbe.Wire

open Decoder

/-! ### Numbers as bytes -/

lemma ofLittleEndian_cons (b : UInt8) (bytes : Bytes) :
    ofLittleEndian (b :: bytes) = b.toNat + 256 * ofLittleEndian bytes := rfl

lemma ofLittleEndian_littleEndian (width n : Nat) :
    ofLittleEndian (littleEndian width n) = n % 256 ^ width := by
  induction width generalizing n with
  | zero =>
    rw [Nat.pow_zero, Nat.mod_one]
    rfl
  | succ width ih =>
    have hb : (n % 256).toUInt8.toNat = n % 256 := by simp [Nat.toUInt8]
    rw [littleEndian, ofLittleEndian_cons, ih, hb, Nat.pow_succ', Nat.mod_mul]

lemma littleEndian_ofLittleEndian (bytes : Bytes) :
    littleEndian bytes.length (ofLittleEndian bytes) = bytes := by
  induction bytes with
  | nil => rfl
  | cons b bytes ih =>
    have hb := b.toNat_lt
    have hlow : (b.toNat + 256 * ofLittleEndian bytes) % 256 = b.toNat := by omega
    have hhigh : (b.toNat + 256 * ofLittleEndian bytes) / 256 = ofLittleEndian bytes := by omega
    have hbyte : b.toNat.toUInt8 = b := UInt8.ofNat_toNat
    rw [List.length_cons, littleEndian, ofLittleEndian_cons, hlow, hhigh, ih, hbyte]

lemma ofLittleEndian_lt (bytes : Bytes) : ofLittleEndian bytes < 256 ^ bytes.length := by
  induction bytes with
  | nil => decide
  | cons b bytes ih =>
    have hb := b.toNat_lt
    rw [ofLittleEndian_cons, List.length_cons, Nat.pow_succ']
    omega

lemma ofBigEndian_bigEndian (width n : Nat) :
    ofBigEndian (bigEndian width n) = n % 256 ^ width := by
  rw [bigEndian, ofBigEndian, List.foldl_reverse]
  exact ofLittleEndian_littleEndian width n

lemma ofBigEndian_uint16BE (n : UInt16) : ofBigEndian (uint16BE n) = n.toNat := by
  rw [uint16BE, ofBigEndian_bigEndian]
  exact Nat.mod_eq_of_lt n.toNat_lt

lemma ofBigEndian_uint32BE (n : UInt32) : ofBigEndian (uint32BE n) = n.toNat := by
  rw [uint32BE, ofBigEndian_bigEndian]
  exact Nat.mod_eq_of_lt n.toNat_lt

lemma ofBigEndian_uint64BE (n : UInt64) : ofBigEndian (uint64BE n) = n.toNat := by
  rw [uint64BE, ofBigEndian_bigEndian]
  exact Nat.mod_eq_of_lt n.toNat_lt

lemma ofLittleEndian_uint32LE (n : UInt32) : ofLittleEndian (uint32LE n) = n.toNat := by
  rw [uint32LE, ofLittleEndian_littleEndian]
  exact Nat.mod_eq_of_lt n.toNat_lt

/-- Any four bytes are a number. -/
lemma uint32LE_ofLittleEndian {bytes : Bytes} (h : bytes.length = 4) :
    uint32LE (.ofNat (ofLittleEndian bytes)) = bytes := by
  have hlt : ofLittleEndian bytes < 2 ^ 32 := by
    have hpow := ofLittleEndian_lt bytes
    rwa [h] at hpow
  rw [uint32LE, UInt32.toNat_ofNat_of_lt' hlt, ← h, littleEndian_ofLittleEndian]

/-- Bits are cleared byte by byte. -/
lemma littleEndian_and (width m n : Nat) :
    littleEndian width (m &&& n) =
      List.zipWith (· &&& ·) (littleEndian width m) (littleEndian width n) := by
  induction width generalizing m n with
  | zero => rfl
  | succ width ih =>
    have hlow : (m &&& n) % 256 = (m % 256) &&& (n % 256) := Nat.and_mod_two_pow (n := 8)
    have hhigh : (m &&& n) / 256 = (m / 256) &&& (n / 256) := Nat.and_div_two_pow (n := 8)
    have hbyte (a b : Nat) : (a &&& b).toUInt8 = a.toUInt8 &&& b.toUInt8 := UInt8.ofNat_and ..
    rw [littleEndian, littleEndian, littleEndian, List.zipWith_cons_cons, ← ih, hlow, hhigh, hbyte]

/-- A signed number travels as its residue. -/
lemma int32BE_eq_bigEndian (n : Int32) : int32BE n = bigEndian 4 (n.toInt % 2 ^ 32).toNat := by
  have hbits : n.toBitVec.toNat = (BitVec.ofInt 32 n.toBitVec.toInt).toNat :=
    congrArg BitVec.toNat BitVec.ofInt_toInt.symm
  rw [BitVec.toNat_ofInt] at hbits
  exact congrArg (bigEndian 4) hbits

/-- Only the low half of each byte is left. -/
lemma uint32BE_and_nibbles (n : UInt32) :
    uint32BE (n &&& 0x0F0F0F0F) = (uint32BE n).map (· &&& 0x0F) := by
  have hmask : littleEndian 4 (0x0F0F0F0F : UInt32).toNat = List.replicate 4 0x0F := by decide
  rw [uint32BE, uint32BE, UInt32.toNat_and, bigEndian, bigEndian, littleEndian_and, hmask,
    List.map_reverse]
  rfl

@[simp] lemma length_uint16BE (n : UInt16) : (uint16BE n).length = 2 := length_bigEndian 2 _

@[simp] lemma length_uint32BE (n : UInt32) : (uint32BE n).length = 4 := length_bigEndian 4 _

@[simp] lemma length_uint64BE (n : UInt64) : (uint64BE n).length = 8 := length_bigEndian 8 _

@[simp] lemma length_uint32LE (n : UInt32) : (uint32LE n).length = 4 := length_littleEndian 4 _

@[simp] lemma length_int32LE (n : Int32) : (int32LE n).length = 4 := length_uint32LE _

/-! ### Reading -/

lemma fill_append {n : Nat} {bytes : Bytes} (h : bytes.length = n) (x : Bytes) :
    fill n (bytes ++ x) = .ok bytes x := by
  rw [fill_apply, if_pos (by simp [h]), List.take_left' h, List.drop_left' h]

lemma readUInt16BE_append (n : UInt16) (x : Bytes) :
    readUInt16BE (uint16BE n ++ x) = .ok n x := by
  rw [readUInt16BE, bind_of_ok (fill_append (length_uint16BE n) x), ofBigEndian_uint16BE,
    UInt16.ofNat_toNat]
  rfl

lemma readUInt16LE_append (n : UInt16) (x : Bytes) :
    readUInt16LE (littleEndian 2 n.toNat ++ x) = .ok n x := by
  have hback : ofLittleEndian (littleEndian 2 n.toNat) = n.toNat :=
    (ofLittleEndian_littleEndian 2 _).trans (Nat.mod_eq_of_lt n.toNat_lt)
  rw [readUInt16LE, bind_of_ok (fill_append (length_littleEndian 2 _) x), hback,
    UInt16.ofNat_toNat]
  rfl

lemma readUInt32BE_append (n : UInt32) (x : Bytes) :
    readUInt32BE (uint32BE n ++ x) = .ok n x := by
  rw [readUInt32BE, bind_of_ok (fill_append (length_uint32BE n) x), ofBigEndian_uint32BE,
    UInt32.ofNat_toNat]
  rfl

lemma readUInt64BE_append (n : UInt64) (x : Bytes) :
    readUInt64BE (uint64BE n ++ x) = .ok n x := by
  rw [readUInt64BE, bind_of_ok (fill_append (length_uint64BE n) x), ofBigEndian_uint64BE,
    UInt64.ofNat_toNat]
  rfl

lemma readUInt32LE_append (n : UInt32) (x : Bytes) :
    readUInt32LE (uint32LE n ++ x) = .ok n x := by
  rw [readUInt32LE, bind_of_ok (fill_append (length_uint32LE n) x), ofLittleEndian_uint32LE,
    UInt32.ofNat_toNat]
  rfl

lemma readInt32LE_append (n : Int32) (x : Bytes) : readInt32LE (int32LE n ++ x) = .ok n x := by
  rw [readInt32LE, int32LE, bind_of_ok (readUInt32LE_append _ x)]
  rfl

lemma readInt32LE_apply (run : Bytes) :
    readInt32LE run = if 4 ≤ run.length
      then .ok (UInt32.ofNat (ofLittleEndian (run.take 4))).toInt32 (run.drop 4)
      else .error (.connectionClosed 4 run.length) [] := by
  split
  · rename_i hle
    have hfill : fill 4 run = .ok (run.take 4) (run.drop 4) := by rw [fill_apply, if_pos hle]
    exact bind_of_ok (bind_of_ok hfill)
  · rename_i hlt
    have hfill : fill 4 run = .error (.connectionClosed 4 run.length) [] := by
      rw [fill_apply, if_neg hlt]
    exact bind_of_error (bind_of_error hfill)

/-- Only the bytes of a number are read as that number. -/
lemma readInt32LE_eq_ok_iff {run rest : Bytes} {n : Int32} :
    readInt32LE run = .ok n rest ↔ run = int32LE n ++ rest := by
  constructor
  · intro hread
    rw [readInt32LE_apply] at hread
    split at hread
    · rename_i hle
      cases hread
      have htake : int32LE (UInt32.ofNat (ofLittleEndian (run.take 4))).toInt32 = run.take 4 :=
        uint32LE_ofLittleEndian (List.length_take_of_le hle)
      rw [htake, List.take_append_drop]
    · cases hread
  · rintro rfl
    exact readInt32LE_append n rest

lemma readByte_cons (b : UInt8) (x : Bytes) : readByte (b :: x) = .ok b x := by
  have hlength : [b].length = 1 := rfl
  have h : fill 1 (b :: x) = .ok [b] x := fill_append hlength x
  exact bind_of_ok h

lemma readByte_eq_ok_iff {run rest : Bytes} {b : UInt8} :
    readByte run = .ok b rest ↔ run = b :: rest := by
  constructor
  · intro hread
    cases run with
    | nil =>
      have hfill : fill 1 ([] : Bytes) = .error (.connectionClosed 1 0) [] := fill_apply 1 []
      rw [readByte, bind_of_error hfill] at hread
      cases hread
    | cons b' run =>
      rw [readByte_cons] at hread
      cases hread
      rfl
  · rintro rfl
    exact readByte_cons b rest

end GameProbe.Wire
