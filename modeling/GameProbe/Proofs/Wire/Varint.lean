import GameProbe.Proofs.Wire.Numerals

/-!
# Reading varints back

The digits that a writer makes of a number are a numeral of that number, and no other numeral of it
is as short. So a reader puts them together again, over the whole range of each integer type, and
stops behind the last of them.
-/

namespace GameProbe.Wire

variable {top last : UInt8} {n digits : Nat} {front : Bytes}

/-! ### Digits -/

lemma base128_of_lt (h : n < 128) : base128 n = [n.toUInt8] := by
  rw [base128, if_pos h]

lemma base128_of_le (h : 128 ≤ n) :
    base128 n = (128 + n % 128).toUInt8 :: base128 (n / 128) := by
  rw [base128, if_neg (Nat.not_lt.mpr h)]

lemma toNat_lastDigit (h : n < 128) : n.toUInt8.toNat = n :=
  UInt8.toNat_ofNat_of_lt' (show n < 256 by omega)

lemma toNat_furtherDigit (n : Nat) : (128 + n % 128).toUInt8.toNat = 128 + n % 128 :=
  UInt8.toNat_ofNat_of_lt' (show 128 + n % 128 < 256 by omega)

/-- The digits of a number are a numeral of it if there is room for them all. The induction is on
the room: behind a digit that is not the last one come those of a smaller number. -/
lemma base128_numeral (htop : top < 128) (h : n < (top.toNat + 1) * 128 ^ digits) :
    ∃ front last, base128 n = front ++ [last] ∧ Numeral (digits + 1) top front last ∧
      digitsValue (front ++ [last]) = n := by
  have htop : top.toNat < 128 := UInt8.lt_iff_toNat_lt.mp htop
  induction digits generalizing n with
  | zero =>
    have hn : n < 128 := by omega
    refine ⟨[], n.toUInt8, base128_of_lt hn, .nil ?_ fun _ => ?_, ?_⟩
    · rwa [UInt8.lt_iff_toNat_lt, toNat_lastDigit hn]
    · rw [UInt8.le_iff_toNat_le, toNat_lastDigit hn]
      omega
    · rw [List.nil_append, digitsValue_singleton, toNat_lastDigit hn, Nat.mod_eq_of_lt hn]
  | succ digits ih =>
    rcases Nat.lt_or_ge n 128 with hn | hn
    · refine ⟨[], n.toUInt8, base128_of_lt hn, .nil ?_ nofun, ?_⟩
      · rwa [UInt8.lt_iff_toNat_lt, toNat_lastDigit hn]
      · rw [List.nil_append, digitsValue_singleton, toNat_lastDigit hn, Nat.mod_eq_of_lt hn]
    · have hrest : n / 128 < (top.toNat + 1) * 128 ^ digits := by
        rwa [Nat.div_lt_iff_lt_mul (by decide), Nat.mul_assoc, ← Nat.pow_succ]
      obtain ⟨front, last, hbase, hnumeral, hvalue⟩ := ih hrest
      refine ⟨(128 + n % 128).toUInt8 :: front, last, ?_, hnumeral.cons ?_, ?_⟩
      · rw [base128_of_le hn, hbase, List.cons_append]
      · rw [UInt8.le_iff_toNat_le, toNat_furtherDigit]
        exact Nat.le_add_right 128 _
      · rw [List.cons_append, digitsValue_cons, hvalue, toNat_furtherDigit, Nat.add_mod_left,
          Nat.mod_mod, Nat.mod_add_div]

/-- A numeral that is no longer than the written one is the written one. -/
lemma eq_base128_of_length_le (hfront : ∀ b ∈ front, 128 ≤ b) (hlast : last < 128)
    (hlength : (front ++ [last]).length ≤ (base128 (digitsValue (front ++ [last]))).length) :
    front ++ [last] = base128 (digitsValue (front ++ [last])) := by
  induction front with
  | nil =>
    rw [UInt8.lt_iff_toNat_lt] at hlast
    have hlow : last.toNat % 128 = last.toNat := Nat.mod_eq_of_lt hlast
    rw [List.nil_append, digitsValue_singleton, hlow, base128_of_lt hlast]
    exact congrArg (fun b => [b]) UInt8.ofNat_toNat.symm
  | cons b front ih =>
    obtain ⟨hb, hfront⟩ := List.forall_mem_cons.mp hfront
    have hb : 128 ≤ b.toNat := UInt8.le_iff_toNat_le.mp hb
    rw [List.cons_append, digitsValue_cons] at hlength ⊢
    rcases Nat.lt_or_ge (b.toNat % 128 + 128 * digitsValue (front ++ [last])) 128 with hn | hn
    · -- a number below 128 is written with one digit
      rw [base128_of_lt hn, List.length_cons, List.length_append] at hlength
      exact absurd hlength (by simp)
    have hmod : (b.toNat % 128 + 128 * digitsValue (front ++ [last])) % 128 = b.toNat % 128 := by
      omega
    have hdiv : (b.toNat % 128 + 128 * digitsValue (front ++ [last])) / 128 =
        digitsValue (front ++ [last]) := by omega
    have hdigit : (128 + b.toNat % 128).toUInt8 = b := by
      rw [← UInt8.toNat_inj, toNat_furtherDigit]
      have hlt := b.toNat_lt
      omega
    rw [base128_of_le hn, hmod, hdiv, hdigit] at hlength ⊢
    rw [List.length_cons, List.length_cons] at hlength
    rw [← ih hfront (Nat.le_of_succ_le_succ hlength)]

/-! ### Reading digits back -/

lemma readBase128_base128 (htop : top < 128) (h : n < (top.toNat + 1) * 128 ^ digits) (x : Bytes) :
    readBase128 (digits + 1) top (base128 n ++ x) = .ok n x := by
  obtain ⟨front, last, hbase, hnumeral, hvalue⟩ := base128_numeral htop h
  rw [readBase128_eq_ok_iff htop]
  exact ⟨front, last, by rw [hbase, List.append_assoc, List.singleton_append], hnumeral, hvalue⟩

lemma readUvarint_base128 (h : n < 2 ^ 64) (x : Bytes) :
    readUvarint (base128 n ++ x) = .ok (.ofNat n) x := by
  have hread : readBase128 10 1 (base128 n ++ x) = .ok n x := readBase128_base128 (by decide) h x
  rw [readUvarint, bind_of_ok hread]
  rfl

/-! ### Integers -/

lemma readUvarint_uvarint (n : UInt64) (x : Bytes) : readUvarint (uvarint n ++ x) = .ok n x := by
  rw [uvarint, readUvarint_base128 n.toNat_lt, UInt64.ofNat_toNat]

lemma readVarint_varint (n : Int32) (x : Bytes) : readVarint (varint n ++ x) = .ok n x := by
  have hread : readBase128 5 15 (varint n ++ x) = .ok n.toUInt32.toNat x :=
    readBase128_base128 (by decide) n.toUInt32.toNat_lt x
  rw [readVarint, bind_of_ok hread, UInt32.ofNat_toNat]
  rfl

lemma readVarlong_varlong (n : Int64) (x : Bytes) : readVarlong (varlong n ++ x) = .ok n x := by
  rw [readVarlong, varlong, bind_of_ok (readUvarint_base128 n.toUInt64.toNat_lt x),
    UInt64.ofNat_toNat]
  rfl

end GameProbe.Wire
