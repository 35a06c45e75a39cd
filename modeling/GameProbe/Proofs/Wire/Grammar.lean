import GameProbe.Proofs.Transport.Quiet
import GameProbe.Proofs.Wire.Varint

/-!
# The grammar of varints

Which strings of bytes are numbers of each integer type, and which number each of them is. A reader
accepts needless zero digits, so a number may be told in several ways; the writer tells it in the
shortest.
-/

namespace GameProbe.Wire

open EStateM.Result Decoder

variable {top last : UInt8} {digits : Nat} {bytes rest front : Bytes}

/-! ### The range of a numeral -/

lemma digitsValue_lt (bytes : Bytes) : digitsValue bytes < 128 ^ bytes.length := by
  have hlength : bytes.length = (bytes.map fun b => b.toNat % 128).length := by simp
  rw [digitsValue, hlength]
  refine Nat.ofDigits_lt_base_pow_length (by decide) fun d hd => ?_
  obtain ⟨b, -, rfl⟩ := List.mem_map.mp hd
  exact Nat.mod_lt _ (by decide)

lemma digitsValue_concat (front : Bytes) (last : UInt8) :
    digitsValue (front ++ [last]) =
      digitsValue front + 128 ^ front.length * (last.toNat % 128) := by
  rw [digitsValue, List.map_append, Nat.ofDigits_append, List.length_map]
  simp [digitsValue]

/-- A numeral stands for a number that has a place in its digits. -/
lemma Numeral.digitsValue_lt (h : Numeral (digits + 1) top front last) :
    digitsValue (front ++ [last]) < (top.toNat + 1) * 128 ^ digits := by
  have hfront := Wire.digitsValue_lt front
  have hends : last.toNat < 128 := UInt8.lt_iff_toNat_lt.mp h.ends
  rw [digitsValue_concat, Nat.mod_eq_of_lt hends, Nat.mul_comm]
  rcases Nat.lt_or_eq_of_le (Nat.le_of_lt_succ h.length_lt) with hshort | hfull
  · calc digitsValue front + last.toNat * 128 ^ front.length
      _ < (last.toNat + 1) * 128 ^ front.length := by rw [Nat.succ_mul]; omega
      _ ≤ 128 * 128 ^ front.length := Nat.mul_le_mul_right _ hends
      _ = 128 ^ (front.length + 1) := (Nat.pow_succ').symm
      _ ≤ 128 ^ digits := Nat.pow_le_pow_right (by decide) hshort
      _ ≤ (top.toNat + 1) * 128 ^ digits := Nat.le_mul_of_pos_left _ (Nat.succ_pos _)
  · have htop : last.toNat ≤ top.toNat :=
      UInt8.le_iff_toNat_le.mp (h.last_le (congrArg Nat.succ hfull))
    subst hfull
    calc digitsValue front + last.toNat * 128 ^ front.length
      _ < (last.toNat + 1) * 128 ^ front.length := by rw [Nat.succ_mul]; omega
      _ ≤ (top.toNat + 1) * 128 ^ front.length :=
        Nat.mul_le_mul_right _ (Nat.succ_le_succ htop)

/-! ### Unsigned numbers -/

lemma readUvarint_eq_ok_iff {n : UInt64} :
    readUvarint bytes = .ok n rest ↔ ∃ front last, bytes = front ++ last :: rest ∧
      Numeral 10 1 front last ∧ digitsValue (front ++ [last]) = n.toNat := by
  rw [readUvarint, bind_eq_ok_iff]
  constructor
  · rintro ⟨m, rest', hread, hn⟩
    cases hn
    obtain ⟨front, last, hbytes, h, rfl⟩ := (readBase128_eq_ok_iff (by decide)).mp hread
    have hlt : digitsValue (front ++ [last]) < 2 ^ 64 := h.digitsValue_lt
    refine ⟨front, last, hbytes, h, ?_⟩
    rw [UInt64.toNat_ofNat', Nat.mod_eq_of_lt hlt]
  · rintro ⟨front, last, hbytes, h, hvalue⟩
    refine ⟨n.toNat, rest, (readBase128_eq_ok_iff (by decide)).mpr ⟨front, last, hbytes, h, hvalue⟩,
      ?_⟩
    rw [UInt64.ofNat_toNat]
    rfl

lemma readUvarint_eq_error_iff {e : Error} :
    readUvarint bytes = .error e rest ↔ readBase128 10 1 bytes = .error e rest := by
  rw [readUvarint]
  cases h : readBase128 10 1 bytes with
  | ok n rest' =>
    rw [bind_of_ok h]
    constructor <;> intro herror <;> cases herror
  | error e' rest' => rw [bind_of_error h]; simp

/-! ### Signed numbers -/

lemma readVarint_eq_ok_iff {n : Int32} :
    readVarint bytes = .ok n rest ↔ ∃ front last, bytes = front ++ last :: rest ∧
      Numeral 5 15 front last ∧ digitsValue (front ++ [last]) = n.toUInt32.toNat := by
  rw [readVarint, bind_eq_ok_iff]
  constructor
  · rintro ⟨m, rest', hread, hn⟩
    cases hn
    obtain ⟨front, last, hbytes, h, rfl⟩ := (readBase128_eq_ok_iff (by decide)).mp hread
    have hlt : digitsValue (front ++ [last]) < 2 ^ 32 := h.digitsValue_lt
    refine ⟨front, last, hbytes, h, ?_⟩
    show _ = (UInt32.ofNat _).toNat
    rw [UInt32.toNat_ofNat', Nat.mod_eq_of_lt hlt]
  · rintro ⟨front, last, hbytes, h, hvalue⟩
    refine ⟨n.toUInt32.toNat, rest,
      (readBase128_eq_ok_iff (by decide)).mpr ⟨front, last, hbytes, h, hvalue⟩, ?_⟩
    rw [UInt32.ofNat_toNat]
    rfl

/-- An unsigned number is read that takes five bytes at most and is below `2 ^ 32`. -/
structure ReadsShort (bytes : Bytes) (n : UInt64) (rest : Bytes) : Prop where
  reads : readUvarint bytes = .ok n rest
  length_le : bytes.length ≤ rest.length + 5
  lt : n.toNat < 2 ^ 32

/-- With five digits there is room for the number if it is below `2 ^ 32`. -/
lemma Numeral.short (h : Numeral 10 1 front last) (hlength : front.length < 5)
    (hlt : digitsValue (front ++ [last]) < 2 ^ 32) : Numeral 5 15 front last where
  continues := h.continues
  ends := h.ends
  length_lt := hlength
  last_le hfull := by
    have hends : last.toNat < 128 := UInt8.lt_iff_toNat_lt.mp h.ends
    rw [digitsValue_concat, Nat.succ.inj hfull, Nat.mod_eq_of_lt hends] at hlt
    rw [UInt8.le_iff_toNat_le]
    show last.toNat ≤ 15
    omega

lemma Numeral.wide (h : Numeral 5 15 front last) : Numeral 10 1 front last where
  continues := h.continues
  ends := h.ends
  length_lt := Nat.lt_trans h.length_lt (by decide)
  last_le hfull := absurd h.length_lt (by omega)

/-- A signed number is a short unsigned one with the same bits. -/
lemma readVarint_eq_ok_iff_short {n : Int32} :
    readVarint bytes = .ok n rest ↔ ∃ m, ReadsShort bytes m rest ∧ m.toUInt32.toInt32 = n := by
  rw [readVarint_eq_ok_iff]
  constructor
  · rintro ⟨front, last, rfl, h, hvalue⟩
    have hbits : n.toUInt32.toUInt64.toNat = digitsValue (front ++ [last]) := by
      rw [UInt32.toNat_toUInt64, hvalue]
    refine ⟨n.toUInt32.toUInt64, ⟨?_, ?_, ?_⟩, ?_⟩
    · exact readUvarint_eq_ok_iff.mpr ⟨front, last, rfl, h.wide, hbits.symm⟩
    · have hlength := h.length_lt
      rw [List.length_append, List.length_cons]
      omega
    · rw [UInt32.toNat_toUInt64]
      exact n.toUInt32.toNat_lt
    · rw [UInt32.toUInt32_toUInt64]
      rfl
  · rintro ⟨m, ⟨hreads, hlength, hlt⟩, rfl⟩
    obtain ⟨front, last, rfl, h, hvalue⟩ := readUvarint_eq_ok_iff.mp hreads
    rw [List.length_append, List.length_cons] at hlength
    refine ⟨front, last, rfl, h.short (by omega) (hvalue ▸ hlt), ?_⟩
    show _ = m.toUInt32.toNat
    rw [UInt64.toNat_toUInt32, Nat.mod_eq_of_lt hlt, hvalue]

/-- What begins with five bytes is a signed number, or it is found too long behind them. -/
lemma readVarint_of_five_le (hlength : 5 ≤ bytes.length)
    (h : ∀ n rest, readVarint bytes ≠ .ok n rest) :
    readVarint bytes = .error .varintTooLong (bytes.drop 5) := by
  have hreads : ReadsDigits 5 15 bytes _ := readsDigits_readBase128 (by decide) 4 bytes
  cases hread : readBase128 5 15 bytes with
  | ok n rest => exact absurd (bind_of_ok hread) (h _ rest)
  | error e rest =>
    rw [hread] at hreads
    rw [readVarint, bind_of_error hread]
    cases hreads with
    | @overlong front _ last hoverlong =>
      have hfull : (front ++ [last]).length = 5 := by
        rw [List.length_append]
        exact hoverlong.length_eq
      rw [List.append_cons, List.drop_left' hfull]
    | unfinished hunfinished => exact absurd hunfinished.length_lt (Nat.not_lt.mpr hlength)

/-! ### Shortest numerals -/

/-- The bytes are read whole as the value, and all other bytes that are read so are more. -/
structure Shortest {α : Type} (d : Decoder Bytes α) (c : Bytes) (v : α) : Prop where
  reads : d c = .ok v []
  lt_length : ∀ c', d c' = .ok v [] → c' ≠ c → c.length < c'.length

lemma length_lt_of_numeral (h : Numeral digits top front last)
    (hne : front ++ [last] ≠ base128 (digitsValue (front ++ [last]))) :
    (base128 (digitsValue (front ++ [last]))).length < (front ++ [last]).length := by
  rw [← Nat.not_le]
  exact fun hle => hne (eq_base128_of_length_le h.continues h.ends hle)

lemma length_le_of_numeral (h : Numeral digits top front last) :
    (front ++ [last]).length ≤ digits := by
  rw [List.length_append]
  exact h.length_lt

lemma shortest_uvarint (n : UInt64) : Shortest readUvarint (uvarint n) n where
  reads := by simpa using readUvarint_uvarint n []
  lt_length c hread hne := by
    obtain ⟨front, last, rfl, h, hvalue⟩ := readUvarint_eq_ok_iff.mp hread
    rw [uvarint, ← hvalue] at hne ⊢
    exact length_lt_of_numeral h hne

lemma shortest_varint (n : Int32) : Shortest readVarint (varint n) n where
  reads := by simpa using readVarint_varint n []
  lt_length c hread hne := by
    obtain ⟨front, last, rfl, h, hvalue⟩ := readVarint_eq_ok_iff.mp hread
    rw [varint, ← hvalue] at hne ⊢
    exact length_lt_of_numeral h hne

lemma readVarlong_eq_ok_iff {n : Int64} :
    readVarlong bytes = .ok n rest ↔ readUvarint bytes = .ok n.toUInt64 rest := by
  rw [readVarlong, bind_eq_ok_iff]
  constructor
  · rintro ⟨m, rest', hread, hn⟩
    cases hn
    exact hread
  · intro hread
    exact ⟨n.toUInt64, rest, hread, rfl⟩

lemma shortest_varlong (n : Int64) : Shortest readVarlong (varlong n) n where
  reads := readVarlong_eq_ok_iff.mpr (shortest_uvarint n.toUInt64).reads
  lt_length c hread hne :=
    (shortest_uvarint n.toUInt64).lt_length c (readVarlong_eq_ok_iff.mp hread) hne

lemma length_uvarint_le (n : UInt64) : (uvarint n).length ≤ 10 := by
  obtain ⟨front, last, hbytes, h, -⟩ := readUvarint_eq_ok_iff.mp (shortest_uvarint n).reads
  rw [hbytes]
  exact length_le_of_numeral h

lemma length_varint_le (n : Int32) : (varint n).length ≤ 5 := by
  obtain ⟨front, last, hbytes, h, -⟩ := readVarint_eq_ok_iff.mp (shortest_varint n).reads
  rw [hbytes]
  exact length_le_of_numeral h

/-! ### The grammar -/

/-- A reader of varints accepts just the numerals for which its type has room, and brings the number
that their digits stand for; nine digits that go on and a tenth above one are too long, and a string
that ends before either is a closed stream. A signed number of 32 bits is an unsigned one of at most
five bytes with the same bits, and of 64 bits one of any length; what else begins with five bytes is
too long for 32 bits. A writer makes the one shortest string that is read as its number. And all of
this is so on a stream, in whatever pieces the bytes come. -/
theorem varints_follow_grammar {σ : Type} [StreamTransport σ] [Carrier σ Traffic] :
    (∀ (bytes : Bytes) n rest, readUvarint bytes = .ok n rest ↔
      ∃ front last, bytes = front ++ last :: rest ∧ Numeral 10 1 front last ∧
        digitsValue (front ++ [last]) = n.toNat) ∧
    (∀ (bytes : Bytes) rest, readUvarint bytes = .error .varintTooLong rest ↔
      ∃ front last, bytes = front ++ last :: rest ∧ Overlong 10 1 front last) ∧
    (∀ (bytes : Bytes) expected received rest,
      readUvarint bytes = .error (.connectionClosed expected received) rest ↔
        Unfinished 10 bytes ∧ expected = 1 ∧ received = 0 ∧ rest = []) ∧
    (∀ (bytes : Bytes) n rest, readVarint bytes = .ok n rest ↔
      ∃ m, ReadsShort bytes m rest ∧ m.toUInt32.toInt32 = n) ∧
    (∀ bytes : Bytes, 5 ≤ bytes.length → (∀ m rest, ¬ReadsShort bytes m rest) →
      readVarint bytes = .error .varintTooLong (bytes.drop 5)) ∧
    (∀ (bytes : Bytes) n rest,
      readVarlong bytes = .ok n rest ↔ readUvarint bytes = .ok n.toUInt64 rest) ∧
    (∀ n, Shortest readUvarint (uvarint n) n ∧ (uvarint n).length ≤ 10) ∧
    (∀ n, Shortest readVarint (varint n) n ∧ (varint n).length ≤ 5) ∧
    (∀ n, Shortest readVarlong (varlong n) n ∧ (varlong n).length ≤ 10) ∧
    Streams (readUvarint : Decoder σ UInt64) readUvarint ∧
    Streams (readVarint : Decoder σ Int32) readVarint ∧
    Streams (readVarlong : Decoder σ Int64) readVarlong := by
  refine ⟨?_, ?_, ?_, ?_, ?_, ?_, ?_, ?_, ?_, ?_⟩
  · exact fun bytes n rest => readUvarint_eq_ok_iff
  · exact fun bytes rest => readUvarint_eq_error_iff.trans (readBase128_eq_tooLong_iff (by decide))
  · exact fun bytes expected received rest =>
      readUvarint_eq_error_iff.trans (readBase128_eq_closed_iff (by decide))
  · exact fun bytes n rest => readVarint_eq_ok_iff_short
  · intro bytes hlength hshort
    refine readVarint_of_five_le hlength fun n rest hread => ?_
    obtain ⟨m, hm, -⟩ := readVarint_eq_ok_iff_short.mp hread
    exact hshort m rest hm
  · exact fun bytes n rest => readVarlong_eq_ok_iff
  · exact fun n => ⟨shortest_uvarint n, length_uvarint_le n⟩
  · exact fun n => ⟨shortest_varint n, length_varint_le n⟩
  · exact fun n => ⟨shortest_varlong n, length_uvarint_le n.toUInt64⟩
  · exact ⟨mirrors_readUvarint.streams, mirrors_readVarint.streams, mirrors_readVarlong.streams⟩

end GameProbe.Wire
