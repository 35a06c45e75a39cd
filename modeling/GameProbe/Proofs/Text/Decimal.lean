import GameProbe.Text.Decimal
import Mathlib.Tactic.Lemma

/-!
# Reading decimal numbers back

A number of 32 bits is read from just those texts that tell it in decimal, at both ends of its range
and on either side of zero. One of them is the text that it is written as.
-/

namespace GameProbe.Decimal

variable {limit n : Nat} {digits : List Char}

/-! ### Digits -/

lemma natUpTo_of_ne_nil (h : digits ≠ []) :
    natUpTo limit digits = digits.foldlM (fun n c =>
      if c.isDigit ∧ n * 10 + (c.toNat - '0'.toNat) ≤ limit then
        some (n * 10 + (c.toNat - '0'.toNat)) else none) 0 := by
  cases digits with
  | nil => exact absurd rfl h
  | cons c digits => rfl

lemma le_ofDigitChars (digits : List Char) (k : Nat) : k ≤ Nat.ofDigitChars 10 digits k := by
  induction digits generalizing k with
  | nil => exact Nat.le_refl k
  | cons c digits ih =>
    rw [Nat.ofDigitChars_cons]
    exact Nat.le_trans (by omega) (ih _)

/-- Digits are read as the number that they stand for, and only within the limit. -/
lemma natUpTo_eq_some_iff : natUpTo limit digits = some n ↔
    digits ≠ [] ∧ (∀ c ∈ digits, c.isDigit) ∧ Nat.ofDigitChars 10 digits 0 = n ∧ n ≤ limit := by
  by_cases hne : digits = []
  · subst hne
    simp [natUpTo]
  rw [natUpTo_of_ne_nil hne, ne_eq, eq_false hne, not_false_eq_true, true_and]
  have hstart : 0 ≤ limit := Nat.zero_le limit
  clear hne
  generalize 0 = k at hstart
  induction digits generalizing k with
  | nil =>
    simp only [List.foldlM_nil, Option.pure_def, Option.some.injEq, Nat.ofDigitChars_nil]
    constructor
    · rintro rfl
      exact ⟨nofun, rfl, hstart⟩
    · exact fun h => h.2.1
  | cons c digits ih =>
    rw [List.foldlM_cons, List.forall_mem_cons, Nat.ofDigitChars_cons, Nat.mul_comm 10 k]
    split
    · rename_i hc
      refine (ih _ hc.2).trans ?_
      simp [hc.1]
    · rename_i hc
      constructor
      · nofun
      · -- a number beyond the limit does not come back
        rintro ⟨⟨hdigit, -⟩, rfl, hle⟩
        exact absurd ⟨hdigit, Nat.le_trans (le_ofDigitChars digits _) hle⟩ hc

/-! ### What a text tells -/

/-- The number that a text tells in decimal: one or more digits, perhaps a sign before them. -/
inductive Tells : List Char → Int → Prop
  | plain {digits : List Char} : digits ≠ [] → (∀ c ∈ digits, c.isDigit) →
    Tells digits (Nat.ofDigitChars 10 digits 0)
  | plus {digits : List Char} : digits ≠ [] → (∀ c ∈ digits, c.isDigit) →
    Tells ('+' :: digits) (Nat.ofDigitChars 10 digits 0)
  | minus {digits : List Char} : digits ≠ [] → (∀ c ∈ digits, c.isDigit) →
    Tells ('-' :: digits) (-(Nat.ofDigitChars 10 digits 0))

/-- What is read is the number that the text tells. -/
lemma tells_of_int32? {text : String} {n : Int32} (h : int32? text = some n) :
    Tells text.toList n.toInt := by
  rw [int32?] at h
  split at h
  · rename_i digits hlist
    obtain ⟨m, hm, rfl⟩ := Option.map_eq_some_iff.mp h
    obtain ⟨hne, hdigits, rfl, hle⟩ := natUpTo_eq_some_iff.mp hm
    rw [hlist, Int32.toInt_ofNat_of_lt (by omega)]
    exact .plus hne hdigits
  · rename_i digits hlist
    obtain ⟨_, hnat, rfl⟩ := Option.map_eq_some_iff.mp h
    obtain ⟨m, hm, ⟨⟩⟩ := Option.bind_eq_some_iff.mp hnat
    obtain ⟨hne, hdigits, rfl, hle⟩ := natUpTo_eq_some_iff.mp hm
    rw [hlist, Int32.toInt_ofInt_of_le (by omega) (by omega)]
    exact .minus hne hdigits
  · obtain ⟨m, hm, rfl⟩ := Option.map_eq_some_iff.mp h
    obtain ⟨hne, hdigits, rfl, hle⟩ := natUpTo_eq_some_iff.mp hm
    rw [Int32.toInt_ofNat_of_lt (by omega)]
    exact .plain hne hdigits

/-- A number of 32 bits that a text tells is read from it. -/
lemma int32?_of_tells {text : String} {n : Int32} (h : Tells text.toList n.toInt) :
    int32? text = some n := by
  have hlow := n.le_toInt
  have hhigh := n.toInt_lt
  have hback : Int32.ofInt n.toInt = n := Int32.ofInt_toInt n
  rw [int32?]
  generalize n.toInt = value at h hlow hhigh hback
  generalize text.toList = chars at h
  cases h with
  | plain hne hdigits =>
    have hle : Nat.ofDigitChars 10 chars 0 ≤ 0x7FFFFFFF := by omega
    have hread := natUpTo_eq_some_iff.mpr ⟨hne, hdigits, rfl, hle⟩
    split
    · exact absurd (hdigits '+' List.mem_cons_self) (by decide)
    · exact absurd (hdigits '-' List.mem_cons_self) (by decide)
    · rw [hread, Option.map_some, ← hback]
      rfl
  | @plus digits hne hdigits =>
    have hle : Nat.ofDigitChars 10 digits 0 ≤ 0x7FFFFFFF := by omega
    have hread := natUpTo_eq_some_iff.mpr ⟨hne, hdigits, rfl, hle⟩
    simp only [hread, Option.map_some, ← hback]
    rfl
  | @minus digits hne hdigits =>
    have hle : Nat.ofDigitChars 10 digits 0 ≤ 0x80000000 := by omega
    have hread := natUpTo_eq_some_iff.mpr ⟨hne, hdigits, rfl, hle⟩
    simp only [hread, ← hback]
    rfl

/-- What is read is the number that the text tells, if 32 bits can tell it too. -/
theorem int32?_eq_some_iff {text : String} {n : Int32} :
    int32? text = some n ↔ Tells text.toList n.toInt :=
  ⟨tells_of_int32?, int32?_of_tells⟩

/-- What tells no number of 32 bits is not read. -/
theorem int32?_eq_none_iff {text : String} :
    int32? text = none ↔ ∀ n : Int32, ¬Tells text.toList n.toInt := by
  rw [Option.eq_none_iff_forall_ne_some]
  exact forall_congr' fun n => not_congr int32?_eq_some_iff

/-! ### Numbers of 32 bits -/

/-- A number in decimal. -/
def ofInt32 (n : Int32) : String := toString n.toInt

/-- A number is written as its digits, behind a minus sign if it is negative. -/
lemma toList_ofInt32 (n : Int32) :
    (∃ m : Nat, n.toInt = m ∧ (ofInt32 n).toList = Nat.toDigits 10 m) ∨
    ∃ m : Nat, n.toInt = -m ∧ (ofInt32 n).toList = '-' :: Nat.toDigits 10 m := by
  rw [ofInt32]
  cases n.toInt with
  | ofNat m =>
    refine .inl ⟨m, rfl, ?_⟩
    show (toString m).toList = _
    rw [Nat.toString_eq_ofList_toDigits, String.toList_ofList]
  | negSucc m =>
    refine .inr ⟨m + 1, rfl, ?_⟩
    show ("-" ++ toString (m + 1)).toList = _
    simp

lemma notMem_toDigits {c : Char} (h : c.isDigit = false) (m : Nat) : c ∉ Nat.toDigits 10 m := by
  intro hc
  rw [Nat.isDigit_of_mem_toDigits (by decide) (by decide) hc] at h
  cases h

/-- A number in decimal has digits, perhaps a minus sign before them, and nothing else. -/
lemma notMem_ofInt32 {c : Char} (hminus : c ≠ '-') (hdigit : c.isDigit = false) (n : Int32) :
    c ∉ (ofInt32 n).toList := by
  rcases toList_ofInt32 n with ⟨m, -, hlist⟩ | ⟨m, -, hlist⟩
  · rw [hlist]
    exact notMem_toDigits hdigit m
  · rw [hlist, List.mem_cons, not_or]
    exact ⟨hminus, notMem_toDigits hdigit m⟩

lemma tells_toDigits (m : Nat) : Tells (Nat.toDigits 10 m) m := by
  have htells := Tells.plain (Nat.toDigits_ne_nil (b := 10) (n := m)) fun _ =>
    Nat.isDigit_of_mem_toDigits (by decide) (by decide)
  rwa [Nat.ofDigitChars_ten_toDigits] at htells

lemma tells_minus_toDigits (m : Nat) : Tells ('-' :: Nat.toDigits 10 m) (-m) := by
  have htells := Tells.minus (Nat.toDigits_ne_nil (b := 10) (n := m)) fun _ =>
    Nat.isDigit_of_mem_toDigits (by decide) (by decide)
  rwa [Nat.ofDigitChars_ten_toDigits] at htells

/-- A number in decimal tells that number. -/
lemma tells_ofInt32 (n : Int32) : Tells (ofInt32 n).toList n.toInt := by
  rcases toList_ofInt32 n with ⟨m, hn, hlist⟩ | ⟨m, hn, hlist⟩
  · rw [hlist, hn]
    exact tells_toDigits m
  · rw [hlist, hn]
    exact tells_minus_toDigits m

/-- A number is read back from its decimal text. -/
theorem int32?_ofInt32 (n : Int32) : int32? (ofInt32 n) = some n :=
  int32?_eq_some_iff.mpr (tells_ofInt32 n)

/-! ### Numbers of 16 bits -/

lemma map_natUpTo_eq_some_iff {n : UInt16} :
    (natUpTo 0xFFFF digits).map UInt16.ofNat = some n ↔
      digits ≠ [] ∧ (∀ c ∈ digits, c.isDigit) ∧ Nat.ofDigitChars 10 digits 0 = n.toNat := by
  have hlt : n.toNat < 2 ^ 16 := n.toNat_lt
  rw [Option.map_eq_some_iff]
  constructor
  · rintro ⟨m, hm, rfl⟩
    obtain ⟨hne, hdigits, hvalue, hle⟩ := natUpTo_eq_some_iff.mp hm
    rw [UInt16.toNat_ofNat_of_lt' (Nat.lt_succ_of_le hle)]
    exact ⟨hne, hdigits, hvalue⟩
  · rintro ⟨hne, hdigits, hvalue⟩
    exact ⟨n.toNat, natUpTo_eq_some_iff.mpr ⟨hne, hdigits, hvalue, by omega⟩, UInt16.ofNat_toNat⟩

/-- What is read is the number that the text tells. -/
lemma tells_of_uint16? {text : String} {n : UInt16} (h : uint16? text = some n) :
    Tells text.toList n.toNat := by
  rw [uint16?] at h
  split at h
  · rename_i digits hlist
    obtain ⟨hne, hdigits, hvalue⟩ := map_natUpTo_eq_some_iff.mp h
    rw [hlist, ← hvalue]
    exact .plus hne hdigits
  · obtain ⟨hne, hdigits, hvalue⟩ := map_natUpTo_eq_some_iff.mp h
    rw [← hvalue]
    exact .plain hne hdigits

lemma uint16?_eq_none {text : String} (h : ∀ n : UInt16, ¬Tells text.toList n.toNat) :
    uint16? text = none :=
  Option.eq_none_iff_forall_ne_some.mpr fun n hn => h n (tells_of_uint16? hn)

/-- A number that a text tells is read from it, if what is not read counts as zero. -/
lemma getD_uint16?_of_tells {text : String} {n : UInt16} (h : Tells text.toList n.toNat) :
    (uint16? text).getD 0 = n := by
  rw [uint16?]
  generalize hvalue : (n.toNat : Int) = value at h
  generalize text.toList = chars at h
  cases h with
  | plain hne hdigits =>
    have hread := map_natUpTo_eq_some_iff.mpr ⟨hne, hdigits, (Int.ofNat_inj.mp hvalue).symm⟩
    split
    · exact absurd (hdigits '+' List.mem_cons_self) (by decide)
    · rw [hread, Option.getD_some]
  | plus hne hdigits =>
    have hread := map_natUpTo_eq_some_iff.mpr ⟨hne, hdigits, (Int.ofNat_inj.mp hvalue).symm⟩
    simp only [hread, Option.getD_some]
  | @minus digits hne hdigits =>
    -- only zero has a minus sign, and the sign keeps it from being read
    have hzero : n = 0 := UInt16.toNat_inj.mp (by rw [UInt16.toNat_zero]; omega)
    have hnone : (natUpTo 0xFFFF ('-' :: digits)).map UInt16.ofNat = none := by
      refine Option.eq_none_iff_forall_ne_some.mpr fun m hm => ?_
      exact absurd ((map_natUpTo_eq_some_iff.mp hm).2.1 '-' List.mem_cons_self) (by decide)
    show ((natUpTo 0xFFFF ('-' :: digits)).map UInt16.ofNat).getD 0 = n
    rw [hnone, hzero, Option.getD_none]

/-- A number of 16 bits in decimal. -/
def ofUInt16 (n : UInt16) : String := toString n.toNat

lemma toList_ofUInt16 (n : UInt16) : (ofUInt16 n).toList = Nat.toDigits 10 n.toNat := by
  rw [ofUInt16, Nat.toString_eq_ofList_toDigits, String.toList_ofList]

lemma notMem_ofUInt16 {c : Char} (hdigit : c.isDigit = false) (n : UInt16) :
    c ∉ (ofUInt16 n).toList := by
  rw [toList_ofUInt16]
  exact notMem_toDigits hdigit n.toNat

lemma tells_ofUInt16 (n : UInt16) : Tells (ofUInt16 n).toList n.toNat := by
  rw [toList_ofUInt16]
  exact tells_toDigits n.toNat

end GameProbe.Decimal
