import GameProbe.Proofs.Wire.Fixed
import GameProbe.Wire.Varint
import Mathlib.Data.Nat.Digits.Defs
import Mathlib.Tactic.Ring

/-!
# Numerals

What a reader of varints makes of any string of bytes. The string begins with a numeral, or with
more digits than there is room for, or it ends within the digits, and the reader tells the three
apart.
-/

namespace GameProbe.Wire

variable {top b last : UInt8} {digits place sum : Nat} {bytes front : Bytes}

/-! ### Strings of digits -/

/-- The number of which the bytes hold the base-128 digits, the lowest first. -/
def digitsValue (bytes : Bytes) : Nat := Nat.ofDigits 128 (bytes.map fun b => b.toNat % 128)

/-- A number of at most `digits` digits, all but the last of them with the high bit set. If there
are so many, the last is at most `top`. -/
structure Numeral (digits : Nat) (top : UInt8) (front : Bytes) (last : UInt8) : Prop where
  continues : ∀ b ∈ front, 128 ≤ b
  ends : last < 128
  length_lt : front.length < digits
  last_le : front.length + 1 = digits → last ≤ top

/-- So many digits that no further one has a place, the last of which is greater than `top`. -/
structure Overlong (digits : Nat) (top : UInt8) (front : Bytes) (last : UInt8) : Prop where
  continues : ∀ b ∈ front, 128 ≤ b
  length_eq : front.length + 1 = digits
  top_lt : top < last

/-- The beginning of a number, behind which a digit is missing. -/
structure Unfinished (digits : Nat) (bytes : Bytes) : Prop where
  continues : ∀ b ∈ bytes, 128 ≤ b
  length_lt : bytes.length < digits

lemma digitsValue_singleton (b : UInt8) : digitsValue [b] = b.toNat % 128 := by
  simp [digitsValue]

lemma digitsValue_cons (b : UInt8) (bytes : Bytes) :
    digitsValue (b :: bytes) = b.toNat % 128 + 128 * digitsValue bytes := by
  rw [digitsValue, List.map_cons, Nat.ofDigits_cons]
  rfl

namespace Numeral

lemma nil (hends : last < 128) (htop : digits = 0 → last ≤ top) :
    Numeral (digits + 1) top [] last where
  continues := nofun
  ends := hends
  length_lt := Nat.succ_pos digits
  last_le h := htop (Nat.succ.inj h).symm

lemma cons (hb : 128 ≤ b) (h : Numeral digits top front last) :
    Numeral (digits + 1) top (b :: front) last where
  continues := List.forall_mem_cons.mpr ⟨hb, h.continues⟩
  ends := h.ends
  length_lt := Nat.succ_lt_succ h.length_lt
  last_le hlength := h.last_le (Nat.succ.inj hlength)

lemma tail (h : Numeral (digits + 1) top (b :: front) last) : Numeral digits top front last where
  continues := (List.forall_mem_cons.mp h.continues).2
  ends := h.ends
  length_lt := Nat.lt_of_succ_lt_succ h.length_lt
  last_le hlength := h.last_le (congrArg Nat.succ hlength)

end Numeral

namespace Overlong

lemma nil (h : top < last) : Overlong 1 top [] last where
  continues := nofun
  length_eq := rfl
  top_lt := h

lemma cons (hb : 128 ≤ b) (h : Overlong digits top front last) :
    Overlong (digits + 1) top (b :: front) last where
  continues := List.forall_mem_cons.mpr ⟨hb, h.continues⟩
  length_eq := congrArg Nat.succ h.length_eq
  top_lt := h.top_lt

lemma tail (h : Overlong (digits + 1) top (b :: front) last) : Overlong digits top front last where
  continues := (List.forall_mem_cons.mp h.continues).2
  length_eq := Nat.succ.inj h.length_eq
  top_lt := h.top_lt

end Overlong

namespace Unfinished

lemma nil (digits : Nat) : Unfinished (digits + 1) [] where
  continues := nofun
  length_lt := Nat.succ_pos digits

lemma cons (hb : 128 ≤ b) (h : Unfinished digits bytes) : Unfinished (digits + 1) (b :: bytes) where
  continues := List.forall_mem_cons.mpr ⟨hb, h.continues⟩
  length_lt := Nat.succ_lt_succ h.length_lt

lemma tail (h : Unfinished (digits + 1) (b :: bytes)) : Unfinished digits bytes where
  continues := (List.forall_mem_cons.mp h.continues).2
  length_lt := Nat.lt_of_succ_lt_succ h.length_lt

end Unfinished

/-- Every string begins with a numeral or with too many digits, or it ends before. -/
lemma numeral_or_overlong_or_unfinished (htop : top < 128) (digits : Nat) (bytes : Bytes) :
    (∃ front last rest, bytes = front ++ last :: rest ∧ Numeral (digits + 1) top front last) ∨
    (∃ front last rest, bytes = front ++ last :: rest ∧ Overlong (digits + 1) top front last) ∨
    Unfinished (digits + 1) bytes := by
  induction digits generalizing bytes with
  | zero =>
    match bytes with
    | [] => exact .inr (.inr (.nil 0))
    | b :: bytes =>
      by_cases hb : top < b
      · exact .inr (.inl ⟨[], b, bytes, rfl, .nil hb⟩)
      · rw [UInt8.not_lt] at hb
        exact .inl ⟨[], b, bytes, rfl, .nil (UInt8.lt_of_le_of_lt hb htop) fun _ => hb⟩
  | succ digits ih =>
    match bytes with
    | [] => exact .inr (.inr (.nil (digits + 1)))
    | b :: bytes =>
      by_cases hb : b < 128
      · exact .inl ⟨[], b, bytes, rfl, .nil hb fun h => absurd h (Nat.succ_ne_zero digits)⟩
      rw [UInt8.not_lt] at hb
      rcases ih bytes with ⟨front, last, rest, rfl, h⟩ | ⟨front, last, rest, rfl, h⟩ | h
      · exact .inl ⟨b :: front, last, rest, rfl, h.cons hb⟩
      · exact .inr (.inl ⟨b :: front, last, rest, rfl, h.cons hb⟩)
      · exact .inr (.inr (h.cons hb))

/-! ### Reading digits -/

/-- What a reader does with the next digit. -/
lemma readBase128From_cons (b : UInt8) (x : Bytes) :
    readBase128From top (digits + 1) place sum (b :: x) =
      if digits = 0 ∧ b > top then .error .varintTooLong x
      else if b < 128 then .ok (sum + b.toNat % 128 * place) x
      else readBase128From top digits (place * 128) (sum + b.toNat % 128 * place) x := by
  rw [readBase128From, bind_of_ok (readByte_cons b x)]
  dsimp only
  split
  · rfl
  · split <;> rfl

lemma readBase128From_of_continues (hb : 128 ≤ b) (x : Bytes) :
    readBase128From top (digits + 2) place sum (b :: x) =
      readBase128From top (digits + 1) (place * 128) (sum + b.toNat % 128 * place) x := by
  rw [readBase128From_cons, if_neg fun h => Nat.succ_ne_zero digits h.1,
    if_neg (UInt8.not_lt.mpr hb)]

lemma readBase128From_numeral (h : Numeral digits top front last) (x : Bytes) :
    readBase128From top digits place sum (front ++ last :: x) =
      .ok (sum + digitsValue (front ++ [last]) * place) x := by
  induction front generalizing digits place sum with
  | nil =>
    obtain ⟨digits, rfl⟩ := Nat.exists_eq_add_one_of_ne_zero (Nat.ne_zero_of_lt h.length_lt)
    have hfits : ¬(digits = 0 ∧ last > top) := by
      rintro ⟨rfl, htop⟩
      exact UInt8.not_le.mpr htop (h.last_le rfl)
    rw [List.nil_append, List.nil_append, digitsValue_singleton, readBase128From_cons, if_neg hfits,
      if_pos h.ends]
  | cons b front ih =>
    obtain ⟨digits, rfl⟩ : ∃ n, digits = n + 2 := Nat.exists_eq_add_of_le' (by
      have hlength := h.length_lt
      rw [List.length_cons] at hlength
      omega)
    have hsum (n : Nat) : sum + b.toNat % 128 * place + n * (place * 128) =
        sum + (b.toNat % 128 + 128 * n) * place := by ring
    rw [List.cons_append, List.cons_append, digitsValue_cons,
      readBase128From_of_continues (h.continues b List.mem_cons_self), ih h.tail, hsum]

lemma readBase128From_overlong (h : Overlong digits top front last) (x : Bytes) :
    readBase128From top digits place sum (front ++ last :: x) = .error .varintTooLong x := by
  induction front generalizing digits place sum with
  | nil =>
    obtain rfl : 1 = digits := h.length_eq
    rw [List.nil_append, readBase128From_cons, if_pos ⟨rfl, h.top_lt⟩]
  | cons b front ih =>
    obtain rfl : front.length + 2 = digits := h.length_eq
    rw [List.cons_append, readBase128From_of_continues (h.continues b List.mem_cons_self),
      ih h.tail]

lemma readBase128From_unfinished (h : Unfinished digits bytes) :
    readBase128From top digits place sum bytes = .error (.connectionClosed 1 0) [] := by
  induction bytes generalizing digits place sum with
  | nil =>
    obtain ⟨digits, rfl⟩ := Nat.exists_eq_add_one_of_ne_zero (Nat.ne_zero_of_lt h.length_lt)
    exact bind_of_error (bind_of_error (fill_apply 1 []))
  | cons b bytes ih =>
    obtain ⟨digits, rfl⟩ : ∃ n, digits = n + 2 := Nat.exists_eq_add_of_le' (by
      have hlength := h.length_lt
      rw [List.length_cons] at hlength
      omega)
    rw [readBase128From_of_continues (h.continues b List.mem_cons_self), ih h.tail]

/-! ### Reading numbers -/

variable {n : Nat} {rest : Bytes}

/-- What comes of reading each of the three. -/
inductive ReadsDigits (digits : Nat) (top : UInt8) : Bytes → EStateM.Result Error Bytes Nat → Prop
  | numeral {front rest : Bytes} {last : UInt8} (h : Numeral digits top front last) :
    ReadsDigits digits top (front ++ last :: rest) (.ok (digitsValue (front ++ [last])) rest)
  | overlong {front rest : Bytes} {last : UInt8} (h : Overlong digits top front last) :
    ReadsDigits digits top (front ++ last :: rest) (.error .varintTooLong rest)
  | unfinished {bytes : Bytes} (h : Unfinished digits bytes) :
    ReadsDigits digits top bytes (.error (.connectionClosed 1 0) [])

lemma readBase128_numeral (h : Numeral digits top front last) (x : Bytes) :
    readBase128 digits top (front ++ last :: x) = .ok (digitsValue (front ++ [last])) x := by
  rw [readBase128, readBase128From_numeral h, Nat.zero_add, Nat.mul_one]

/-- A reader takes a string for one of the three, and does as it should. -/
lemma readsDigits_readBase128 (htop : top < 128) (digits : Nat) (bytes : Bytes) :
    ReadsDigits (digits + 1) top bytes (readBase128 (digits + 1) top bytes) := by
  rcases numeral_or_overlong_or_unfinished htop digits bytes with
    ⟨front, last, rest, rfl, h⟩ | ⟨front, last, rest, rfl, h⟩ | h
  · rw [readBase128_numeral h]
    exact .numeral h
  · rw [readBase128, readBase128From_overlong h]
    exact .overlong h
  · rw [readBase128, readBase128From_unfinished h]
    exact .unfinished h

lemma readBase128_eq_ok_iff (htop : top < 128) :
    readBase128 (digits + 1) top bytes = .ok n rest ↔
      ∃ front last, bytes = front ++ last :: rest ∧ Numeral (digits + 1) top front last ∧
        digitsValue (front ++ [last]) = n := by
  constructor
  · intro hread
    have hreads := readsDigits_readBase128 htop digits bytes
    rw [hread] at hreads
    cases hreads with
    | numeral h => exact ⟨_, _, rfl, h, rfl⟩
  · rintro ⟨front, last, rfl, h, rfl⟩
    exact readBase128_numeral h rest

lemma readBase128_eq_tooLong_iff (htop : top < 128) :
    readBase128 (digits + 1) top bytes = .error .varintTooLong rest ↔
      ∃ front last, bytes = front ++ last :: rest ∧ Overlong (digits + 1) top front last := by
  constructor
  · intro hread
    have hreads := readsDigits_readBase128 htop digits bytes
    rw [hread] at hreads
    cases hreads with
    | overlong h => exact ⟨_, _, rfl, h⟩
  · rintro ⟨front, last, rfl, h⟩
    exact readBase128From_overlong h rest

lemma readBase128_eq_closed_iff (htop : top < 128) {expected received : Nat} :
    readBase128 (digits + 1) top bytes = .error (.connectionClosed expected received) rest ↔
      Unfinished (digits + 1) bytes ∧ expected = 1 ∧ received = 0 ∧ rest = [] := by
  constructor
  · intro hread
    have hreads := readsDigits_readBase128 htop digits bytes
    rw [hread] at hreads
    cases hreads with
    | unfinished h => exact ⟨h, rfl, rfl, rfl⟩
  · rintro ⟨h, rfl, rfl, rfl⟩
    exact readBase128From_unfinished h

end GameProbe.Wire
