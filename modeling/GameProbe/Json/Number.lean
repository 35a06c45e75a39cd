import GameProbe.Json.Value
import GameProbe.Json.Error

/-!
# Reading JSON numbers

A number is read as a significand, which takes digits for as long as it fits 64 bits, and a power
of ten, which makes up for the digits left out.
-/

namespace GameProbe.Json

/-- What a reader makes of the bytes before it: a value and the bytes that follow, or a flaw and
the bytes behind the last one it looked at. -/
abbrev Reading (α : Type) := EStateM.Result Flaw (List UInt8) α

/-- A reader of bytes. -/
abbrev Reader (α : Type) := List UInt8 → Reading α

/-! ### Digits -/

/-- Whether a byte is a decimal digit. -/
def isDigit (b : UInt8) : Bool := 0x30 ≤ b && b ≤ 0x39

/-- Digits taken into a number. -/
structure Digits where
  value : Nat
  count : Nat
  rest : List UInt8

/-- Take digits for as long as the number does not exceed `limit`. -/
def absorb (limit : Nat) (value count : Nat) : List UInt8 → Digits
  | [] => ⟨value, count, []⟩
  | b :: rest =>
    let next := value * 10 + (b.toNat - 0x30)
    if isDigit b && next ≤ limit then absorb limit next (count + 1) rest
    else ⟨value, count, b :: rest⟩

/-- Pass over digits, counting them from `count`. -/
def skipDigits (count : Nat) : List UInt8 → Nat × List UInt8
  | [] => (count, [])
  | b :: rest => if isDigit b then skipDigits (count + 1) rest else (count, b :: rest)

theorem length_absorb_le (limit value count : Nat) (s : List UInt8) :
    (absorb limit value count s).rest.length ≤ s.length := by
  induction s generalizing value count with
  | nil => simp [absorb]
  | cons b rest ih =>
    simp only [absorb]
    split
    · exact Nat.le_succ_of_le (ih ..)
    · simp

theorem length_skipDigits_le (count : Nat) (s : List UInt8) :
    (skipDigits count s).2.length ≤ s.length := by
  induction s generalizing count with
  | nil => simp [skipDigits]
  | cons b rest ih =>
    simp only [skipDigits]
    split
    · exact Nat.le_succ_of_le (ih ..)
    · simp

/-! ### Doubles -/

/-- The double `10 ^ k`, correctly rounded. -/
private def tenToThe (k : Nat) : Float := Float.ofScientific 1 false k

/-- Scale a significand by a power of ten, by at most `10 ^ 308` at a time; `none` when it leaves
the range of doubles. -/
def scaleByTen (x : Float) (exponent : Int) : Option Float :=
  if exponent.natAbs ≤ 308 then
    if exponent ≥ 0 then
      let y := x * tenToThe exponent.natAbs
      if y.isInf then none else some y
    else some (x / tenToThe exponent.natAbs)
  else if x == 0 then some x
  else if exponent ≥ 0 then none
  else scaleByTen (x / tenToThe 308) (exponent + 308)
termination_by exponent.natAbs
decreasing_by omega

/-- A number with a sign. -/
private def signed (negative : Bool) (x : Float) : Number := .double (if negative then -x else x)

/-- The number `significand · 10 ^ exponent`. -/
def finishDouble (negative : Bool) (significand : Nat) (exponent : Int) (rest : List UInt8) :
    Reading Number :=
  match scaleByTen (UInt64.ofNat significand).toFloat exponent with
  | some x => .ok (signed negative x) rest
  | none => .error .numberOutOfRange rest

/-- The largest exponent that is taken into account. -/
def exponentLimit : Nat := 0x7FFFFFFF

/-- The number nearest to `n` among those of 32 bits. -/
def clampInt32 (n : Int) : Int :=
  if n < Int32.minValue.toInt then Int32.minValue.toInt
  else if Int32.maxValue.toInt < n then Int32.maxValue.toInt
  else n

/-- An exponent as large as the limit leaves none but the zero in range; it takes a value below
zero to nothing. -/
private def finishHugeExponent (negative : Bool) (significand : Nat) (shrinks : Bool)
    (rest : List UInt8) : Reading Number :=
  if significand ≠ 0 ∧ !shrinks then .error .numberOutOfRange (rest.drop 1)
  else .ok (signed negative 0) (skipDigits 0 rest).2

/-- Whether an exponent has a minus sign, and its digits. -/
private def exponentSign (s : List UInt8) : Bool × List UInt8 :=
  match s with
  | b :: rest => if b = 0x2B then (false, rest) else if b = 0x2D then (true, rest) else (false, s)
  | [] => (false, s)

/-- The exponent of a number, behind its letter. -/
private def exponentPart (negative : Bool) (significand : Nat) (exponent : Int)
    (s : List UInt8) : Reading Number :=
  let (shrinks, digits) := exponentSign s
  match digits with
  | [] => .error .eofInValue []
  | b :: rest =>
    if isDigit b then
      let power := absorb exponentLimit 0 0 digits
      if power.rest.head?.any isDigit then
        finishHugeExponent negative significand shrinks power.rest
      else
        let shift : Int := if shrinks then -power.value else power.value
        finishDouble negative significand (clampInt32 (exponent + shift)) power.rest
    else .error .badNumber rest

/-- The end of a double: an exponent, if there is one. -/
private def afterFraction (negative : Bool) (significand : Nat) (exponent : Int)
    (s : List UInt8) : Reading Number :=
  match s with
  | b :: rest =>
    if b = 0x65 ∨ b = 0x45 then exponentPart negative significand exponent rest
    else finishDouble negative significand exponent s
  | [] => finishDouble negative significand exponent s

/-- The largest significand. -/
def significandLimit : Nat := UInt64.size - 1

/-- The digits behind the point. -/
private def fractionPart (negative : Bool) (significand : Nat) (exponent : Int)
    (s : List UInt8) : Reading Number :=
  let taken := absorb significandLimit significand 0 s
  let (skipped, rest) := skipDigits 0 taken.rest
  if taken.count + skipped = 0 then
    match rest with
    | [] => .error .eofInValue []
    | _ :: rest => .error .badNumber rest
  else afterFraction negative taken.value (exponent - taken.count) rest

/-- A whole number; zero with a sign, and what no 64-bit integer holds, is a double. -/
def finishWhole (negative : Bool) (n : Nat) : Number :=
  if !negative then .natural (UInt64.ofNat n)
  else if 0 < n ∧ n ≤ 0x8000000000000000 then .negative (Int64.ofInt (-(n : Int)))
  else .double (-(UInt64.ofNat n).toFloat)

/-- What follows the integer digits, `skipped` of which did not fit the significand. -/
private def afterWhole (negative : Bool) (significand skipped : Nat) (s : List UInt8) :
    Reading Number :=
  match s with
  | b :: rest =>
    if b = 0x2E then fractionPart negative significand skipped rest
    else if b = 0x65 ∨ b = 0x45 then exponentPart negative significand skipped rest
    else if skipped = 0 then .ok (finishWhole negative significand) s
    else finishDouble negative significand skipped s
  | [] =>
    if skipped = 0 then .ok (finishWhole negative significand) s
    else finishDouble negative significand skipped s

/-- A number without its sign. A zero is followed by no further integer digit. -/
def readUnsigned (negative : Bool) (s : List UInt8) : Reading Number :=
  match s with
  | [] => .error .eofInValue []
  | b :: rest =>
    if b = 0x30 then
      match rest with
      | c :: rest' =>
        if isDigit c then .error .badNumber rest' else afterWhole negative 0 0 rest
      | [] => afterWhole negative 0 0 rest
    else if isDigit b then
      let taken := absorb significandLimit (b.toNat - 0x30) 1 rest
      let (skipped, rest) := skipDigits 0 taken.rest
      afterWhole negative taken.value skipped rest
    else .error .badNumber rest

/-- A number. -/
def readNumber (s : List UInt8) : Reading Number :=
  match s with
  | b :: rest => if b = 0x2D then readUnsigned true rest else readUnsigned false s
  | [] => readUnsigned false s

/-! ### What is left -/

private theorem eq_of_finishDouble {negative : Bool} {significand : Nat} {exponent : Int}
    {s rest : List UInt8} {n : Number}
    (h : finishDouble negative significand exponent s = .ok n rest) : rest = s := by
  unfold finishDouble at h
  split at h <;> cases h
  rfl

private theorem length_exponentSign_le (s : List UInt8) :
    (exponentSign s).2.length ≤ s.length := by
  unfold exponentSign
  split
  · split
    · simp
    · split <;> simp
  · simp

private theorem length_exponentPart_le {negative : Bool} {significand : Nat} {exponent : Int}
    {s rest : List UInt8} {n : Number}
    (h : exponentPart negative significand exponent s = .ok n rest) : rest.length ≤ s.length := by
  have sign := length_exponentSign_le s
  simp only [exponentPart] at h
  split at h
  · cases h
  · rename_i b tail digits
    have taken := length_absorb_le exponentLimit 0 0 (exponentSign s).2
    split at h
    · split at h
      · unfold finishHugeExponent at h
        split at h <;> cases h
        have := length_skipDigits_le 0 (absorb exponentLimit 0 0 (exponentSign s).2).rest
        omega
      · rw [eq_of_finishDouble h]
        omega
    · cases h

private theorem length_afterFraction_le {negative : Bool} {significand : Nat} {exponent : Int}
    {s rest : List UInt8} {n : Number}
    (h : afterFraction negative significand exponent s = .ok n rest) :
    rest.length ≤ s.length := by
  unfold afterFraction at h
  split at h
  · split at h
    · exact Nat.le_succ_of_le (length_exponentPart_le h)
    · exact Nat.le_of_eq (congrArg _ (eq_of_finishDouble h))
  · exact Nat.le_of_eq (congrArg _ (eq_of_finishDouble h))

private theorem length_fractionPart_le {negative : Bool} {significand : Nat} {exponent : Int}
    {s rest : List UInt8} {n : Number}
    (h : fractionPart negative significand exponent s = .ok n rest) :
    rest.length ≤ s.length := by
  have taken := length_absorb_le significandLimit significand 0 s
  have skipped := length_skipDigits_le 0 (absorb significandLimit significand 0 s).rest
  simp only [fractionPart] at h
  split at h
  · split at h <;> cases h
  · have := length_afterFraction_le h
    omega

private theorem length_afterWhole_le {negative : Bool} {significand skipped : Nat}
    {s rest : List UInt8} {n : Number}
    (h : afterWhole negative significand skipped s = .ok n rest) : rest.length ≤ s.length := by
  unfold afterWhole at h
  split at h
  · split at h
    · exact Nat.le_succ_of_le (length_fractionPart_le h)
    · split at h
      · exact Nat.le_succ_of_le (length_exponentPart_le h)
      · split at h
        · cases h; exact Nat.le_refl _
        · exact Nat.le_of_eq (congrArg _ (eq_of_finishDouble h))
  · split at h
    · cases h; exact Nat.le_refl _
    · exact Nat.le_of_eq (congrArg _ (eq_of_finishDouble h))

private theorem length_readUnsigned_lt {negative : Bool} {s rest : List UInt8} {n : Number}
    (h : readUnsigned negative s = .ok n rest) : rest.length < s.length := by
  unfold readUnsigned at h
  split at h
  · cases h
  · split at h
    · split at h
      · split at h
        · cases h
        · exact Nat.lt_succ_of_le (length_afterWhole_le h)
      · exact Nat.lt_succ_of_le (length_afterWhole_le h)
    · split at h
      · rename_i b tail _ _
        have taken := length_absorb_le significandLimit (b.toNat - 0x30) 1 tail
        have skipped :=
          length_skipDigits_le 0 (absorb significandLimit (b.toNat - 0x30) 1 tail).rest
        have := length_afterWhole_le h
        simp only [List.length_cons]
        omega
      · cases h

theorem length_readNumber_lt {s rest : List UInt8} {n : Number}
    (h : readNumber s = .ok n rest) : rest.length < s.length := by
  unfold readNumber at h
  split at h
  · split at h
    · exact Nat.lt_succ_of_lt (length_readUnsigned_lt h)
    · exact length_readUnsigned_lt h
  · exact length_readUnsigned_lt h

end GameProbe.Json
