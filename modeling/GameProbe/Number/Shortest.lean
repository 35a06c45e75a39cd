import GameProbe.Number.Double

/-!
# Shortest decimals

The decimal with the fewest digits that reads back as a given double. A double stands for every
real number that rounds to it; among the decimals of one, two, three … digits the first that falls
into this interval is taken, and of two such decimals the one nearer to the double.
-/

namespace GameProbe.Shortest

open Double (Binary leadingBit)

/-- The positive real `digits · 10 ^ exponent`. -/
structure Decimal where
  digits : Nat
  exponent : Int

/-- The reals that round to a double, all over one denominator. The ends belong to the interval
if `closed`. -/
structure Interval where
  low : Nat
  value : Nat
  high : Nat
  denominator : Nat
  closed : Bool

/-- The interval of `x`. Its lower half is narrower where the doubles below lie closer together. -/
def Interval.of (x : Binary) : Interval :=
  let value := 4 * x.mantissa
  let low := if x.mantissa = leadingBit ∧ x.exponent > -1074 then value - 1 else value - 2
  let high := value + 2
  let scale := x.exponent - 2
  let closed := x.mantissa % 2 = 0
  if scale ≥ 0 then
    let shift := scale.toNat
    ⟨low <<< shift, value <<< shift, high <<< shift, 1, closed⟩
  else ⟨low, value, high, 1 <<< (-scale).toNat, closed⟩

/-- The interval with everything multiplied by `10 ^ power`. -/
def Interval.scale (i : Interval) (power : Int) : Interval :=
  if power ≥ 0 then
    let factor := Nat.pow 10 power.toNat
    { i with low := i.low * factor, value := i.value * factor, high := i.high * factor }
  else { i with denominator := i.denominator * Nat.pow 10 (-power).toNat }

/-- Whether a natural number lies in the interval. -/
def Interval.contains (i : Interval) (n : Nat) : Bool :=
  let m := n * i.denominator
  if i.closed then i.low ≤ m && m ≤ i.high else i.low < m && m < i.high

/-- The natural number in the interval nearest to its value, the even one of two equally near. -/
def Interval.nearest? (i : Interval) : Option Nat :=
  let below := i.value / i.denominator
  let above := below + 1
  match i.contains below && below ≠ 0, i.contains above with
  | false, false => none
  | true, false => some below
  | false, true => some above
  | true, true =>
    let gapBelow := i.value - below * i.denominator
    let gapAbove := above * i.denominator - i.value
    if gapBelow < gapAbove ∨ gapBelow = gapAbove ∧ below % 2 = 0 then some below else some above

/-- The exponent of the leading decimal digit of the interval's value, searched upwards from
`start`. -/
def leadingExponent (i : Interval) (start : Int) : Nat → Int
  | 0 => start
  | fuel + 1 =>
    let scaled := i.scale (-(start + 1))
    if scaled.value < scaled.denominator then start else leadingExponent i (start + 1) fuel

/-- A number below the exponent of the leading decimal digit by two at most: the logarithm of
two to the base ten is about 0.30103. -/
def leadingGuess (x : Binary) : Int :=
  ((Nat.log2 x.mantissa : Int) + x.exponent) * 30103 / 100000 - 1

/-- Try grids of `17 - fuel` digits and more; `lead` is the exponent of the leading digit. -/
def search (i : Interval) (lead : Int) : Nat → Decimal
  | 0 => ⟨(i.scale (16 - lead)).value / (i.scale (16 - lead)).denominator, lead - 16⟩
  | fuel + 1 =>
    let unit := lead - (16 - (fuel : Int))
    match (i.scale (-unit)).nearest? with
    | some digits => ⟨digits, unit⟩
    | none => search i lead fuel

/-- The shortest decimal that reads back as the positive finite double `x`. -/
def ofBinary (x : Binary) : Decimal :=
  let i := Interval.of x
  search i (leadingExponent i (leadingGuess x) 3) 17

/-- The decimal digits of a positive number, without trailing zeros, and the exponent of the
first. -/
def Decimal.scientific (d : Decimal) : List Char × Int :=
  let digits := Nat.toDigits 10 d.digits
  ((digits.reverse.dropWhile (· = '0')).reverse, d.exponent + (digits.length - 1 : Nat))

end GameProbe.Shortest
