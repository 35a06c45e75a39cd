/-!
# Doubles

Doubles as exact numbers: their magnitude, the integer part, and the double nearest to a natural
number.
-/

namespace GameProbe.Double

/-- The real number `mantissa · 2 ^ exponent`. -/
structure Binary where
  mantissa : Nat
  exponent : Int

/-- The leading bit of the mantissa, which a double of full precision does not store. -/
def leadingBit : Nat := 0x10000000000000

/-- The magnitude of a finite double. -/
def magnitude (x : Float) : Binary :=
  let bits := x.toBits.toNat
  let fraction : Nat := bits % leadingBit
  let biased : Nat := bits / leadingBit % 0x800
  if biased = 0 then ⟨fraction, -1074⟩ else ⟨leadingBit + fraction, (biased : Int) - 1075⟩

/-- Whether a double has a minus sign, which a zero may have too. -/
def isNegative (x : Float) : Bool := x.toBits ≥ 0x8000000000000000

/-- The whole part of a number. -/
def Binary.floor (x : Binary) : Nat :=
  if x.exponent ≥ 0 then x.mantissa <<< x.exponent.toNat
  else x.mantissa >>> (-x.exponent).toNat

/-- A finite double without its fraction. -/
def truncate (x : Float) : Int :=
  if isNegative x then -((magnitude x).floor : Int) else (magnitude x).floor

/-- How many bits of precision a double has. -/
def precision : Nat := 53

/-- The double nearest to a natural number, which is below `2 ^ 1023`. Of two that are equally near
it is the one whose last bit is zero. -/
def nearest (n : Nat) : Nat :=
  let unit := 1 <<< (n.log2 + 1 - precision)
  let below := n / unit
  let excess := n % unit
  if 2 * excess < unit ∨ 2 * excess = unit ∧ below % 2 = 0 then below * unit
  else (below + 1) * unit

end GameProbe.Double
