/-!
# Decimal numbers in text

The numbers that servers send as text: a sign, where one is allowed, and one or more ASCII
digits. Anything else, and a number outside its range, is no number.
-/

namespace GameProbe.Decimal

/-- The number written by one or more ASCII digits, if it is at most `limit`. -/
def natUpTo (limit : Nat) : List Char → Option Nat
  | [] => none
  | digits => digits.foldlM (fun n c =>
      let next := n * 10 + (c.toNat - '0'.toNat)
      if c.isDigit ∧ next ≤ limit then some next else none) 0

/-- A whole number of 32 bits, with an optional sign. -/
def int32? (text : String) : Option Int32 :=
  match text.toList with
  | '+' :: digits => (natUpTo 0x7FFFFFFF digits).map Int32.ofNat
  | '-' :: digits => (natUpTo 0x80000000 digits).map fun n => Int32.ofInt (-(n : Int))
  | digits => (natUpTo 0x7FFFFFFF digits).map Int32.ofNat

/-- A natural number of 16 bits, with an optional plus sign. -/
def uint16? (text : String) : Option UInt16 :=
  match text.toList with
  | '+' :: digits => (natUpTo 0xFFFF digits).map UInt16.ofNat
  | digits => (natUpTo 0xFFFF digits).map UInt16.ofNat

end GameProbe.Decimal
