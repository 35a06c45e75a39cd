import GameProbe.Wire.Source

/-!
# Varints

Numbers as base-128 digits, the lowest first, one to a byte; all bytes but the last have their
high bit set. A reader takes as many digits as fill its integer type, and refuses a number that
does not end by then or does not fit. It accepts numbers with needless zero digits; the writer
writes none.
-/

namespace GameProbe.Wire

/-! ### Writing -/

/-- A natural number as its base-128 digits. -/
def base128 (n : Nat) : Bytes :=
  if n < 128 then [n.toUInt8] else (128 + n % 128).toUInt8 :: base128 (n / 128)
termination_by n

/-- An unsigned number of 64 bits. -/
def uvarint (n : UInt64) : Bytes := base128 n.toNat

/-- A signed number of 32 bits, as the unsigned number with the same bits. -/
def varint (n : Int32) : Bytes := base128 n.toUInt32.toNat

/-- A signed number of 64 bits, as the unsigned number with the same bits. -/
def varlong (n : Int64) : Bytes := base128 n.toUInt64.toNat

/-! ### Reading -/

variable {σ : Type} [ByteSource σ]

/-- The remaining digits of a number, at most `digits` of them: `place` is the weight of the next
digit, `sum` the value of those before it. A last digit, where none may follow, is at most
`top`. -/
def readBase128From (top : UInt8) : Nat → Nat → Nat → Decoder σ Nat
  | 0, _, _ => throw .varintTooLong
  | digits + 1, place, sum => do
    let b ← readByte
    if digits = 0 ∧ b > top then throw .varintTooLong
    let sum := sum + b.toNat % 128 * place
    if b < 128 then return sum else readBase128From top digits (place * 128) sum

/-- A number of at most `digits` digits, the last of which, if there are so many, is at most
`top`. -/
def readBase128 (digits : Nat) (top : UInt8) : Decoder σ Nat := readBase128From top digits 1 0

/-- An unsigned number of 64 bits: ten digits, the tenth of which holds the highest bit. -/
def readUvarint : Decoder σ UInt64 := return .ofNat (← readBase128 10 1)

/-- A signed number of 32 bits: five digits, the fifth of which holds the highest four bits. -/
def readVarint : Decoder σ Int32 := return (UInt32.ofNat (← readBase128 5 15)).toInt32

/-- A signed number of 64 bits. -/
def readVarlong : Decoder σ Int64 := return (← readUvarint).toInt64

end GameProbe.Wire
