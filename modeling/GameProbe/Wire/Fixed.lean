import GameProbe.Wire.Source

/-!
# Integers of fixed width

Integers as a fixed number of bytes, the most significant first (`BE`) or last (`LE`). Negative
numbers travel as their two's complement.
-/

namespace GameProbe.Wire

/-! ### Numbers as bytes -/

/-- The lowest `width` bytes of a number, the least significant first. -/
def littleEndian : Nat → Nat → Bytes
  | 0, _ => []
  | width + 1, n => (n % 256).toUInt8 :: littleEndian width (n / 256)

/-- The lowest `width` bytes of a number, the most significant first. -/
def bigEndian (width n : Nat) : Bytes := (littleEndian width n).reverse

/-- The number whose bytes are given, the least significant first. -/
def ofLittleEndian (bytes : Bytes) : Nat := bytes.foldr (fun b n => b.toNat + 256 * n) 0

/-- The number whose bytes are given, the most significant first. -/
def ofBigEndian (bytes : Bytes) : Nat := bytes.foldl (fun n b => b.toNat + 256 * n) 0

@[simp] theorem length_littleEndian (width n : Nat) : (littleEndian width n).length = width := by
  induction width generalizing n with
  | zero => rfl
  | succ width ih => simp [littleEndian, ih]

@[simp] theorem length_bigEndian (width n : Nat) : (bigEndian width n).length = width := by
  simp [bigEndian]

/-! ### Writing -/

/-- Two bytes. -/
def uint16BE (n : UInt16) : Bytes := bigEndian 2 n.toNat

/-- Four bytes. -/
def uint32BE (n : UInt32) : Bytes := bigEndian 4 n.toNat

/-- Four bytes, the least significant first. -/
def uint32LE (n : UInt32) : Bytes := littleEndian 4 n.toNat

/-- Four bytes in two's complement. -/
def int32BE (n : Int32) : Bytes := uint32BE n.toUInt32

/-- Four bytes in two's complement, the least significant first. -/
def int32LE (n : Int32) : Bytes := uint32LE n.toUInt32

/-- Eight bytes. -/
def uint64BE (n : UInt64) : Bytes := bigEndian 8 n.toNat

/-- Eight bytes, the least significant first. -/
def uint64LE (n : UInt64) : Bytes := littleEndian 8 n.toNat

/-- Eight bytes in two's complement. -/
def int64BE (n : Int64) : Bytes := uint64BE n.toUInt64

/-! ### Reading -/

variable {σ : Type} [ByteSource σ]

/-- Two bytes. -/
def readUInt16BE : Decoder σ UInt16 := return .ofNat (ofBigEndian (← fill 2))

/-- Two bytes, the least significant first. -/
def readUInt16LE : Decoder σ UInt16 := return .ofNat (ofLittleEndian (← fill 2))

/-- Four bytes. -/
def readUInt32BE : Decoder σ UInt32 := return .ofNat (ofBigEndian (← fill 4))

/-- Four bytes, the least significant first. -/
def readUInt32LE : Decoder σ UInt32 := return .ofNat (ofLittleEndian (← fill 4))

/-- Four bytes in two's complement, the least significant first. -/
def readInt32LE : Decoder σ Int32 := return (← readUInt32LE).toInt32

/-- Eight bytes. -/
def readUInt64BE : Decoder σ UInt64 := return .ofNat (ofBigEndian (← fill 8))

/-- Eight bytes, the least significant first. -/
def readUInt64LE : Decoder σ UInt64 := return .ofNat (ofLittleEndian (← fill 8))

theorem consumes_readUInt32LE : (readUInt32LE : Decoder σ UInt32).Consumes 4 :=
  (consumes_fill 4).bind (k := 0) fun _ => .pure _

end GameProbe.Wire
