import GameProbe.Text.Utf8
import GameProbe.Wire.Varint

/-!
# Texts on the wire

A text travels either with a zero byte behind it or with its length in bytes before it. Bytes that
are not UTF-8 are read as replacement characters.
-/

namespace GameProbe.Wire

/-! ### Writing -/

/-- A text with a zero byte behind it. -/
def cstring (text : String) : Bytes := Utf8.encode text ++ [0]

/-- A text with its length before it. -/
def prefixedString (text : String) : Bytes :=
  let bytes := Utf8.encode text
  base128 bytes.length ++ bytes

/-! ### Reading -/

variable {σ : Type} [ByteSource σ]

/-- A byte other than zero; `none` stands for the zero byte. -/
def readNonzero : Decoder σ (Option UInt8) := do
  let b ← readByte
  return if b = 0 then none else some b

theorem consumes_readNonzero : (readNonzero : Decoder σ (Option UInt8)).Consumes 1 :=
  consumes_readByte.bind (k := 0) fun _ => .pure _

/-- The bytes before the next zero byte, which is read too. -/
def readCstringBytes : Decoder σ Bytes := collect readNonzero consumes_readNonzero

/-- A text with a zero byte behind it. -/
def readCstring : Decoder σ String := return Utf8.decodeLossy (← readCstringBytes)

/-- A text with its length before it. -/
def readPrefixedString : Decoder σ String := do
  let length ← readUvarint
  let bytes ← readBytes length.toNat
  return Utf8.decodeLossy bytes

theorem consumes_readCstring : (readCstring : Decoder σ String).Consumes 1 :=
  (consumes_collect _ _).bind (k := 0) fun _ => .pure _

end GameProbe.Wire
