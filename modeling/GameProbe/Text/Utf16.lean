/-!
# UTF-16

Characters as 16-bit code units, and code units as pairs of bytes with the high byte first. A
surrogate without its partner decodes to U+FFFD.
-/

namespace GameProbe.Utf16

/-! ### Characters and code units -/

/-- The one or two code units of a character. -/
def encodeChar (c : Char) : List UInt16 :=
  let n := c.toNat
  if n < 0x10000 then [n.toUInt16]
  else [(0xD800 + (n - 0x10000) / 0x400).toUInt16, (0xDC00 + (n - 0x10000) % 0x400).toUInt16]

/-- The code units of a text. -/
def encode (text : String) : List UInt16 := text.toList.flatMap encodeChar

/-- The first half of a surrogate pair. -/
def isHigh (unit : UInt16) : Bool := 0xD800 ≤ unit && unit < 0xDC00

/-- The second half of a surrogate pair. -/
def isLow (unit : UInt16) : Bool := 0xDC00 ≤ unit && unit < 0xE000

/-- What stands for a surrogate without a partner. -/
def replacement : Char := '\uFFFD'

/-- What has been decoded, last first, and a high surrogate that waits for its partner. -/
structure Scan where
  decoded : List Char := []
  waiting : Option UInt16 := none

/-- Take a code unit that no high surrogate waits for. -/
def Scan.start (decoded : List Char) (unit : UInt16) : Scan :=
  if isHigh unit then ⟨decoded, some unit⟩
  else if isLow unit then ⟨replacement :: decoded, none⟩
  else ⟨Char.ofNat unit.toNat :: decoded, none⟩

/-- Take the next code unit. -/
def Scan.step (scan : Scan) (unit : UInt16) : Scan :=
  match scan.waiting with
  | none => Scan.start scan.decoded unit
  | some high =>
    if isLow unit then
      let n := 0x10000 + (high.toNat - 0xD800) * 0x400 + (unit.toNat - 0xDC00)
      ⟨Char.ofNat n :: scan.decoded, none⟩
    else Scan.start (replacement :: scan.decoded) unit

/-- Everything decoded, in order. -/
def Scan.finish (scan : Scan) : List Char :=
  match scan.waiting with
  | none => scan.decoded.reverse
  | some _ => (replacement :: scan.decoded).reverse

/-- The text of the code units, each unpaired surrogate replaced by U+FFFD. -/
def decodeLossy (units : List UInt16) : String :=
  String.ofList (units.foldl Scan.step {}).finish

/-! ### Code units and bytes -/

/-- A code unit as two bytes, the high one first. -/
def unitBytes (unit : UInt16) : List UInt8 := [(unit >>> 8).toUInt8, unit.toUInt8]

/-- The code units of a string of bytes; an odd last byte is left out. -/
def unitsOfBytes (bytes : List UInt8) : List UInt16 := go [] bytes
where
  /-- The loop, with the units found so far, last first. -/
  go (units : List UInt16) : List UInt8 → List UInt16
    | high :: low :: rest => go ((high.toUInt16 <<< 8 ||| low.toUInt16) :: units) rest
    | _ => units.reverse

/-- A text as UTF-16 bytes, high bytes first. -/
def encodeBytes (text : String) : List UInt8 := (encode text).flatMap unitBytes

/-- The text of UTF-16 bytes, high bytes first. -/
def decodeBytes (bytes : List UInt8) : String := decodeLossy (unitsOfBytes bytes)

end GameProbe.Utf16
