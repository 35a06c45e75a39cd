/-!
# UTF-8

Characters as bytes and back. Decoding runs a small automaton over the bytes; each stretch of
bytes that can start no character, or that breaks off inside one, counts as one flaw. A lossy
reader writes the replacement character for every flaw, a strict one refuses the text.
-/

namespace GameProbe.Utf8

/-! ### Encoding -/

/-- The one to four bytes of a character. -/
def encodeChar (c : Char) : List UInt8 :=
  let n := c.toNat
  if n < 0x80 then [n.toUInt8]
  else if n < 0x800 then [(0xC0 + n / 64).toUInt8, (0x80 + n % 64).toUInt8]
  else if n < 0x10000 then
    [(0xE0 + n / 4096).toUInt8, (0x80 + n / 64 % 64).toUInt8, (0x80 + n % 64).toUInt8]
  else
    [(0xF0 + n / 262144).toUInt8, (0x80 + n / 4096 % 64).toUInt8, (0x80 + n / 64 % 64).toUInt8,
      (0x80 + n % 64).toUInt8]

/-- The bytes of a text. -/
def encode (text : String) : List UInt8 := text.toList.flatMap encodeChar

/-! ### Decoding -/

/-- A character whose last bytes have not been read yet. The next byte must lie in `low..high`. -/
structure Unfinished where
  /-- The bits read so far. -/
  bits : Nat
  /-- How many bytes are missing. -/
  missing : Nat
  low : UInt8 := 0x80
  high : UInt8 := 0xBF

/-- What has been decoded, last first (a flaw is `none`), and the character being read. -/
structure Scan where
  decoded : List (Option Char) := []
  unfinished : Option Unfinished := none

/-- Take a byte that starts a character. -/
def Scan.start (decoded : List (Option Char)) (b : UInt8) : Scan :=
  let n := b.toNat
  if n < 0x80 then ⟨some (Char.ofNat n) :: decoded, none⟩
  else if n < 0xC2 then ⟨none :: decoded, none⟩
  else if n < 0xE0 then ⟨decoded, some { bits := n - 0xC0, missing := 1 }⟩
  else if n = 0xE0 then ⟨decoded, some { bits := 0, missing := 2, low := 0xA0 }⟩
  else if n = 0xED then ⟨decoded, some { bits := 0xD, missing := 2, high := 0x9F }⟩
  else if n < 0xF0 then ⟨decoded, some { bits := n - 0xE0, missing := 2 }⟩
  else if n = 0xF0 then ⟨decoded, some { bits := 0, missing := 3, low := 0x90 }⟩
  else if n < 0xF4 then ⟨decoded, some { bits := n - 0xF0, missing := 3 }⟩
  else if n = 0xF4 then ⟨decoded, some { bits := 4, missing := 3, high := 0x8F }⟩
  else ⟨none :: decoded, none⟩

/-- Take the next byte. One that does not continue the unfinished character makes it a flaw and
starts anew. -/
def Scan.step (scan : Scan) (b : UInt8) : Scan :=
  match scan.unfinished with
  | none => Scan.start scan.decoded b
  | some u =>
    if u.low ≤ b ∧ b ≤ u.high then
      let bits := u.bits * 64 + (b.toNat - 0x80)
      if u.missing ≤ 1 then ⟨some (Char.ofNat bits) :: scan.decoded, none⟩
      else ⟨scan.decoded, some { bits := bits, missing := u.missing - 1 }⟩
    else Scan.start (none :: scan.decoded) b

/-- Everything decoded, in order; a character that the bytes end inside is a flaw. -/
def Scan.finish (scan : Scan) : List (Option Char) :=
  match scan.unfinished with
  | none => scan.decoded.reverse
  | some _ => (none :: scan.decoded).reverse

/-- The characters and flaws of a string of bytes. -/
def scan (bytes : List UInt8) : List (Option Char) := (bytes.foldl Scan.step {}).finish

/-- What stands for a flaw in a lossy reading. -/
def replacement : Char := '\uFFFD'

/-- The text of the bytes, each flaw replaced by U+FFFD. -/
def decodeLossy (bytes : List UInt8) : String :=
  String.ofList ((scan bytes).map (·.getD replacement))

/-- The text of the bytes, if they hold no flaw. -/
def decode? (bytes : List UInt8) : Option String := ((scan bytes).mapM id).map String.ofList

/-- The loop of `soundLength`: `seen` bytes have been read, the first `sound` of which are whole
characters. -/
def soundLengthFrom (unfinished : Option Unfinished) (seen sound : Nat) : List UInt8 → Nat
  | [] => sound
  | b :: rest =>
    match Scan.step ⟨[], unfinished⟩ b with
    | ⟨[], unfinished⟩ => soundLengthFrom unfinished (seen + 1) sound rest
    | ⟨[some _], unfinished⟩ => soundLengthFrom unfinished (seen + 1) (seen + 1) rest
    | _ => sound

/-- How many bytes come before the first flaw. -/
def soundLength (bytes : List UInt8) : Nat := soundLengthFrom none 0 0 bytes

end GameProbe.Utf8
