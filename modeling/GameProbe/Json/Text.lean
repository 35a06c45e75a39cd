import GameProbe.Json.Number
import GameProbe.Text.Utf8

/-!
# Reading JSON strings

A string is read from behind its opening quote. Its bytes are collected, escapes as the bytes of
the character they stand for, and decoded as strict UTF-8 once the closing quote is found. A text
that is not UTF-8 is faulted at the first byte that fits no character; escapes behind this byte
move the place that is named, for they count as what they stand for.
-/

namespace GameProbe.Json

/-! ### Escapes -/

/-- The value of a hexadecimal digit. -/
private def hexDigit? (b : UInt8) : Option Nat :=
  if 0x30 ≤ b ∧ b ≤ 0x39 then some (b.toNat - 0x30)
  else if 0x41 ≤ b ∧ b ≤ 0x46 then some (b.toNat - 0x41 + 10)
  else if 0x61 ≤ b ∧ b ≤ 0x66 then some (b.toNat - 0x61 + 10)
  else none

/-- Four hexadecimal digits. -/
private def hexQuad : Reader Nat
  | a :: b :: c :: d :: rest =>
    match hexDigit? a, hexDigit? b, hexDigit? c, hexDigit? d with
    | some a, some b, some c, some d => .ok (((a * 16 + b) * 16 + c) * 16 + d) rest
    | _, _, _, _ => .error .badEscape rest
  | _ => .error .eofInString []

/-- The second half of an escaped surrogate pair, with its own backslash and letter. -/
private def secondHalf : Reader Nat
  | [] => .error .eofInString []
  | 0x5C :: [] => .error .eofInString []
  | 0x5C :: 0x75 :: rest =>
    match hexQuad rest with
    | .ok low rest =>
      if 0xDC00 ≤ low ∧ low ≤ 0xDFFF then .ok low rest else .error .loneSurrogate rest
    | .error flaw rest => .error flaw rest
  | 0x5C :: _ :: rest => .error .surrogateUnpaired rest
  | _ :: rest => .error .surrogateUnpaired rest

/-- A character given by its code: one code unit, or two that form a surrogate pair. -/
private def codeEscape (s : List UInt8) : Reading (List UInt8) :=
  match hexQuad s with
  | .error flaw rest => .error flaw rest
  | .ok unit rest =>
    if 0xDC00 ≤ unit ∧ unit ≤ 0xDFFF then .error .loneSurrogate rest
    else if 0xD800 ≤ unit ∧ unit ≤ 0xDBFF then
      match secondHalf rest with
      | .error flaw rest => .error flaw rest
      | .ok low rest =>
        .ok (Utf8.encodeChar (Char.ofNat (0x10000 + (unit - 0xD800) * 0x400 + (low - 0xDC00)))) rest
    else .ok (Utf8.encodeChar (Char.ofNat unit)) rest

/-- The bytes of an escape, read from behind its backslash. -/
def readEscape : Reader (List UInt8)
  | [] => .error .eofInString []
  | 0x22 :: rest => .ok [0x22] rest
  | 0x5C :: rest => .ok [0x5C] rest
  | 0x2F :: rest => .ok [0x2F] rest
  | 0x62 :: rest => .ok [0x08] rest
  | 0x66 :: rest => .ok [0x0C] rest
  | 0x6E :: rest => .ok [0x0A] rest
  | 0x72 :: rest => .ok [0x0D] rest
  | 0x74 :: rest => .ok [0x09] rest
  | 0x75 :: rest => codeEscape rest
  | _ :: rest => .error .badEscape rest

private theorem length_hexQuad_le {s rest : List UInt8} {n : Nat}
    (h : hexQuad s = .ok n rest) : rest.length ≤ s.length := by
  unfold hexQuad at h
  split at h
  · split at h <;> cases h
    simp; omega
  · cases h

private theorem length_secondHalf_le {s rest : List UInt8} {n : Nat}
    (h : secondHalf s = .ok n rest) : rest.length ≤ s.length := by
  unfold secondHalf at h
  split at h <;> try cases h
  split at h
  · rename_i low rest' h'
    have := length_hexQuad_le h'
    split at h <;> cases h
    simp; omega
  · cases h

private theorem length_codeEscape_le {s rest bytes : List UInt8}
    (h : codeEscape s = .ok bytes rest) : rest.length ≤ s.length := by
  unfold codeEscape at h
  split at h
  · cases h
  · rename_i unit rest₁ h₁
    have := length_hexQuad_le h₁
    split at h
    · cases h
    · split at h
      · split at h
        · cases h
        · rename_i low rest₂ h₂
          have := length_secondHalf_le h₂
          simp only [EStateM.Result.ok.injEq] at h
          obtain ⟨_, rfl⟩ := h
          omega
      · simp only [EStateM.Result.ok.injEq] at h
        obtain ⟨_, rfl⟩ := h
        omega

theorem length_readEscape_le {s rest bytes : List UInt8}
    (h : readEscape s = .ok bytes rest) : rest.length ≤ s.length := by
  unfold readEscape at h
  split at h
  case h_10 => exact Nat.le_succ_of_le (length_codeEscape_le h)
  all_goals cases h
  all_goals exact Nat.le_succ _

/-! ### Strings -/

/-- The bytes of a string up to its closing quote, with those before it, last first. -/
def readQuotedFrom (text : List UInt8) (s : List UInt8) : Reading (List UInt8) :=
  match s with
  | [] => .error .eofInString []
  | b :: rest =>
    if b = 0x22 then .ok text.reverse rest
    else if b = 0x5C then
      match h : readEscape rest with
      | .ok bytes rest' =>
        have := length_readEscape_le h
        readQuotedFrom (bytes.reverse ++ text) rest'
      | .error flaw rest' => .error flaw rest'
    else if b < 0x20 then .error .controlCharacter rest
    else readQuotedFrom (b :: text) rest
termination_by s.length

/-- A string, from behind its opening quote. Whether its bytes are UTF-8 is only asked at the
closing quote, when the escapes have been resolved. The place of a flaw is counted back from the
quote: as many bytes as the resolved text has from the flaw on. -/
def readString (s : List UInt8) : Reading String :=
  match readQuotedFrom [] s with
  | .ok bytes rest =>
    match Utf8.decode? bytes with
    | some text => .ok text rest
    | none =>
      let flawed := bytes.length - Utf8.soundLength bytes
      .error .badEncoding (s.drop (s.length - rest.length - flawed))
  | .error flaw rest => .error flaw rest

theorem length_readQuotedFrom_lt {text s rest bytes : List UInt8}
    (h : readQuotedFrom text s = .ok bytes rest) : rest.length < s.length := by
  fun_induction readQuotedFrom text s with
  | case1 => cases h
  | case2 => cases h; simp
  | case3 text rest' bytes rest'' h' hle _ ih =>
    have := ih h
    simp only [List.length_cons]
    omega
  | case4 => cases h
  | case5 => cases h
  | case6 text b rest' _ _ _ ih =>
    have := ih h
    simp only [List.length_cons]
    omega

theorem length_readString_lt {s rest : List UInt8} {value : String}
    (h : readString s = .ok value rest) : rest.length < s.length := by
  unfold readString at h
  split at h
  · rename_i h'
    split at h <;> cases h
    exact length_readQuotedFrom_lt h'
  · cases h

end GameProbe.Json
