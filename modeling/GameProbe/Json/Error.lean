/-!
# JSON errors

Why a text is not a JSON object, and where the reader stopped.
-/

namespace GameProbe.Json

/-- What is wrong with a text. -/
inductive Flaw
  | eofInArray
  | eofInObject
  | eofInString
  | eofInValue
  | colonExpected
  | arrayCommaOrEndExpected
  | objectCommaOrEndExpected
  | literalExpected
  | valueExpected
  | badEscape
  | badNumber
  | numberOutOfRange
  | badEncoding
  | controlCharacter
  | keyNotString
  | loneSurrogate
  | surrogateUnpaired
  | trailingComma
  | trailingCharacters
  | tooDeep
  /-- A well-formed value, described, that is no object. -/
  | notObject (found : String)
deriving DecidableEq

/-- The flaw in words. -/
def Flaw.message : Flaw → String
  | .eofInArray => "EOF while parsing a list"
  | .eofInObject => "EOF while parsing an object"
  | .eofInString => "EOF while parsing a string"
  | .eofInValue => "EOF while parsing a value"
  | .colonExpected => "expected `:`"
  | .arrayCommaOrEndExpected => "expected `,` or `]`"
  | .objectCommaOrEndExpected => "expected `,` or `\x7d`"
  | .literalExpected => "expected ident"
  | .valueExpected => "expected value"
  | .badEscape => "invalid escape"
  | .badNumber => "invalid number"
  | .numberOutOfRange => "number out of range"
  | .badEncoding => "invalid unicode code point"
  | .controlCharacter => "control character (\\u0000-\\u001F) found while parsing a string"
  | .keyNotString => "key must be a string"
  | .loneSurrogate => "lone leading surrogate in hex escape"
  | .surrogateUnpaired => "unexpected end of hex escape"
  | .trailingComma => "trailing comma"
  | .trailingCharacters => "trailing characters"
  | .tooDeep => "recursion limit exceeded"
  | .notObject found => "invalid type: " ++ found ++ ", expected a map"

/-- A flaw and the place of the last byte that was looked at. -/
structure Error where
  flaw : Flaw
  /-- Lines count from 1. -/
  line : Nat
  /-- How many bytes of the line were looked at. -/
  column : Nat
deriving DecidableEq

/-- The error in words. -/
def Error.message (e : Error) : String :=
  e.flaw.message ++ " at line " ++ toString e.line ++ " column " ++ toString e.column

/-- The error found in `text` after looking at its first `seen` bytes. -/
def Error.locate (flaw : Flaw) (text : List UInt8) (seen : Nat) : Error :=
  let (line, column) := (text.take seen).foldl
    (fun (line, column) b => if b = 0x0A then (line + 1, 0) else (line, column + 1)) (1, 0)
  ⟨flaw, line, column⟩

end GameProbe.Json
