import GameProbe.Json.Text
import GameProbe.Json.Printer
import GameProbe.Text.Quoted

/-!
# Reading JSON

A reader of one JSON object that fills the whole text. The arrays and objects that are still open
are kept in a list, innermost first, so that the reader needs no more room for a deeply nested
text; it refuses to open more than `depthLimit` of them.
-/

namespace GameProbe.Json

/-- An array or object that is not closed yet, with what it holds so far, last first. -/
inductive Open
  | array (items : List Value)
  /-- The value of `key` comes next. -/
  | object (members : Object) (key : String)

/-- How many arrays and objects may be open at a time. -/
def depthLimit : Nat := 127

/-! ### Blanks and literals -/

/-- Whether a byte is a blank between tokens. -/
def isBlank (b : UInt8) : Bool := b = 0x20 || b = 0x0A || b = 0x09 || b = 0x0D

/-- The text without its leading blanks. -/
def skipBlanks : List UInt8 → List UInt8
  | [] => []
  | b :: rest => if isBlank b then skipBlanks rest else b :: rest

/-- The letters of a literal. -/
def readLetters : List UInt8 → Reader Unit
  | [], s => .ok () s
  | _ :: _, [] => .error .eofInValue []
  | letter :: letters, b :: rest =>
    if b = letter then readLetters letters rest else .error .literalExpected rest

theorem length_skipBlanks_le (s : List UInt8) : (skipBlanks s).length ≤ s.length := by
  induction s with
  | nil => simp [skipBlanks]
  | cons b rest ih =>
    simp only [skipBlanks]
    split
    · exact Nat.le_succ_of_le ih
    · simp

private theorem length_of_skipBlanks {s rest : List UInt8} {b : UInt8}
    (h : skipBlanks s = b :: rest) : rest.length < s.length := by
  have := length_skipBlanks_le s
  rw [h] at this
  exact this

private theorem length_readLetters_le {letters s rest : List UInt8}
    (h : readLetters letters s = .ok () rest) : rest.length ≤ s.length := by
  fun_induction readLetters letters s with
  | case1 => cases h; simp
  | case2 => cases h
  | case3 letter letters rest' ih => exact Nat.le_succ_of_le (ih h)
  | case4 => cases h

/-! ### Scalars -/

/-- Make something of the value that was read. -/
def mapReading {α β : Type} (f : α → β) : Reading α → Reading β
  | .ok a rest => .ok (f a) rest
  | .error flaw rest => .error flaw rest

/-- A value that is neither an array nor an object. -/
def readScalar (s : List UInt8) : Reading Value :=
  match s with
  | [] => .error .eofInValue []
  | 0x6E :: rest => mapReading (fun _ => .null) (readLetters [0x75, 0x6C, 0x6C] rest)
  | 0x74 :: rest => mapReading (fun _ => .bool true) (readLetters [0x72, 0x75, 0x65] rest)
  | 0x66 :: rest => mapReading (fun _ => .bool false) (readLetters [0x61, 0x6C, 0x73, 0x65] rest)
  | 0x22 :: rest => mapReading .string (readString rest)
  | b :: rest =>
    if b = 0x2D ∨ isDigit b then mapReading .number (readNumber s)
    else .error .valueExpected rest

private theorem eq_ok_of_mapReading {α β : Type} {f : α → β} {r : Reading α} {v : β}
    {rest : List UInt8} (h : mapReading f r = .ok v rest) : ∃ a, r = .ok a rest := by
  unfold mapReading at h
  split at h <;> cases h
  exact ⟨_, rfl⟩

theorem length_readScalar_lt {s rest : List UInt8} {v : Value}
    (h : readScalar s = .ok v rest) : rest.length < s.length := by
  unfold readScalar at h
  split at h
  · cases h
  case h_5 =>
    obtain ⟨_, h⟩ := eq_ok_of_mapReading h
    exact Nat.lt_succ_of_lt (length_readString_lt h)
  case h_6 =>
    split at h
    · obtain ⟨_, h⟩ := eq_ok_of_mapReading h
      exact length_readNumber_lt h
    · cases h
  all_goals
    obtain ⟨_, h⟩ := eq_ok_of_mapReading h
    exact Nat.lt_succ_of_le (length_readLetters_le h)

/-! ### Values -/

set_option linter.unusedVariables false in
mutual

/-- A value inside the open arrays and objects `outer`. -/
def readValue (outer : List Open) (s : List UInt8) : Reading Object :=
  match h : skipBlanks s with
  | 0x5B :: rest =>
    if outer.length ≥ depthLimit then .error .tooDeep rest
    else
      match h' : skipBlanks rest with
      | [] => .error .eofInArray []
      | 0x5D :: rest' => resume (.array []) outer rest'
      | _ => readValue (.array [] :: outer) rest
  | 0x7B :: rest =>
    if outer.length ≥ depthLimit then .error .tooDeep rest else readMembers outer rest
  | s' =>
    match h' : readScalar s' with
    | .ok v rest => resume v outer rest
    | .error flaw rest => .error flaw rest
termination_by s.length
decreasing_by
  · have := length_of_skipBlanks h
    have := length_of_skipBlanks h'
    omega
  · exact length_of_skipBlanks h
  · exact length_of_skipBlanks h
  · exact Nat.lt_of_lt_of_le (length_readScalar_lt h') (h ▸ length_skipBlanks_le s)

/-- The members of an object, from behind its opening brace. -/
def readMembers (outer : List Open) (s : List UInt8) : Reading Object :=
  match h : skipBlanks s with
  | [] => .error .eofInObject []
  | 0x7D :: rest => resume (.object []) outer rest
  | b :: rest => if b = 0x22 then readMember [] outer rest else .error .keyNotString rest
termination_by s.length
decreasing_by all_goals exact length_of_skipBlanks h

/-- A member behind the members `before`, from behind the opening quote of its key. -/
def readMember (before : Object) (outer : List Open) (s : List UInt8) : Reading Object :=
  match h : readString s with
  | .error flaw rest => .error flaw rest
  | .ok key rest =>
    match h' : skipBlanks rest with
    | [] => .error .eofInObject []
    | b :: rest' =>
      if b = 0x3A then readValue (.object before key :: outer) rest'
      else .error .colonExpected rest'
termination_by s.length
decreasing_by
  have := length_readString_lt h
  have := length_of_skipBlanks h'
  omega

/-- Go on behind the value `v`, which is complete. -/
def resume (v : Value) (outer : List Open) (s : List UInt8) : Reading Object :=
  match outer with
  | [] => .ok (v.object?.getD []) s
  | .array items :: outer =>
    match h : skipBlanks s with
    | [] => .error .eofInArray []
    | 0x5D :: rest => resume (.array (v :: items).reverse) outer rest
    | b :: rest =>
      if b = 0x2C then
        match skipBlanks rest with
        | 0x5D :: rest' => .error .trailingComma rest'
        | _ => readValue (.array (v :: items) :: outer) rest
      else .error .arrayCommaOrEndExpected rest
  | .object before key :: outer =>
    match h : skipBlanks s with
    | [] => .error .eofInObject []
    | 0x7D :: rest => resume (.object (Object.ofReversed ((key, v) :: before))) outer rest
    | b :: rest =>
      if b = 0x2C then
        match h' : skipBlanks rest with
        | [] => .error .eofInValue []
        | b' :: rest' =>
          if b' = 0x22 then readMember ((key, v) :: before) outer rest'
          else .error (if b' = 0x7D then .trailingComma else .keyNotString) rest'
      else .error .objectCommaOrEndExpected rest
termination_by s.length
decreasing_by
  · exact length_of_skipBlanks h
  · exact length_of_skipBlanks h
  · exact length_of_skipBlanks h
  · have := length_of_skipBlanks h
    have := length_of_skipBlanks h'
    omega

end

/-! ### Whole texts -/

/-- A scalar in words. -/
def Value.describe : Value → String
  | .null => "null"
  | .bool b => "boolean `" ++ (if b then "true" else "false") ++ "`"
  | .number (.double x) => "floating point `" ++ renderFloat x ++ "`"
  | .number n => "integer `" ++ n.render ++ "`"
  | .string text => "string " ++ Quoted.quote text
  | .array _ => "sequence"
  | .object _ => "map"

/-- One object at the beginning of a text. -/
def readObject (s : List UInt8) : Reading Object :=
  match skipBlanks s with
  | 0x7B :: rest => readMembers [] rest
  | 0x5B :: rest => .error (.notObject "sequence") (0x5B :: rest)
  | s' =>
    match readScalar s' with
    | .ok v rest => .error (.notObject v.describe) rest
    | .error flaw rest => .error flaw rest

/-- The object that a text holds, with nothing but blanks around it. -/
def parseObject (text : List UInt8) : Except Error Object :=
  let fail (flaw : Flaw) (rest : List UInt8) :=
    .error (.locate flaw text (text.length - rest.length))
  match readObject text with
  | .error flaw rest => fail flaw rest
  | .ok object rest =>
    match skipBlanks rest with
    | [] => .ok object
    | _ :: rest => fail .trailingCharacters rest

end GameProbe.Json
