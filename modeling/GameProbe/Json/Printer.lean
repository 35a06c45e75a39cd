import GameProbe.Json.Value
import GameProbe.Number.Shortest

/-!
# JSON text

Values as text, either without any blank or indented by two spaces.
-/

namespace GameProbe.Json

/-! ### Numbers -/

/-- Place the decimal point for a leading digit of weight `10 ^ lead`. Magnitudes from `10⁻⁵` up to
`10¹⁶` are written out, with at least one digit behind the point; others get an exponent. -/
private def positional (digits : List Char) (lead : Int) : String :=
  if -5 ≤ lead ∧ lead < 0 then
    "0." ++ String.ofList (List.replicate (-lead - 1).toNat '0' ++ digits)
  else if 0 ≤ lead ∧ lead < 16 then
    let wholeLength := lead.toNat + 1
    let padded := digits ++ List.replicate (wholeLength - digits.length) '0'
    let fraction := padded.drop wholeLength
    String.ofList (padded.take wholeLength) ++ "." ++
      (if fraction.isEmpty then "0" else String.ofList fraction)
  else
    let exponent := "e" ++ (if lead < 0 then "-" else "+") ++ toString lead.natAbs
    match digits with
    | first :: rest@(_ :: _) => first.toString ++ "." ++ String.ofList rest ++ exponent
    | _ => String.ofList digits ++ exponent

/-- A finite double as its shortest decimal. -/
def renderFloat (x : Float) : String :=
  let sign := if Double.isNegative x then "-" else ""
  let magnitude := Double.magnitude x
  if magnitude.mantissa = 0 then sign ++ "0.0"
  else
    let (digits, lead) := (Shortest.ofBinary magnitude).scientific
    sign ++ positional digits lead

/-- A number. -/
def Number.render : Number → String
  | .natural n => toString n.toNat
  | .negative n => toString n.toInt
  | .double x => renderFloat x

/-! ### Strings -/

/-- Two lower-case hexadecimal digits. -/
private def hexPair (n : Nat) : String :=
  String.ofList [Nat.digitChar (n / 16 % 16), Nat.digitChar (n % 16)]

/-- One character inside a string. Only quotes, backslashes and controls are escaped. -/
def escape (c : Char) : String :=
  match c with
  | '"' => "\\\""
  | '\\' => "\\\\"
  | '\x08' => "\\b"
  | '\x0c' => "\\f"
  | '\n' => "\\n"
  | '\r' => "\\r"
  | '\t' => "\\t"
  | c => if c.toNat < 0x20 then "\\u00" ++ hexPair c.toNat else c.toString

/-- Write a string behind `out`. -/
def writeString (text : String) (out : String) : String :=
  (text.toList.foldl (fun out c => out ++ escape c) (out ++ "\"")) ++ "\""

/-! ### Values -/

/-- How the parts of an array or object are set apart. -/
inductive Layout
  | compact
  | indented

/-- Begin a new line `depth` levels in, where the layout has lines. -/
def Layout.newline (layout : Layout) (depth : Nat) (out : String) : String :=
  match layout with
  | .compact => out
  | .indented => (out.push '\n').pushn ' ' (2 * depth)

/-- What stands between a key and its value. -/
def Layout.colon : Layout → String
  | .compact => ":"
  | .indented => ": "

mutual

/-- Write a value behind `out`. -/
def Value.write (layout : Layout) (depth : Nat) : Value → String → String
  | .null, out => out ++ "null"
  | .bool b, out => out ++ (if b then "true" else "false")
  | .number n, out => out ++ n.render
  | .string text, out => writeString text out
  | .array [], out => out ++ "[]"
  | .array (item :: items), out =>
    let out := item.write layout (depth + 1) (layout.newline (depth + 1) (out.push '['))
    (layout.newline depth (writeItems layout (depth + 1) items out)).push ']'
  | .object [], out => out ++ "\x7b\x7d"
  | .object ((key, value) :: members), out =>
    let out := writeString key (layout.newline (depth + 1) (out.push '\x7b'))
    let out := value.write layout (depth + 1) (out ++ layout.colon)
    (layout.newline depth (writeMembers layout (depth + 1) members out)).push '\x7d'

/-- Write the items after the first. -/
def writeItems (layout : Layout) (depth : Nat) : List Value → String → String
  | [], out => out
  | item :: items, out =>
    writeItems layout depth items
      (item.write layout depth (layout.newline depth (out.push ',')))

/-- Write the members after the first. -/
def writeMembers (layout : Layout) (depth : Nat) : List (String × Value) → String → String
  | [], out => out
  | (key, value) :: members, out =>
    let out := writeString key (layout.newline depth (out.push ','))
    writeMembers layout depth members (value.write layout depth (out ++ layout.colon))

end

/-- The text of a value. -/
def Value.render (layout : Layout) (value : Value) : String := value.write layout 0 ""

/-- The text of an object. -/
def Object.render (layout : Layout) (object : Object) : String :=
  (Value.object object).render layout

end GameProbe.Json
