import GameProbe.Text.Printable

/-!
# Quoted text

A text in double quotes, written so that every character can be told from every other: what does
not show by itself is written as an escape.
-/

namespace GameProbe.Quoted

/-- A number in lower-case hexadecimal digits, without leading zeros. -/
def hex (n : Nat) : String := String.ofList (Nat.toDigits 16 n)

/-- One character inside the quotes. -/
def escape (c : Char) : String :=
  match c with
  | '\t' => "\\t"
  | '\r' => "\\r"
  | '\n' => "\\n"
  | '\x00' => "\\0"
  | '"' => "\\\""
  | '\\' => "\\\\"
  | c =>
    if Printable.isExtender c || !Printable.isPrintable c then
      "\\u\x7b" ++ hex c.toNat ++ "\x7d"
    else c.toString

/-- A text in double quotes. -/
def quote (text : String) : String :=
  text.toList.foldl (fun out c => out ++ escape c) "\"" ++ "\""

end GameProbe.Quoted
