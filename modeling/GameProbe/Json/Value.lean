import GameProbe.Number.Double

/-!
# JSON values

Numbers are kept as 64-bit integers where they fit and as doubles otherwise. An object is the list
of its members; a parsed one holds each key once, in ascending order.
-/

namespace GameProbe.Json

/-- A number: zero or a positive integer, a negative integer, or anything else as a double. -/
inductive Number
  | natural (n : UInt64)
  | negative (n : Int64)
  | double (x : Float)

/-- A JSON value. -/
inductive Value
  | null
  | bool (b : Bool)
  | number (n : Number)
  | string (text : String)
  | array (items : List Value)
  | object (members : List (String × Value))

/-- The members of an object, each a key with its value. -/
abbrev Object := List (String × Value)

/-! ### Numbers -/

/-- The number of an integer of at most 64 bits. -/
def Number.ofInt (n : Int) : Number :=
  if n < 0 then .negative (Int64.ofInt n) else .natural (UInt64.ofNat n.toNat)

/-- The double nearest to the number, without its fraction. -/
def Number.truncate : Number → Int
  | .natural n => Double.nearest n.toNat
  | .negative n => -(Double.nearest n.toInt.natAbs : Int)
  | .double x => Double.truncate x

/-! ### Objects -/

/-- The value of a key. -/
def Object.get? (object : Object) (key : String) : Option Value :=
  (object.find? (·.1 = key)).map (·.2)

/-- Keep the first of neighbouring members with the same key. -/
def Object.dropRepeated (members : Object) : Object :=
  (members.foldl (fun kept member =>
    match kept with
    | last :: _ => if last.1 = member.1 then kept else member :: kept
    | [] => [member]) []).reverse

/-- The object of the given members, last first: keys in ascending order, and of members with the
same key the one that came last. -/
def Object.ofReversed (members : Object) : Object :=
  Object.dropRepeated (members.mergeSort fun a b => decide (a.1 ≤ b.1))

/-! ### Reading a value as one kind -/

/-- The text of a string. -/
def Value.string? : Value → Option String
  | .string text => some text
  | _ => none

/-- A number. -/
def Value.number? : Value → Option Number
  | .number n => some n
  | _ => none

/-- The items of an array. -/
def Value.array? : Value → Option (List Value)
  | .array items => some items
  | _ => none

/-- The members of an object. -/
def Value.object? : Value → Option Object
  | .object members => some members
  | _ => none

/-- A whole number as a value. -/
def Value.ofInt (n : Int) : Value := .number (.ofInt n)

end GameProbe.Json
