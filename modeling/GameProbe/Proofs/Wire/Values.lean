import GameProbe.Proofs.Wire.Text

/-!
# Reading messages back

A message is a list of values of any kinds, written one behind the other without anything between
them. Who knows the kinds reads the values back, and stops where the message ends.
-/

namespace GameProbe.Wire

/-! ### Values of any kind -/

/-- A value that can be written. -/
inductive Value
  | uvarint (n : UInt64)
  | varint (n : Int32)
  | varlong (n : Int64)
  | cstring (text : String)
  | prefixedString (text : String)
  | run (bytes : Bytes)

/-- What has to be known of a value to read it. -/
inductive Kind
  | uvarint
  | varint
  | varlong
  | cstring
  | prefixedString
  | run (length : Nat)

namespace Value

/-- The kind of a value. -/
def kind : Value → Kind
  | uvarint _ => .uvarint
  | varint _ => .varint
  | varlong _ => .varlong
  | cstring _ => .cstring
  | prefixedString _ => .prefixedString
  | run bytes => .run bytes.length

/-- A value on the wire. -/
def bytes : Value → Bytes
  | uvarint n => Wire.uvarint n
  | varint n => Wire.varint n
  | varlong n => Wire.varlong n
  | cstring text => Wire.cstring text
  | prefixedString text => Wire.prefixedString text
  | run bytes => bytes

/-- What ends a text must not stand within it, and the length of a text must be one that 64 bits
can tell, as that of every text in memory is. -/
def Writable : Value → Prop
  | cstring text => '\x00' ∉ text.toList
  | prefixedString text => (Utf8.encode text).length < 2 ^ 64
  | _ => True

end Value

/-- Read a value of the given kind. -/
def Kind.read {σ : Type} [ByteSource σ] : Kind → Decoder σ Value
  | uvarint => return .uvarint (← readUvarint)
  | varint => return .varint (← readVarint)
  | varlong => return .varlong (← readVarlong)
  | cstring => return .cstring (← readCstring)
  | prefixedString => return .prefixedString (← readPrefixedString)
  | run length => return .run (← readBytes length)

/-- A value is read back, and nothing behind it is touched. -/
lemma read_bytes {value : Value} (h : value.Writable) (x : Bytes) :
    value.kind.read (value.bytes ++ x) = .ok value x := by
  cases value with
  | uvarint n => exact bind_of_ok (readUvarint_uvarint n x)
  | varint n => exact bind_of_ok (readVarint_varint n x)
  | varlong n => exact bind_of_ok (readVarlong_varlong n x)
  | cstring text => exact bind_of_ok (readCstring_cstring h x)
  | prefixedString text => exact bind_of_ok (readPrefixedString_prefixedString h x)
  | run bytes => exact bind_of_ok (readBytes_append bytes x)

/-! ### Messages -/

/-- The values written one behind the other. -/
def message (values : List Value) : Bytes := values.flatMap Value.bytes

/-- Read values of the given kinds, one after the other. -/
def readMessage {σ : Type} [ByteSource σ] (kinds : List Kind) : Decoder σ (List Value) :=
  kinds.mapM Kind.read

lemma message_cons (value : Value) (values : List Value) :
    message (value :: values) = value.bytes ++ message values := List.flatMap_cons

lemma readMessage_cons {σ : Type} [ByteSource σ] (kind : Kind) (kinds : List Kind) :
    (readMessage (kind :: kinds) : Decoder σ _) = do
      let value ← kind.read
      let values ← readMessage kinds
      return value :: values := List.mapM_cons

/-- A message is read back by its kinds, value for value, and what follows it is left. -/
theorem readMessage_message (values : List Value) (h : ∀ value ∈ values, value.Writable)
    (x : Bytes) :
    readMessage (values.map Value.kind) (message values ++ x) = .ok values x := by
  induction values with
  | nil => rfl
  | cons value values ih =>
    have hfirst := read_bytes (h value List.mem_cons_self) (message values ++ x)
    have hrest := ih fun value hvalue => h value (List.mem_cons_of_mem _ hvalue)
    rw [List.map_cons, readMessage_cons, message_cons, List.append_assoc, bind_of_ok hfirst,
      bind_of_ok hrest]
    rfl

/-- Values at the ends of their ranges, texts with a zero or without a character, and a run that
looks like an unfinished number. -/
def mixedValues : List Value :=
  [.uvarint 0xFFFFFFFFFFFFFFFF, .varint (-1), .varlong (-0x8000000000000000), .cstring "",
    .prefixedString "\x00é☃😀", .run [0x80, 0xFF], .varint 0x7FFFFFFF, .cstring "😀"]

theorem readMessage_message_of_mixed :
    (∀ value ∈ mixedValues, value.Writable) ∧
    readMessage (mixedValues.map Value.kind) (message mixedValues ++ [0x80, 0]) =
      .ok mixedValues [0x80, 0] := by
  have h : ∀ value ∈ mixedValues, value.Writable := by
    simp only [mixedValues, List.forall_mem_cons, Value.Writable]
    refine ⟨trivial, trivial, trivial, ?_, ?_, trivial, trivial, ?_, nofun⟩
    · decide
    · decide
    · decide
  exact ⟨h, readMessage_message mixedValues h [0x80, 0]⟩

end GameProbe.Wire
