import GameProbe.Text.Decimal
import GameProbe.Text.Utf16
import GameProbe.Wire.Fixed

/-!
# Legacy ping messages

The ping of servers before 1.7. Every request opens with two fixed bytes; a 1.6.4 client adds a
plugin message that names the server. The answer is a kick packet, a text in 16-bit code units
whose fields newer servers part by zero units, behind a marker, and older ones by section signs.
-/

namespace GameProbe.Legacy

open Wire

/-- Which request to send. -/
inductive Variant
  /-- The two fixed bytes alone. -/
  | plain
  /-- With the plugin message of a 1.6.4 client. -/
  | pingHost
deriving DecidableEq

/-! ### Requests -/

/-- The packet id of plugin messages. -/
def pluginMessageId : UInt8 := 0xFA

/-- The channel of the plugin message. -/
def channel : String := "MC|PingHost"

/-- The protocol version of a 1.6.4 client. -/
def protocolVersion : UInt8 := 78

/-- The plugin message that names the server. Lengths are told in 16 bits, whether they fit or
not. -/
def pluginMessage (host : String) (port : UInt16) : Bytes :=
  let channel := Utf16.encode channel
  let host := Utf16.encode host
  pluginMessageId :: uint16BE (.ofNat channel.length) ++ channel.flatMap Utf16.unitBytes ++
    uint16BE (.ofNat (7 + 2 * host.length)) ++ [protocolVersion] ++
    uint16BE (.ofNat host.length) ++ host.flatMap Utf16.unitBytes ++ uint32BE port.toUInt32

/-- A ping request. -/
def request (host : String) (port : UInt16) : Variant → Bytes
  | .plain => [0xFE, 0x01]
  | .pingHost => [0xFE, 0x01] ++ pluginMessage host port

/-! ### Answers -/

/-- The packet id of kick packets. -/
def kickId : UInt8 := 0xFF

/-- The bytes before the fields of a newer server: a section sign, a digit one and a zero. -/
def marker : Bytes := [0, 0xA7, 0, 0x31, 0, 0]

/-- What parts the fields of a newer server: a zero. -/
def newerDelimiter : Bytes := [0, 0]

/-- What parts the fields of an older server: a section sign. -/
def olderDelimiter : Bytes := [0, 0xA7]

/-- A kick packet that was read. -/
structure Response where
  packetId : UInt8
  /-- The length that the packet told, in code units. -/
  length : UInt16
  /-- Told by newer servers only, like the version of the game. -/
  protocolVersion : Option Int32
  gameVersion : Option String
  motd : String
  onlinePlayers : Int32
  maxPlayers : Int32

/-- Cut bytes at a delimiter of two bytes, which counts only where a code unit begins. -/
def splitFields (delimiter bytes : Bytes) : List Bytes := go [] [] bytes
where
  /-- The loop, with the fields so far and the field that has not come to its end, last first. -/
  go (fields : List Bytes) (field : Bytes) : Bytes → List Bytes
    | high :: low :: rest =>
      if [high, low] = delimiter then go (field.reverse :: fields) [] rest
      else go fields (low :: high :: field) rest
    | rest => ((field.reverse ++ rest) :: fields).reverse

/-- The number in a field. -/
def numberField (name : String) (field : Bytes) : Except Error Int32 :=
  let text := Utf16.decodeBytes field
  match Decimal.int32? text with
  | some n => .ok n
  | none => .error (.invalidNumber name text)

/-- A packet with another number of fields than it should have. -/
def fieldCountError (expected actual : Nat) : Error :=
  .malformedPacket s!"legacy ping: expected {expected} fields, got {actual}"

/-- The answer in the text of a kick packet. -/
def Response.ofText (length : UInt16) (text : Bytes) : Except Error Response :=
  if marker.isPrefixOf text then
    match splitFields newerDelimiter (text.drop marker.length) with
    | [version, game, motd, online, limit] => do
      let onlinePlayers ← numberField "online players" online
      let maxPlayers ← numberField "max players" limit
      let protocolVersion ← numberField "protocol version" version
      return { packetId := kickId, length, protocolVersion := some protocolVersion,
               gameVersion := some (Utf16.decodeBytes game), motd := Utf16.decodeBytes motd,
               onlinePlayers, maxPlayers }
    | fields => throw (fieldCountError 5 fields.length)
  else
    match splitFields olderDelimiter text with
    | [motd, online, limit] => do
      let onlinePlayers ← numberField "online players" online
      let maxPlayers ← numberField "max players" limit
      return { packetId := kickId, length, protocolVersion := none, gameVersion := none,
               motd := Utf16.decodeBytes motd, onlinePlayers, maxPlayers }
    | fields => throw (fieldCountError 3 fields.length)

variable {σ : Type} [ByteSource σ]

/-- The answer to a legacy ping. -/
def readResponse : Decoder σ Response := do
  let packetId ← readByte
  if packetId ≠ kickId then
    throw (.unexpectedPacket kickId.toUInt64.toInt64 packetId.toUInt64.toInt64)
  let length ← readUInt16BE
  let run ← readBytes (2 * length.toNat)
  match Response.ofText length run with
  | .ok response => return response
  | .error e => throw e

/-! ### What a ping tells -/

/-- What a server tells of itself. The version fields of an older server are empty. -/
structure Info where
  protocolVersion : Int32
  gameVersion : String
  motd : String
  onlinePlayers : Int32
  maxPlayers : Int32

/-- What an answer tells. -/
def Response.info (response : Response) : Info :=
  { response with
    protocolVersion := response.protocolVersion.getD 0
    gameVersion := response.gameVersion.getD "" }

end GameProbe.Legacy
