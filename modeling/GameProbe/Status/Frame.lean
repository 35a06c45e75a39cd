import GameProbe.Json.Error
import GameProbe.Json.Value
import GameProbe.Wire.Fixed
import GameProbe.Wire.Text

/-!
# Status frames

The messages of the server list ping. A frame is its length, a packet id and a body. The client
opens with a handshake and an empty status request, which is answered by a JSON object, and may
then send a probe, which is answered by a pong with the same timestamp.
-/

namespace GameProbe.Status

open Wire

/-- The packet id of handshakes, status requests and their answers. -/
def handshakeId : UInt64 := 0

/-- The packet id of probes and pongs. -/
def pingId : UInt64 := 1

/-- The protocol version of a client that does not know the server's. -/
def unknownVersion : Int32 := -1

/-- The state that a handshake asks the server to enter, to tell its status. -/
def statusState : UInt64 := 1

/-- The greatest length of a frame, which a length of three bytes can tell. -/
def maxFrameLength : Nat := 0x1FFFFF

/-! ### Requests -/

/-- A frame around a packet id and a body. -/
def frame (payload : Bytes) : Bytes := base128 payload.length ++ payload

/-- A handshake that names the server, and the status request behind it. -/
def handshakeRequest (host : String) (port : UInt16) : Bytes :=
  frame (uvarint handshakeId ++ varint unknownVersion ++ prefixedString host ++ uint16BE port ++
    uvarint statusState) ++ frame (uvarint handshakeId)

/-- A probe. -/
def pingRequest (timestamp : Int64) : Bytes := frame (uvarint pingId ++ int64BE timestamp)

/-! ### Answers -/

/-- What parses the text of a status as one JSON object. -/
abbrev Parser := Bytes → Except Json.Error Json.Object

/-- A frame that was read. -/
structure Frame where
  /-- The length that the frame told of itself: packet id and body. -/
  length : Nat
  packetId : UInt64
  body : Bytes

/-- A status, with the properties that the server tells of itself. -/
structure Response where
  length : Nat
  packetId : UInt64
  properties : Json.Object

/-- A pong. -/
structure Pong where
  length : Nat
  packetId : UInt64
  /-- The timestamp of the probe, as echoed. -/
  payload : Int64

variable {σ : Type} [ByteSource σ]

/-- A packet id, and the body behind it. -/
def readPacket : Decoder Bytes (UInt64 × Bytes) := do
  let id ← readUvarint
  return (id, ← get)

/-- A frame. -/
def readFrame : Decoder σ Frame := do
  let length := (← readUvarint).toNat
  if length > maxFrameLength then throw (.frameTooLarge length maxFrameLength)
  let run ← readBytes length
  let (packetId, body) ← readPacket.within run
  return { length, packetId, body }

/-- A frame with the given packet id. -/
def readFrameOf (packetId : UInt64) : Decoder σ Frame := do
  let frame ← readFrame
  if frame.packetId ≠ packetId then
    throw (.unexpectedPacket packetId.toInt64 frame.packetId.toInt64)
  return frame

/-- The JSON object in the body of a status; what follows it is ignored. -/
def readProperties (parse : Parser) : Decoder Bytes Json.Object := do
  let length ← readUvarint
  let text ← readBytes length.toNat
  match parse text with
  | .ok properties => return properties
  | .error e => throw (.json e)

/-- The answer to a status request. -/
def readResponse (parse : Parser) : Decoder σ Response := do
  let frame ← readFrameOf handshakeId
  let properties ← (readProperties parse).within frame.body
  return { frame with properties }

/-- The answer to a probe. -/
def readPong : Decoder σ Pong := do
  let frame ← readFrameOf pingId
  let payload ← readUInt64BE.within frame.body
  return { frame with payload := payload.toInt64 }

end GameProbe.Status
