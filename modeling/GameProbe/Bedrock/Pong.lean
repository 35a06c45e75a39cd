import GameProbe.Bedrock.Status
import GameProbe.Wire.Fixed
import GameProbe.Wire.Text

/-!
# Bedrock messages

The unconnected ping of Bedrock servers, and the pong that answers it with a status text. Two
variants differ in the client's guid and in how the length of the text is told.
-/

namespace GameProbe.Bedrock

open Wire

/-- How to ask and how to read the answer. -/
inductive Variant
  /-- With a guid of the client's own; the length of the text takes two bytes. -/
  | ping
  /-- With a fixed guid; one more byte comes before the length of the text, which is a varint. -/
  | stat
deriving DecidableEq

/-- The packet id of pings. -/
def pingId : UInt8 := 0x01

/-- The packet id of pongs. -/
def pongId : UInt8 := 0x1C

/-- The bytes that mark a message as an offline one. -/
def magic : Bytes :=
  [0x00, 0xFF, 0xFF, 0x00, 0xFE, 0xFE, 0xFE, 0xFE, 0xFD, 0xFD, 0xFD, 0xFD, 0x12, 0x34, 0x56, 0x78]

/-- The guid of the stat variant. -/
def statGuid : Bytes := uint64LE 2

/-- The guid that a client with the given number sends. -/
def Variant.guid (own : UInt64) : Variant → Bytes
  | .ping => uint64BE own
  | .stat => statGuid

/-- A ping. -/
def pingRequest (timestamp : UInt64) (guid : Bytes) : Bytes :=
  pingId :: uint64BE timestamp ++ magic ++ guid

/-- A pong that was read. -/
structure Pong where
  packetId : UInt8
  /-- The timestamp of the ping, as echoed. -/
  timestamp : UInt64
  serverGuid : UInt64
  magic : Bytes
  status : String

variable {σ : Type} [ByteSource σ]

/-- The length of the status text. -/
def Variant.readLength : Variant → Decoder σ Nat
  | .ping => return (← readUInt16BE).toNat
  | .stat => do
    let _ ← readByte
    return (← readUvarint).toNat

/-- A pong. -/
def readPong (variant : Variant) : Decoder σ Pong := do
  let packetId ← readByte
  if packetId ≠ pongId then
    throw (.unexpectedPacket pongId.toUInt64.toInt64 packetId.toUInt64.toInt64)
  let timestamp ← readUInt64BE
  let serverGuid ← readUInt64BE
  let magic ← fill 16
  if magic ≠ Bedrock.magic then throw .badMagic
  let text ← readBytes (← variant.readLength)
  return { packetId, timestamp, serverGuid, magic, status := Utf8.decodeLossy text }

end GameProbe.Bedrock
