import GameProbe.Wire.Fixed
import GameProbe.Wire.Text

/-!
# Remote console packets

A packet is its length, a request id, a type, a text with a zero byte behind it, and a padding
byte. All numbers have their least significant byte first.
-/

namespace GameProbe.Rcon

open Wire

/-! ### Types and limits -/

/-- A request to log in with a password. -/
def loginType : Int32 := 3

/-- A request to run a command. -/
def commandType : Int32 := 2

/-- An answer to a command. -/
def responseType : Int32 := 0

/-- A request that no server knows. -/
def invalidType : Int32 := 4

/-- What a server answers to a request that it does not know. -/
def unknownRequestReply : String := "Unknown request 4"

/-- The greatest number of bytes in a command. -/
def maxCommandLength : Nat := 1446

/-- From this number of bytes on a response may go on in further packets. -/
def fragmentThreshold : Nat := 4096

/-- The greatest length of a packet. -/
def maxPacketLength : Nat := 0x100000

/-- The length of a packet with an empty text. -/
def minPacketLength : Nat := 10

/-! ### Packets -/

/-- What comes behind the length of a packet. -/
def packetBody (requestId type : Int32) (payload : String) : Bytes :=
  int32LE requestId ++ int32LE type ++ cstring payload ++ [0]

/-- A packet. -/
def packet (requestId type : Int32) (payload : String) : Bytes :=
  let body := packetBody requestId type payload
  uint32LE (.ofNat body.length) ++ body

/-- A packet that was read. -/
structure Packet where
  length : UInt32
  requestId : Int32
  type : Int32
  /-- The bytes of the text. A fragment may end inside a character. -/
  payload : Bytes
  padding : UInt8

/-- The body of a packet of the given length. -/
def readBody (length : UInt32) : Decoder Bytes Packet := do
  let requestId ← readInt32LE
  let type ← readInt32LE
  let payload ← readCstringBytes
  let padding ← readByte
  return { length, requestId, type, payload, padding }

variable {σ : Type} [ByteSource σ]

/-- The length of a packet, within its limits. -/
def readLength : Decoder σ UInt32 := do
  let length ← readUInt32LE
  if length.toNat > maxPacketLength then
    throw (.frameTooLarge length.toNat maxPacketLength)
  else if length.toNat < minPacketLength then
    throw (.malformedPacket
      s!"rcon packet of {length.toNat} bytes is shorter than {minPacketLength}")
  else return length

/-- A packet. -/
def readPacket : Decoder σ Packet := do
  let length ← readLength
  let run ← readBytes length.toNat
  (readBody length).within run

theorem consumes_readPacket : (readPacket : Decoder σ Packet).Consumes 4 := by
  refine Decoder.Consumes.bind (j := 4) (k := 0)
    (consumes_readUInt32LE.bind (k := 0) fun length => ?_)
    fun length => (consumes_readBytes _).bind (k := 0) fun _ => .within _ _
  split
  · exact .throw _
  · split
    · exact .throw _
    · exact .pure _

end GameProbe.Rcon
