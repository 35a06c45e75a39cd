import GameProbe.Text.Decimal
import GameProbe.Wire.Fixed
import GameProbe.Wire.Text

/-!
# Query messages

The datagrams of the query protocol. A client first asks for a challenge token and shows it with
every request for a stat. The basic stat is a fixed list of fields; the full stat is a list of
properties and a list of players, each ended by an empty text and introduced by a marker.
-/

namespace GameProbe.Query

open Wire

/-- What a datagram is about. -/
inductive Kind
  | handshake
  | stat

/-- The packet type of a kind. -/
def Kind.code : Kind → UInt8
  | .handshake => 9
  | .stat => 0

/-! ### Requests -/

/-- The beginning of every request. -/
def requestHeader (kind : Kind) (session : UInt32) : Bytes :=
  [0xFE, 0xFD, kind.code] ++ uint32BE session

/-- A request for a challenge token. -/
def handshakeRequest (session : UInt32) : Bytes := requestHeader .handshake session

/-- A request for the basic stat. -/
def basicStatRequest (session : UInt32) (token : Int32) : Bytes :=
  requestHeader .stat session ++ int32BE token

/-- A request for the full stat, which differs in being longer. -/
def fullStatRequest (session : UInt32) (token : Int32) : Bytes :=
  basicStatRequest session token ++ [0, 0, 0, 0]

/-! ### Answers -/

/-- The beginning of every answer. -/
structure Header where
  packetType : UInt8
  /-- The session of the request, as echoed. -/
  session : UInt32

/-- A challenge. -/
structure Handshake extends Header where
  token : Int32

/-- What a basic stat tells. -/
structure BasicStat where
  motd : String
  gameType : String
  map : String
  onlinePlayers : Int32
  maxPlayers : Int32
  hostPort : UInt16
  hostIp : String

/-- A basic stat that was read. -/
structure BasicResponse extends Header where
  stat : BasicStat

/-- What a full stat tells. -/
structure FullStat where
  /-- Each key once, in the order in which the keys came first. -/
  properties : List (String × String)
  onlinePlayers : List String

/-- A full stat that was read. The markers are kept as they are: servers differ in them. -/
structure FullResponse extends Header where
  propertyMarker : Bytes
  playerMarker : Bytes
  stat : FullStat

variable {σ : Type} [ByteSource σ]

/-- The beginning of an answer of the given kind. -/
def readHeader (kind : Kind) : Decoder σ Header := do
  let packetType ← readByte
  if packetType ≠ kind.code then
    throw (.unexpectedPacket kind.code.toUInt64.toInt64 packetType.toUInt64.toInt64)
  return { packetType, session := ← readUInt32BE }

/-- A number that travels as text. -/
def readNumber (field : String) : Decoder σ Int32 := do
  let text ← readCstring
  match Decimal.int32? text with
  | some n => return n
  | none => throw (.invalidNumber field text)

/-- The answer to a request for a challenge token. -/
def readHandshake : Decoder σ Handshake := do
  let header ← readHeader .handshake
  return { header with token := ← readNumber "challenge token" }

/-- The answer to a request for the basic stat. -/
def readBasicResponse : Decoder σ BasicResponse := do
  let header ← readHeader .stat
  let motd ← readCstring
  let gameType ← readCstring
  let map ← readCstring
  let onlinePlayers ← readNumber "numplayers"
  let maxPlayers ← readNumber "maxplayers"
  let hostPort ← readUInt16LE
  let hostIp ← readCstring
  return { header with
    stat := { motd, gameType, map, onlinePlayers, maxPlayers, hostPort, hostIp } }

/-- A property; an empty key stands for the end of the list. -/
def readProperty : Decoder σ (Option (String × String)) := do
  let key ← readCstring
  if key.isEmpty then return none
  return some (key, ← readCstring)

/-- The name of a player; an empty name stands for the end of the list. -/
def readPlayer : Decoder σ (Option String) := do
  let name ← readCstring
  return if name.isEmpty then none else some name

theorem consumes_readProperty : (readProperty : Decoder σ _).Consumes 1 := by
  refine consumes_readCstring.bind (k := 0) fun key => ?_
  split
  · exact .pure _
  · exact (consumes_readCstring.mono (Nat.zero_le 1)).bind (k := 0) fun _ => .pure _

theorem consumes_readPlayer : (readPlayer : Decoder σ _).Consumes 1 :=
  consumes_readCstring.bind (k := 0) fun _ => .pure _

/-- Note a property: a key that is known keeps its place and takes the new value. -/
def setProperty (properties : List (String × String)) (key value : String) :
    List (String × String) :=
  if properties.any (·.1 = key) then
    properties.map fun property => if property.1 = key then (key, value) else property
  else properties ++ [(key, value)]

/-- The properties in a list, each key once. -/
def propertiesOf (pairs : List (String × String)) : List (String × String) :=
  pairs.foldl (fun properties (key, value) => setProperty properties key value) []

/-- The answer to a request for the full stat. -/
def readFullResponse : Decoder σ FullResponse := do
  let header ← readHeader .stat
  let propertyMarker ← fill 11
  let pairs ← collect readProperty consumes_readProperty
  let playerMarker ← fill 10
  let onlinePlayers ← collect readPlayer consumes_readPlayer
  return { header with
    propertyMarker, playerMarker
    stat := { properties := propertiesOf pairs, onlinePlayers } }

end GameProbe.Query
