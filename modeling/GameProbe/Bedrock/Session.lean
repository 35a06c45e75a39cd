import GameProbe.Bedrock.Pong
import GameProbe.Ids
import GameProbe.Timing
import GameProbe.Transport.Link

/-!
# Bedrock sessions

A client of the unconnected ping of Bedrock servers. Its guid is drawn when it connects.
-/

namespace GameProbe.Bedrock

/-- A client of the unconnected ping. -/
structure Session (σ ι : Type) where
  config : Config := {}
  link : Link σ := .unconnected
  ids : ι
  guid : UInt64 := 0

namespace Session

variable {σ ι : Type}

instance : Linked (Session σ ι) σ where
  link := Session.link
  setLink link session := { session with link }

/-- Draw the guid. -/
def drawGuid [IdSource ι] (session : Session σ ι) : Session σ ι :=
  let (guid, ids) := IdSource.draw64 session.ids
  { session with guid, ids }

/-- Take up a connection. -/
def connect [IdSource ι] (transport : σ) : EStateM Error (Session σ ι) Unit := do
  Linked.attach transport
  modify drawGuid

/-- Make a connection and take it up. -/
def dial [IdSource ι] (connection : Except Error σ) : EStateM Error (Session σ ι) Unit := do
  Linked.dial connection
  modify drawGuid

variable [DatagramTransport σ]

/-- Send a ping; the result is the status and the time that the exchange took. -/
def ping (variant : Variant) (timing : Timing) : EStateM Error (Session σ ι) (Status × Int64) := do
  let session ← get
  let timestamp := timing.sentAt.toUInt64
  let answer ← Linked.use do
    limitReads session.config
    liftIo (DatagramTransport.exchange (pingRequest timestamp (variant.guid session.guid)))
  let pong ← (readPong variant).within answer
  if session.config.strictIds ∧ pong.timestamp ≠ timestamp then
    throw (.idMismatch timestamp.toInt64 pong.timestamp.toInt64)
  return (.ofText pong.status, timing.roundTrip)

/-- Close the connection. -/
def disconnect : EStateM Error (Session σ ι) Unit := Linked.release

/-- Connect, ping, and disconnect. -/
def run [IdSource ι] (connection : Except Error σ) (variant : Variant) (timing : Timing) :
    EStateM Error (Session σ ι) (Status × Int64) := do
  dial connection
  let result ← ping variant timing
  disconnect
  return result

end Session

end GameProbe.Bedrock
