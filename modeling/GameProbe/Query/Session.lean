import GameProbe.Ids
import GameProbe.Query.Message
import GameProbe.Timing
import GameProbe.Transport.Link

/-!
# Query sessions

A client of the query protocol. Its session id is drawn when it connects. The challenge token is
the caller's to keep: a server changes it from time to time.
-/

namespace GameProbe.Query

/-- A client of the query protocol. -/
structure Session (σ ι : Type) where
  config : Config := {}
  link : Link σ := .unconnected
  ids : ι
  sessionId : UInt32 := 0

namespace Session

variable {σ ι α : Type}

instance : Linked (Session σ ι) σ where
  link := Session.link
  setLink link session := { session with link }

/-- Draw the session id. -/
def drawSessionId [IdSource ι] (session : Session σ ι) : Session σ ι :=
  let (sessionId, ids) := IdSource.sessionId session.ids
  { session with sessionId, ids }

/-- Take up a connection. -/
def connect [IdSource ι] (transport : σ) : EStateM Error (Session σ ι) Unit := do
  Linked.attach transport
  modify drawSessionId

/-- Make a connection and take it up. -/
def dial [IdSource ι] (connection : Except Error σ) : EStateM Error (Session σ ι) Unit := do
  Linked.dial connection
  modify drawSessionId

variable [DatagramTransport σ]

/-- Send a request, and decode the one datagram that answers it. -/
def exchange (request : Bytes) (decoder : Decoder Bytes α) : EStateM Error (Session σ ι) α := do
  let session ← get
  let answer ← Linked.use do
    limitReads session.config
    liftIo (DatagramTransport.exchange request)
  decoder.within answer

/-- Compare the session id of an answer with that of the request. -/
def checkSession (header : Header) : EStateM Error (Session σ ι) Unit := do
  let session ← get
  if session.config.strictIds ∧ header.session ≠ session.sessionId then
    throw (.idMismatch session.sessionId.toUInt64.toInt64 header.session.toUInt64.toInt64)

/-- Ask for a challenge token. -/
def handshake : EStateM Error (Session σ ι) Int32 := do
  let response ← exchange (handshakeRequest (← get).sessionId) readHandshake
  checkSession response.toHeader
  return response.token

/-- Ask for the basic stat. -/
def basicStat (token : Int32) : EStateM Error (Session σ ι) BasicStat := do
  let response ← exchange (basicStatRequest (← get).sessionId token) readBasicResponse
  checkSession response.toHeader
  return response.stat

/-- Ask for the full stat. -/
def fullStat (token : Int32) : EStateM Error (Session σ ι) FullStat := do
  let response ← exchange (fullStatRequest (← get).sessionId token) readFullResponse
  checkSession response.toHeader
  return response.stat

/-- Close the connection. -/
def disconnect : EStateM Error (Session σ ι) Unit := Linked.release

/-- Connect, ask for a token and show it for a stat, and disconnect. -/
def run [IdSource ι] (connection : Except Error σ)
    (stat : Int32 → EStateM Error (Session σ ι) α) (timing : Timing) :
    EStateM Error (Session σ ι) (α × Int64) := do
  dial connection
  let token ← handshake
  let result ← stat token
  disconnect
  return (result, timing.roundTrip)

end Session

end GameProbe.Query
