import GameProbe.Status.Frame
import GameProbe.Timing
import GameProbe.Transport.Link

/-!
# Status sessions

A client of the server list ping: it connects, asks for the status, and measures the latency with a
probe, which is allowed once after each status.
-/

namespace GameProbe.Status

/-- How far a session has come. -/
inductive Phase
  | unconnected
  | connected
  | handshakeDone
  | pingDone
  | disconnected
deriving DecidableEq

/-- A client of the server list ping. -/
structure Session (σ : Type) where
  host : String
  port : UInt16
  config : Config := {}
  /-- How the text of a status is parsed. -/
  parse : Parser
  link : Link σ := .unconnected
  phase : Phase := .unconnected

namespace Session

variable {σ : Type}

instance : Linked (Session σ) σ where
  link := Session.link
  setLink link session := { session with link }

/-- A session that has come to `phase`. -/
def inPhase (phase : Phase) (session : Session σ) : Session σ := { session with phase }

/-- Take up a connection. -/
def connect (transport : σ) : EStateM Error (Session σ) Unit := do
  Linked.attach transport
  modify (inPhase .connected)

variable [StreamTransport σ]

/-- Send the handshake and read the status properties. -/
def handshake : EStateM Error (Session σ) Json.Object := do
  let session ← get
  let response ← Linked.use do
    writeRequest (handshakeRequest session.host session.port)
    limitReads session.config
    readResponse session.parse
  modify (inPhase .handshakeDone)
  return response.properties

/-- Send a probe behind a handshake and read the pong. The latency is the time since the
timestamp that the server echoed. A server that echoes another one can make it overflow. -/
def ping (timing : Timing) : EStateM Error (Session σ) (Checked Int64) := do
  let session ← get
  if session.phase ≠ .handshakeDone then
    Linked.ensureConnected
    throw (.handshakeRequired "ping")
  let pong ← Linked.use do
    writeRequest (pingRequest timing.sentAt)
    limitReads session.config
    readPong
  modify (inPhase .pingDone)
  return timing.since pong.payload

/-- The result of an operation, or `fallback` if the server answered with another packet. -/
def unlessUnexpected {γ α : Type} (fallback : α) (act : EStateM Error γ α) : EStateM Error γ α :=
  fun client =>
    match act client with
    | .error (.unexpectedPacket ..) client => .ok fallback client
    | result => result

/-- Send the handshake, then a probe. Some servers answer the probe with a second status; the
latency is then that of the handshake, and another probe may be sent. -/
def status (timing : Timing) : EStateM Error (Session σ) (Checked (Json.Object × Int64)) := do
  let properties ← handshake
  let latency ← unlessUnexpected (.value timing.roundTrip) (ping timing)
  return latency.map fun latency => (properties, latency)

/-- The phase of a session after its link was released. -/
def afterRelease (session : Session σ) : Session σ :=
  if session.link.isUnconnected then session else inPhase .disconnected session

/-- Close the connection. -/
def disconnect : EStateM Error (Session σ) Unit := fun session =>
  match Linked.release session with
  | .ok () session => .ok () (afterRelease session)
  | .error e session => .error e (afterRelease session)

/-- Connect, ask for the status, and disconnect. -/
def run (connection : Except Error σ) (timing : Timing) :
    EStateM Error (Session σ) (Checked (Json.Object × Int64)) := do
  Linked.dial connection
  modify (inPhase .connected)
  match ← status timing with
  | .value result =>
    disconnect
    return .value result
  | .overflow => return .overflow

end Session

end GameProbe.Status
