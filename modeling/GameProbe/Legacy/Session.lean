import GameProbe.Legacy.Kick
import GameProbe.Timing
import GameProbe.Transport.Link

/-!
# Legacy sessions

A client of the legacy ping.
-/

namespace GameProbe.Legacy

/-- A client of the legacy ping. -/
structure Session (σ : Type) where
  host : String
  port : UInt16
  config : Config := {}
  link : Link σ := .unconnected

namespace Session

variable {σ : Type}

instance : Linked (Session σ) σ where
  link := Session.link
  setLink link session := { session with link }

/-- Take up a connection. -/
def connect (transport : σ) : EStateM Error (Session σ) Unit := Linked.attach transport

variable [StreamTransport σ]

/-- Send a request and read what the server tells of itself. -/
def ping (variant : Variant) : EStateM Error (Session σ) Info := do
  let session ← get
  let response ← Linked.use do
    writeRequest (request session.host session.port variant)
    limitReads session.config
    readResponse
  return response.info

/-- A ping with the time that it took. -/
def timedPing (variant : Variant) (timing : Timing) : EStateM Error (Session σ) (Info × Int64) :=
  return (← ping variant, timing.roundTrip)

/-- Close the connection. -/
def disconnect : EStateM Error (Session σ) Unit := Linked.release

/-- Connect, ping, and disconnect. -/
def run (connection : Except Error σ) (variant : Variant) (timing : Timing) :
    EStateM Error (Session σ) (Info × Int64) := do
  Linked.dial connection
  let result ← timedPing variant timing
  disconnect
  return result

end Session

end GameProbe.Legacy
