import GameProbe.Ids
import GameProbe.Rcon.Packet
import GameProbe.Timing
import GameProbe.Transport.Link

/-!
# Remote console sessions

A client of the remote console. It logs in with a password and then runs commands.

A long response comes in several packets, and nothing in them says which is the last. So when the
first packet is long, the client sends a request that no server knows behind the command: the
server answers in order, and its refusal marks the end of the response.
-/

namespace GameProbe.Rcon

/-- The request id with which a server refuses a password. -/
def refusedId : Int32 := -1

/-- A client of the remote console. -/
structure Session (σ ι : Type) where
  config : Config := {}
  link : Link σ := .unconnected
  ids : ι
  authenticated : Bool := false

namespace Session

variable {σ ι : Type}

instance : Linked (Session σ ι) σ where
  link := Session.link
  setLink link session := { session with link }

/-- Take up a connection. -/
def connect (transport : σ) : EStateM Error (Session σ ι) Unit := Linked.attach transport

/-- Draw the id of the next request. -/
def drawRequestId [IdSource ι] : EStateM Error (Session σ ι) Int32 :=
  modifyGet fun session =>
    let (id, ids) := IdSource.requestId session.ids
    (id, { session with ids })

/-- Compare the request id of a reply with that of the request. -/
def checkRequestId (config : Config) (sent echoed : Int32) : Except Error Unit :=
  if config.strictIds ∧ sent ≠ echoed then .error (.idMismatch sent.toInt64 echoed.toInt64)
  else .ok ()

variable [StreamTransport σ]

/-! ### Exchanges -/

/-- Wait for a packet. -/
def receive (config : Config) : Decoder σ Packet := do
  limitReads config
  readPacket

theorem consumes_receive (config : Config) : (receive config : Decoder σ Packet).Consumes 4 :=
  (consumes_limitReads config).bind (j := 0) fun _ => consumes_readPacket

/-- The reply that decides a login. Some servers send an empty response ahead of it. -/
def receiveLoginReply (config : Config) : Decoder σ Packet := do
  let reply ← receive config
  if reply.type = responseType ∧ reply.payload.isEmpty ∧ reply.requestId ≠ refusedId then
    receive config
  else return reply

/-- A further fragment of the response to a request; `none` stands for the packet behind the
last. Packets of other requests have nothing to add. -/
def receiveFragment (config : Config) (requestId : Int32) : Decoder σ (Option Bytes) := do
  let packet ← receive config
  return if packet.payload = Utf8.encode unknownRequestReply then none
    else some (if packet.requestId = requestId then packet.payload else [])

theorem consumes_receiveFragment (config : Config) (requestId : Int32) :
    (receiveFragment config requestId : Decoder σ _).Consumes 1 :=
  ((consumes_receive config).bind (k := 0) fun _ => .pure _).mono (by decide)

/-- The response to a command: its first packet, and the bytes of all its fragments. -/
def receiveResponse (config : Config) (requestId : Int32) : Decoder σ (Packet × Bytes) := do
  let first ← receive config
  if first.payload.length < fragmentThreshold then return (first, first.payload)
  writeRequest (packet requestId invalidType "")
  let fragments ←
    collect (receiveFragment config requestId) (consumes_receiveFragment config requestId)
  return (first, first.payload ++ fragments.flatten)

/-! ### Operations -/

variable [IdSource ι]

/-- Log in; the result is whether the password was accepted. -/
def authenticate (password : String) : EStateM Error (Session σ ι) Bool := do
  let session ← get
  Linked.ensureConnected
  let requestId ← drawRequestId
  let reply ← Linked.use do
    writeRequest (packet requestId loginType password)
    receiveLoginReply session.config
  if reply.requestId = refusedId then
    modify fun session => { session with authenticated := false }
    return false
  else
    match checkRequestId session.config requestId reply.requestId with
    | .ok () =>
      modify fun session => { session with authenticated := true }
      return true
    | .error e => throw e

/-- Run a command; the result is the whole response. -/
def command (text : String) : EStateM Error (Session σ ι) String := do
  let session ← get
  let length := (Utf8.encode text).length
  if length > maxCommandLength then throw (.commandTooLong length maxCommandLength)
  Linked.ensureConnected
  if !session.authenticated then throw .notAuthenticated
  let requestId ← drawRequestId
  let (first, output) ← Linked.use do
    writeRequest (packet requestId commandType text)
    receiveResponse session.config requestId
  if first.requestId = refusedId then throw .notAuthenticated
  match checkRequestId session.config requestId first.requestId with
  | .ok () => return Utf8.decodeLossy output
  | .error e => throw e

omit [IdSource ι] in
/-- Log out and close the connection. -/
def disconnect : EStateM Error (Session σ ι) Unit := do
  modify fun session => { session with authenticated := false }
  Linked.release

/-- Connect, log in, run a command, and disconnect. -/
def run (connection : Except Error σ) (password text : String) (timing : Timing) :
    EStateM Error (Session σ ι) (String × Int64) := do
  Linked.dial connection
  if ← authenticate password then
    let output ← command text
    disconnect
    return (output, timing.roundTrip)
  else
    fun session =>
      match disconnect session with
      | .ok () session | .error _ session => .error .wrongPassword session

end Session

end GameProbe.Rcon
