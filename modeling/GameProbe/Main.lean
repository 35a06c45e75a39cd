import GameProbe.CommandLine
import GameProbe.Transport.Recording
import Std.Async.DNS
import Std.Async.TCP
import Std.Async.Timer
import Std.Async.UDP

/-!
# Program

The command line over real sockets. What a server says goes into a recording, and the program is
run on the recording again until it does not exhaust it any more.
-/

namespace GameProbe.Main

open Std.Async Std.Net

/-! ### Sockets -/

/-- A connection to a server. -/
inductive Socket
  | stream (socket : TCP.Socket.Client)
  | datagrams (socket : UDP.Socket)

/-- The most bytes taken at once. No datagram is longer. -/
def pieceLimit : UInt64 := 65535

/-- Wait for an operation, but only as long as the limit allows. -/
def within {α : Type} [Inhabited α] (limit : Timeout) (act : Async α) : Async α :=
  match limit with
  | none => act
  | some milliseconds => Async.race act do
    sleep (.ofNat milliseconds.toNat)
    throw (.userError Recording.silence.text)

/-- An operation that tells why it failed. -/
def attempt {α : Type} (act : Async α) : BaseIO (Except IoError α) :=
  return (← act.block.toBaseIO).mapError fun e => { text := toString e }

namespace Socket

/-- The addresses of a target: those of four bytes, or all others if there are none. -/
def resolve (target : Target) : BaseIO (Except Error (List SocketAddress)) := do
  let name := target.host ++ ":" ++ toString target.port
  match ← attempt (DNS.getAddrInfo target.host (toString target.port)) with
  | .error e => return .error (.addressResolution (name ++ ": " ++ e.text))
  | .ok found =>
    let short := found.toList.filterMap fun
      | .v4 address => some (.v4 ⟨address, target.port⟩)
      | .v6 _ => none
    let long := found.toList.filterMap fun
      | .v4 _ => none
      | .v6 address => some (.v6 ⟨address, target.port⟩)
    if found.isEmpty then return .error (.addressResolution (name ++ ": no addresses"))
    else return .ok (if short.isEmpty then long else short)

/-- Connect a stream to an address. -/
def openStream (config : Config) (address : SocketAddress) : Async Socket := do
  let socket ← TCP.Socket.Client.mk
  within config.dialTimeout (socket.connect address)
  socket.noDelay
  return .stream socket

/-- Tie a socket for datagrams to an address. -/
def openDatagrams (address : SocketAddress) : Async Socket := do
  let socket ← UDP.Socket.mk
  socket.connect address
  return .datagrams socket

/-- The first socket that can be opened. If none can, the last failure counts. -/
def firstOf (failure : Error) : List (Async Socket) → BaseIO (Except Error Socket)
  | [] => return .error failure
  | act :: acts => do
    match ← attempt act with
    | .ok socket => return .ok socket
    | .error e => firstOf (.io e) acts

/-- Reach a target. A stream is tried at each of its addresses, datagrams go to the first. -/
def dial (config : Config) (target : Target) (streaming : Bool) :
    BaseIO (Except Error Socket) := do
  match ← resolve target with
  | .error e => return .error e
  | .ok addresses =>
    let acts := if streaming then addresses.map (openStream config)
      else (addresses.take 1).map openDatagrams
    firstOf (.addressResolution target.host) acts

/-- Send a message, unless it is empty, and take what comes next. -/
def exchange (config : Config) (message : ByteArray) : Socket → Async ByteArray
  | stream socket => do
    unless message.isEmpty do within config.writeTimeout (socket.send message)
    return (← within config.readTimeout (socket.recv? pieceLimit)).getD .empty
  | datagrams socket => do
    unless message.isEmpty do within config.writeTimeout (socket.send message)
    return (← within config.readTimeout (socket.recv pieceLimit)).1

/-- Say that nothing more will be sent. -/
def close : Socket → Async Unit
  | stream socket => socket.shutdown
  | datagrams _ => return

end Socket

/-! ### Conversations -/

/-- A conversation with a server, as far as it has come. -/
structure Conversation where
  ids : Progression
  /-- The socket, once there is one, or why there will be none. -/
  socket : Except Error (Option Socket) := .ok none
  /-- What was heard, first to last. -/
  heard : List (Except IoError Bytes) := []
  /-- What was sent, last first. -/
  sent : List Bytes := []
  /-- When something was sent, first to last, on a clock that only moves forward. -/
  times : List Nat := []
  /-- The time of day that the client believes in when it sends. -/
  sentAt : Int64 := 0

namespace Conversation

/-- Run the program on what was heard. -/
def run (conversation : Conversation) (arguments : List String) (timing : Timing) :
    CommandLine.Output × Option (Recording ⊕ Recording) :=
  let recording := conversation.socket.map fun _ => ({ heard := conversation.heard } : Recording)
  CommandLine.run (fun _ _ => { stream := recording, datagrams := recording })
    conversation.ids timing arguments

/-- How long the exchange took that a protocol measures: the first for the status, the one behind
the preliminaries for queries and the remote console, and else the only one. -/
def roundTrip (protocol : Protocol) (now : Nat) : List Nat → Nat
  | first :: second :: _ =>
    match protocol with
    | .status => second - first
    | .queryBasic | .queryFull | .rcon => now - second
    | _ => now - first
  | [first] => now - first
  | [] => 0

/-- What the clocks show. -/
def readClocks (protocol : Protocol) (times : List Nat) : BaseIO Timing := do
  let day := (← Std.Time.Timestamp.now.toBaseIO).toOption.map
    (·.toMillisecondsSinceUnixEpoch.toInt.toInt64)
  let now ← IO.monoMsNow
  return {
    sentAt := day.getD 0
    receivedAt := day.getD 0
    roundTrip := (roundTrip protocol now times : Int).toInt64 }

/-- Whether a run has sent all that was sent before. -/
def isContinuedBy (conversation : Conversation) : Option (Recording ⊕ Recording) → Bool
  | some (.inl recording) | some (.inr recording) => conversation.sent.isSuffixOf recording.sent
  | none => true

/-- Run the program now. What was sent before stays as it was. -/
def runNow (conversation : Conversation) (arguments : List String) (protocol : Protocol) :
    BaseIO (Conversation × CommandLine.Output × Option (Recording ⊕ Recording)) := do
  let timing ← readClocks protocol conversation.times
  let now := conversation.run arguments timing
  if conversation.isContinuedBy now.2 then
    return ({ conversation with sentAt := timing.sentAt }, now)
  else
    return (conversation, conversation.run arguments { timing with sentAt := conversation.sentAt })

/-- Send what a run sent beyond what was sent before, and take what comes next. -/
def advance (conversation : Conversation) (config : Config) (socket : Socket)
    (recording : Recording) : BaseIO Conversation := do
  let fresh := recording.sent.take (recording.sent.length - conversation.sent.length)
  let now ← IO.monoMsNow
  let times := if fresh.isEmpty then conversation.times else conversation.times ++ [now]
  let answer ← attempt (socket.exchange config ⟨fresh.reverse.flatten.toArray⟩)
  return { conversation with
    heard := conversation.heard ++ [answer.map (·.toList)], sent := recording.sent, times }

/-- Go on until a run has all that it asks for. -/
partial def finish (conversation : Conversation) (arguments : List String) (protocol : Protocol)
    (target : Target) (config : Config) : BaseIO CommandLine.Output := do
  let (conversation, output, side) ← conversation.runNow arguments protocol
  let recording := side.map (Sum.elim id id)
  match recording.filter (·.exhausted), conversation.socket with
  | some recording, .ok (some socket) =>
    (← conversation.advance config socket recording).finish
      arguments protocol target config
  | some _, .ok none =>
    let socket ← Socket.dial config target (side.any Sum.isLeft)
    { conversation with socket := socket.map some }.finish arguments protocol target config
  | _, .ok (some socket) =>
    discard (attempt socket.close)
    return output
  | _, _ => return output

end Conversation

end GameProbe.Main

open GameProbe in
/-- Run the program with its arguments. -/
def main (arguments : List String) : IO UInt32 := do
  let seed ← IO.getRandomBytes 16
  let number (bytes : Bytes) := UInt64.ofNat (Wire.ofBigEndian bytes)
  let conversation : Main.Conversation :=
    { ids := { next := number (seed.toList.take 8), step := number (seed.toList.drop 8) } }
  let probe := match CommandLine.parse arguments with
    | .run name target options =>
      (Protocol.ofName name).toOption.map fun protocol => (protocol, target, options.config)
    | _ => none
  let output ← match probe with
    | some (protocol, target, config) => conversation.finish arguments protocol target config
    | none => pure (conversation.run arguments ⟨0, 0, 0⟩).1
  IO.print output.stdout
  IO.eprint output.stderr
  return output.exitCode.toUInt32
