import GameProbe.Json.Error
import GameProbe.Text.Quoted

/-!
# Errors

Everything that can go wrong between a client and a server, by cause, with one wording for each.
-/

namespace GameProbe

/-- A failure of the network, as its transport words it. -/
structure IoError where
  text : String
  /-- Whether the call was merely interrupted: nothing has moved, and it may be made again. -/
  interrupted : Bool := false
deriving DecidableEq

/-- Why an operation did not succeed. -/
inductive Error
  /-- The operation needs a connection, and there is none. -/
  | notConnected
  | alreadyConnected
  /-- The connection has been closed for good. -/
  | connectionTerminated
  /-- The status handshake has to come before `operation`. -/
  | handshakeRequired (operation : String)
  | io (cause : IoError)
  /-- The stream ended within a run of `expected` bytes, of which `received` had come. -/
  | connectionClosed (expected received : Nat)
  | addressResolution (address : String)
  | unexpectedPacket (expected actual : Int64)
  | malformedPacket (detail : String)
  | badMagic
  | varintTooLong
  | frameTooLarge (size limit : Nat)
  /-- A field of text that should have been a number. -/
  | invalidNumber (field value : String)
  | json (cause : Json.Error)
  /-- The server echoed another id than the one sent. -/
  | idMismatch (sent echoed : Int64)
  | notAuthenticated
  | wrongPassword
  | commandTooLong (length limit : Nat)
  | unknownProtocol (name : String)
  | missingArgument (name : String)
deriving DecidableEq

namespace Error

/-- The error in words. -/
def message : Error → String
  | notConnected => "connection hasn't been established yet, call connect first"
  | alreadyConnected => "connection has already been established, call disconnect first"
  | connectionTerminated => "connection has been closed, create a new client to reconnect"
  | handshakeRequired operation => "status handshake must complete before " ++ operation
  | io cause => "IO error: " ++ cause.text
  | connectionClosed expected received =>
    s!"connection closed: expected {expected} bytes, received {received}"
  | addressResolution address => "could not resolve address: " ++ address
  | unexpectedPacket expected actual =>
    "invalid packet type: expected " ++ toString expected.toInt ++ ", got " ++
      toString actual.toInt
  | malformedPacket detail => "malformed packet: " ++ detail
  | badMagic => "magic bytes do not match"
  | varintTooLong => "varint is too long"
  | frameTooLarge size limit => s!"frame too large: {size} bytes (max {limit})"
  | invalidNumber field value =>
    "invalid number in field " ++ field ++ ": " ++ Quoted.quote value
  | json cause => "JSON error: " ++ cause.message
  | idMismatch sent echoed =>
    "echoed id mismatch: sent " ++ toString sent.toInt ++ ", received " ++ toString echoed.toInt
  | notAuthenticated =>
    "authentication hasn't been done or has failed, call authenticate first"
  | wrongPassword => "wrong password"
  | commandTooLong length limit => s!"command is {length} bytes long, must be {limit} or less"
  | unknownProtocol name => "unknown protocol: " ++ name
  | missingArgument name => "missing argument: " ++ name

/-- Whether the caller used a connection out of turn. -/
def isConnection : Error → Bool
  | notConnected | alreadyConnected | connectionTerminated | handshakeRequired _ => true
  | _ => false

/-- Whether the network failed: dialing, reading or writing. -/
def isTransport : Error → Bool
  | io _ | connectionClosed .. | addressResolution _ => true
  | _ => false

/-- Whether the server answered with something outside the protocol. -/
def isProtocol : Error → Bool
  | unexpectedPacket .. | malformedPacket _ | badMagic | varintTooLong | frameTooLarge ..
  | invalidNumber .. | json _ | idMismatch .. => true
  | _ => false

end Error

end GameProbe
