import GameProbe.Transport.Basic

/-!
# Links

The life of a client's connection: it is made once, used, and closed once. A closed link keeps its
transport, which is not touched any more.
-/

namespace GameProbe

/-- The connection of a client. -/
inductive Link (σ : Type)
  | unconnected
  | connected (transport : σ)
  | disconnected (transport : σ)

namespace Link

variable {σ : Type}

/-- Whether the link can be used. -/
def isConnected : Link σ → Bool
  | connected _ => true
  | _ => false

/-- Whether a connection was ever made. -/
def isUnconnected : Link σ → Bool
  | unconnected => true
  | _ => false

/-- The transport of the link, if a connection was ever made. -/
def transport? : Link σ → Option σ
  | unconnected => none
  | connected transport | disconnected transport => some transport

end Link

/-- What has a link to a server: the clients, and links themselves. -/
class Linked (γ : Type) (σ : outParam Type) where
  link : γ → Link σ
  setLink : Link σ → γ → γ

/-- A link is its own link. -/
instance {σ : Type} : Linked (Link σ) σ where
  link := id
  setLink link _ := link

namespace Linked

variable {γ σ α : Type} [Linked γ σ]

/-- Whether there is a connection. -/
def isConnected (client : γ) : Bool := (link client).isConnected

/-- Check that no connection has been made. -/
def ensureUnconnected : EStateM Error γ Unit := fun client =>
  match link client with
  | .unconnected => .ok () client
  | .connected _ => .error .alreadyConnected client
  | .disconnected _ => .error .connectionTerminated client

/-- Take up a connection, if none has been made before. -/
def attach (transport : σ) : EStateM Error γ Unit := do
  ensureUnconnected
  modify (setLink (.connected transport))

/-- Make a connection, if none has been made before, and take it up. -/
def dial (connection : Except Error σ) : EStateM Error γ Unit := do
  ensureUnconnected
  match connection with
  | .ok transport => attach transport
  | .error e => throw e

/-- Do something with the transport of a connected link. -/
def use (act : EStateM Error σ α) : EStateM Error γ α := fun client =>
  match link client with
  | .connected transport =>
    match act transport with
    | .ok a transport => .ok a (setLink (.connected transport) client)
    | .error e transport => .error e (setLink (.connected transport) client)
  | _ => .error .notConnected client

/-- Check that there is a connection. -/
def ensureConnected : EStateM Error γ Unit := fun client =>
  if isConnected client then .ok () client else .error .notConnected client

/-- Close the connection. It is given up even when closing it fails. -/
def release [Transport σ] : EStateM Error γ Unit := fun client =>
  match link client with
  | .connected transport =>
    match liftIo Transport.close transport with
    | .ok () transport => .ok () (setLink (.disconnected transport) client)
    | .error e transport => .error e (setLink (.disconnected transport) client)
  | _ => .error .notConnected client

end Linked

end GameProbe
