import GameProbe.Error

/-!
# Protocols

The protocols that a server can be probed with, by name.
-/

namespace GameProbe

/-- A way to probe a server. -/
inductive Protocol
  | status
  | legacy
  | legacyPingHost
  | queryBasic
  | queryFull
  | rcon
  | bedrock
  | bedrockStat
deriving DecidableEq

namespace Protocol

/-- Every protocol. -/
def all : List Protocol :=
  [status, legacy, legacyPingHost, queryBasic, queryFull, rcon, bedrock, bedrockStat]

/-- The name of a protocol. -/
def name : Protocol → String
  | status => "ping"
  | legacy => "ping-legacy"
  | legacyPingHost => "ping-legacy-1.6.4"
  | queryBasic => "query-basic"
  | queryFull => "query-full"
  | rcon => "rcon"
  | bedrock => "ping-bedrock"
  | bedrockStat => "stat-bedrock"

/-- The protocol with the given name. -/
def ofName (name : String) : Except Error Protocol :=
  match all.find? (·.name = name) with
  | some protocol => .ok protocol
  | none => .error (.unknownProtocol name)

/-- The arguments that a protocol takes. -/
def usage : Protocol → String
  | rcon => "<hostname> <port> <password> <command>"
  | _ => "<hostname> <port>"

end Protocol

end GameProbe
