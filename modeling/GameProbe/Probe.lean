import GameProbe.Bedrock.Session
import GameProbe.Json.Parser
import GameProbe.Legacy.Session
import GameProbe.Protocol
import GameProbe.Query.Session
import GameProbe.Rcon.Session
import GameProbe.Report
import GameProbe.Status.Session

/-!
# Probes

One run of a protocol against a server, from connecting to disconnecting.
-/

namespace GameProbe

/-- The server to probe, and what the remote console needs besides. -/
structure Target where
  host : String
  port : UInt16
  password : Option String := none
  command : Option String := none

/-- How to reach a server, as a stream or with datagrams. -/
structure Network (σ δ : Type) where
  stream : Except Error σ
  datagrams : Except Error δ

/-- How a run ended. -/
structure Run (σ δ α : Type) where
  result : Except Error α
  /-- The transport of the run, if it came to have one, as it was left. -/
  transport : Option (σ ⊕ δ) := none

namespace Run

variable {σ δ γ α β : Type}

/-- A run that failed before it came to a transport. -/
def failed (e : Error) : Run σ δ α := { result := .error e }

/-- Run a session over a stream. -/
def overStream [Linked γ σ] (session : γ) (act : EStateM Error γ α) : Run σ δ α :=
  match act session with
  | .ok a session => ⟨.ok a, (Linked.link session).transport?.map .inl⟩
  | .error e session => ⟨.error e, (Linked.link session).transport?.map .inl⟩

/-- Run a session over datagrams. -/
def overDatagrams [Linked γ δ] (session : γ) (act : EStateM Error γ α) : Run σ δ α :=
  match act session with
  | .ok a session => ⟨.ok a, (Linked.link session).transport?.map .inr⟩
  | .error e session => ⟨.error e, (Linked.link session).transport?.map .inr⟩

/-- Make something of the result of a run. -/
def map (f : α → β) (run : Run σ δ α) : Run σ δ β := { run with result := run.result.map f }

end Run

namespace Probe

variable {σ δ ι : Type} [StreamTransport σ] [DatagramTransport δ] [IdSource ι]

/-- What a run depends on besides its target. -/
structure Setting (σ δ ι : Type) where
  config : Config := {}
  network : Network σ δ
  ids : ι
  timing : Timing

variable (setting : Setting σ δ ι) (host : String) (port : UInt16)

/-- The status of a server and the latency. -/
def status : Run σ δ (Checked (Json.Object × Int64)) :=
  .overStream
    ({ host, port, config := setting.config, parse := Json.parseObject } : Status.Session σ)
    (Status.Session.run setting.network.stream setting.timing)

/-- What a server answers to a legacy ping, and the latency. -/
def legacy (variant : Legacy.Variant) : Run σ δ (Legacy.Info × Int64) :=
  .overStream ({ host, port, config := setting.config } : Legacy.Session σ)
    (Legacy.Session.run setting.network.stream variant setting.timing)

/-- The basic stat of a server and the latency. -/
def queryBasic : Run σ δ (Query.BasicStat × Int64) :=
  .overDatagrams ({ config := setting.config, ids := setting.ids } : Query.Session δ ι)
    (Query.Session.run setting.network.datagrams Query.Session.basicStat setting.timing)

/-- The full stat of a server and the latency. -/
def queryFull : Run σ δ (Query.FullStat × Int64) :=
  .overDatagrams ({ config := setting.config, ids := setting.ids } : Query.Session δ ι)
    (Query.Session.run setting.network.datagrams Query.Session.fullStat setting.timing)

/-- The response of a server to a command, and the latency. -/
def rcon (password command : String) : Run σ δ (String × Int64) :=
  .overStream ({ config := setting.config, ids := setting.ids } : Rcon.Session σ ι)
    (Rcon.Session.run setting.network.stream password command setting.timing)

/-- The status of a Bedrock server and the latency. -/
def bedrock (variant : Bedrock.Variant) : Run σ δ (Bedrock.Status × Int64) :=
  .overDatagrams ({ config := setting.config, ids := setting.ids } : Bedrock.Session δ ι)
    (Bedrock.Session.run setting.network.datagrams variant setting.timing)

/-- The report of a finding and a latency. -/
def report {α : Type} (finding : α → Finding) (result : α × Int64) : Report :=
  ⟨finding result.1, result.2⟩

/-- The report of a run in which nothing can overflow. -/
def reported {α : Type} (finding : α → Finding) (run : Run σ δ (α × Int64)) :
    Run σ δ (Checked Report) :=
  run.map fun result => .value (report finding result)

/-- Probe a target with a protocol. -/
def execute (protocol : Protocol) (target : Target) : Run σ δ (Checked Report) :=
  match protocol with
  | .status => (status setting target.host target.port).map (.map (report .status))
  | .legacy => reported .legacy (legacy setting target.host target.port .plain)
  | .legacyPingHost => reported .legacy (legacy setting target.host target.port .pingHost)
  | .queryBasic => reported .basicStat (queryBasic setting)
  | .queryFull => reported .fullStat (queryFull setting)
  | .rcon =>
    match target.password, target.command with
    | none, _ => .failed (.missingArgument "password")
    | some _, none => .failed (.missingArgument "command")
    | some password, some command => reported .rcon (rcon setting password command)
  | .bedrock => reported .bedrock (bedrock setting .ping)
  | .bedrockStat => reported .bedrock (bedrock setting .stat)

end Probe

end GameProbe
