import GameProbe.Bedrock.Status
import GameProbe.Json.Printer
import GameProbe.Legacy.Kick
import GameProbe.Query.Message

/-!
# Reports

What a probe found out and how long it took, as JSON or as lines of text.
-/

namespace GameProbe

/-- What a probe found out. -/
inductive Finding
  | status (properties : Json.Object)
  | legacy (info : Legacy.Info)
  | basicStat (stat : Query.BasicStat)
  | fullStat (stat : Query.FullStat)
  | rcon (response : String)
  | bedrock (status : Bedrock.Status)

/-- A finding, with the latency in milliseconds. -/
structure Report where
  finding : Finding
  latency : Int64

/-! ### JSON -/

/-- A number of 32 bits in a report. -/
private def jsonInt32 (n : Int32) : Json.Value := .ofInt n.toInt

/-- A port in a report. -/
private def jsonPort (n : UInt16) : Json.Value := .ofInt n.toNat

/-- What a probe found out, as the members of an object. -/
def Finding.toJson : Finding → Json.Object
  | .status properties => [("properties", .object properties)]
  | .legacy info =>
    [("protocolVersion", jsonInt32 info.protocolVersion),
      ("minecraftVersion", .string info.gameVersion),
      ("motd", .string info.motd),
      ("onlinePlayers", jsonInt32 info.onlinePlayers),
      ("maxPlayers", jsonInt32 info.maxPlayers)]
  | .basicStat stat =>
    [("motd", .string stat.motd),
      ("gameType", .string stat.gameType),
      ("map", .string stat.map),
      ("numPlayers", jsonInt32 stat.onlinePlayers),
      ("maxPlayers", jsonInt32 stat.maxPlayers),
      ("hostPort", jsonPort stat.hostPort),
      ("hostIp", .string stat.hostIp)]
  | .fullStat stat =>
    [("properties", .object (stat.properties.map fun (key, value) => (key, .string value))),
      ("onlinePlayers", .array (stat.onlinePlayers.map .string))]
  | .rcon response => [("response", .string response)]
  | .bedrock server =>
    [("edition", .string server.edition),
      ("motd", .string server.motd),
      ("protocolVersion", jsonInt32 server.protocolVersion),
      ("gameVersion", .string server.gameVersion),
      ("onlinePlayers", jsonInt32 server.onlinePlayers),
      ("maxPlayers", jsonInt32 server.maxPlayers),
      ("serverId", .string server.serverId),
      ("levelName", .string server.levelName),
      ("gameMode", .string server.gameMode),
      ("gameModeNumeric", jsonInt32 server.gameModeNumber),
      ("ipv4Port", jsonPort server.ipv4Port),
      ("ipv6Port", jsonPort server.ipv6Port),
      ("extra", .string server.extra)]

/-- A report as the members of an object. -/
def Report.toJson (report : Report) : Json.Object :=
  report.finding.toJson ++ [("latency", .ofInt report.latency.toInt)]

/-! ### Text -/

/-- A labelled number of 32 bits. -/
private def numberLine (label : String) (n : Int32) : String := label ++ " : " ++ toString n.toInt

/-- A labelled text. -/
private def textLine (label text : String) : String := label ++ " : " ++ text

/-- A labelled port. -/
private def portLine (label : String) (n : UInt16) : String := label ++ " : " ++ toString n.toNat

/-- What a probe found out, line by line. -/
def Finding.lines : Finding → List String
  | .status properties => [textLine "Properties" (properties.render .indented)]
  | .legacy info =>
    [numberLine "Protocol Version" info.protocolVersion,
      textLine "Minecraft Version" info.gameVersion,
      textLine "MOTD" info.motd,
      numberLine "Online Players" info.onlinePlayers,
      numberLine "Max Players" info.maxPlayers]
  | .basicStat stat =>
    [textLine "MOTD" stat.motd,
      textLine "Game Type" stat.gameType,
      textLine "Map" stat.map,
      numberLine "Online Players" stat.onlinePlayers,
      numberLine "Max Players" stat.maxPlayers,
      textLine "Host" (stat.hostIp ++ ":" ++ toString stat.hostPort.toNat)]
  | .fullStat stat =>
    "Properties :" :: stat.properties.map (fun (key, value) => "\t" ++ textLine key value) ++
      [textLine "Online Players" (", ".intercalate stat.onlinePlayers)]
  | .rcon response => [response]
  | .bedrock server =>
    [textLine "Edition" server.edition,
      textLine "MOTD" server.motd,
      numberLine "Protocol Version" server.protocolVersion,
      textLine "Game Version" server.gameVersion,
      numberLine "Online Players" server.onlinePlayers,
      numberLine "Max Players" server.maxPlayers,
      textLine "Server ID" server.serverId,
      textLine "Level Name" server.levelName,
      textLine "Game Mode" (server.gameMode ++ " (" ++ toString server.gameModeNumber.toInt ++ ")"),
      portLine "IPv4 Port" server.ipv4Port,
      portLine "IPv6 Port" server.ipv6Port]

/-- A report line by line. The response to a command stands alone. -/
def Report.lines (report : Report) : List String :=
  match report.finding with
  | .rcon response => [response]
  | finding => finding.lines ++ [textLine "Latency" (toString report.latency.toInt ++ " ms")]

/-- A report as text. -/
def Report.text (report : Report) : String :=
  report.lines.foldl (fun out line => out ++ line ++ "\n") ""

end GameProbe
