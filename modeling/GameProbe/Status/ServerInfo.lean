import GameProbe.Json.Value

/-!
# Server info

The usual fields of a status, taken from its properties. What is missing, or of the wrong kind, is
empty or zero.
-/

namespace GameProbe.Status

/-- A player of the sample that a status shows. -/
structure Player where
  name : String
  id : String

/-- The usual fields of a status. -/
structure ServerInfo where
  versionName : String := ""
  protocol : Int64 := 0
  maxPlayers : Int64 := 0
  onlinePlayers : Int64 := 0
  sample : List Player := []
  /-- A plain text, or the text of a chat component. -/
  description : String := ""
  /-- An image as a data URL. -/
  favicon : String := ""

/-- The text of a property. -/
def textOf (value : Option Json.Value) : String := (value.bind (·.string?)).getD ""

/-- The number of 64 bits nearest to a whole number. -/
def clampInt64 (n : Int) : Int64 :=
  if n < Int64.minValue.toInt then Int64.minValue
  else if Int64.maxValue.toInt < n then Int64.maxValue
  else Int64.ofInt n

/-- The number of a property. Whatever it was written as, it is taken as a double, whose fraction
is cut off. -/
def numberOf (value : Option Json.Value) : Int64 :=
  ((value.bind (·.number?)).map fun n => clampInt64 n.truncate).getD 0

/-- The members of a property. -/
def membersOf (value : Option Json.Value) : Json.Object := (value.bind (·.object?)).getD []

/-- A player of the sample; what is no object is none. -/
def Player.ofValue? (value : Json.Value) : Option Player :=
  value.object?.map fun player => ⟨textOf (player.get? "name"), textOf (player.get? "id")⟩

/-- The text of a description. -/
def descriptionOf : Option Json.Value → String
  | some (.string text) => text
  | some (.object component) => textOf (Json.Object.get? component "text")
  | _ => ""

/-- The usual fields among the properties of a status. -/
def ServerInfo.ofProperties (properties : Json.Object) : ServerInfo :=
  let version := membersOf (properties.get? "version")
  let players := membersOf (properties.get? "players")
  { versionName := textOf (version.get? "name")
    protocol := numberOf (version.get? "protocol")
    maxPlayers := numberOf (players.get? "max")
    onlinePlayers := numberOf (players.get? "online")
    sample := (((players.get? "sample").bind (·.array?)).getD []).filterMap Player.ofValue?
    description := descriptionOf (properties.get? "description")
    favicon := textOf (properties.get? "favicon") }

end GameProbe.Status
