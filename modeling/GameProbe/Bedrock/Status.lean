import GameProbe.Text.Decimal

/-!
# Bedrock status texts

A Bedrock server tells its status as fields parted by semicolons. Fields may be missing at the end,
and a number that is none counts as zero.
-/

namespace GameProbe.Bedrock

/-- The status of a server. -/
structure Status where
  edition : String := ""
  motd : String := ""
  protocolVersion : Int32 := 0
  gameVersion : String := ""
  onlinePlayers : Int32 := 0
  maxPlayers : Int32 := 0
  serverId : String := ""
  levelName : String := ""
  gameMode : String := ""
  gameModeNumber : Int32 := 0
  ipv4Port : UInt16 := 0
  ipv6Port : UInt16 := 0
  /-- A further field of some servers. -/
  extra : String := ""

/-- The fields of a status text. -/
def fields (text : String) : List String := (text.toList.splitOn ';').map String.ofList

/-- The status that a text tells. -/
def Status.ofText (text : String) : Status :=
  let fields := (fields text).toArray
  let text (i : Nat) : String := (fields[i]?).getD ""
  let number (i : Nat) : Int32 := (Decimal.int32? (text i)).getD 0
  let port (i : Nat) : UInt16 := (Decimal.uint16? (text i)).getD 0
  { edition := text 0
    motd := text 1
    protocolVersion := number 2
    gameVersion := text 3
    onlinePlayers := number 4
    maxPlayers := number 5
    serverId := text 6
    levelName := text 7
    gameMode := text 8
    gameModeNumber := number 9
    ipv4Port := port 10
    ipv6Port := port 11
    extra := text 12 }

end GameProbe.Bedrock
