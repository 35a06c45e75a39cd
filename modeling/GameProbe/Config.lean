/-!
# Configuration

What every client can be told: how long to wait, and whether to insist on echoed ids.
-/

namespace GameProbe

/-- A time limit in milliseconds; without one an operation may wait for ever. -/
abbrev Timeout := Option UInt64

/-- The settings of a client. A timeout of zero milliseconds is none. -/
structure Config where
  dialTimeoutMs : UInt64 := 5000
  readTimeoutMs : UInt64 := 5000
  writeTimeoutMs : UInt64 := 5000
  /-- Whether an answer that echoes another id than the one sent is an error. -/
  strictIds : Bool := false

namespace Config

/-- A timeout of so many milliseconds. -/
def timeout (milliseconds : UInt64) : Timeout :=
  if milliseconds = 0 then none else some milliseconds

/-- How long to wait for a connection. -/
def dialTimeout (config : Config) : Timeout := timeout config.dialTimeoutMs

/-- How long to wait for the bytes of an answer. -/
def readTimeout (config : Config) : Timeout := timeout config.readTimeoutMs

/-- How long to wait for a request to leave. -/
def writeTimeout (config : Config) : Timeout := timeout config.writeTimeoutMs

end Config

end GameProbe
