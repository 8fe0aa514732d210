/-
The configuration of a server: where it listens, what it logs, and how its sessions behave. What a
configuration leaves open has a default.
-/

namespace WatchParty

structure Endpoint where
  host : String := "0.0.0.0"
  port : UInt16 := 3000
  deriving DecidableEq

/-- What a server logs: a level, and filters for parts of it. -/
structure Logging where
  level : Option String := none
  filters : Option String := none
  deriving DecidableEq

/-- How the sessions of a server behave. -/
structure Settings where
  /-- milliseconds between two ticks of a session's clock, each of which moves playback as far -/
  tickMs : UInt64 := 1
  /-- the nickname of those who join without one -/
  defaultNick : String := "(no nick)"
  deriving DecidableEq

structure Config where
  endpoint : Endpoint := {}
  logging : Option Logging := none
  settings : Settings := {}
  deriving DecidableEq

def Config.address (c : Config) : String := c.endpoint.host ++ ":" ++ toString c.endpoint.port.toNat

/-- The directive for the log: the level, which is `info` unless another is set, and the filters after
a comma, if there are any. -/
def logDirective (logging : Option Logging) : String :=
  let level := (logging.bind Logging.level).getD "info"
  let filters := (logging.bind Logging.filters).getD ""
  if filters = "" then level else level ++ "," ++ filters

end WatchParty
