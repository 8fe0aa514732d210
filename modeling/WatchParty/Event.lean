/-
The events that the server sends to its clients, each with its name and its payload.
-/
import WatchParty.View

namespace WatchParty

inductive Event
  | newSession (view : SessionView)
  | joinSession (view : SessionView)
  | sync (view : SessionView)
  /-- no open session has this id -/
  | invalidSessionId (id : String)
  /-- the payload of a request for a new session breaks a rule -/
  | invalidNewData (data : Json)
  | invalidData (data : Json)
  | memberNotFound

namespace Event

def name : Event → String
  | .newSession _ => "flixy new session"
  | .joinSession _ => "flixy join session"
  | .sync _ => "flixy sync"
  | .invalidSessionId _ => "flixy invalid session id"
  | .invalidNewData _ => "flixy invalid new data"
  | .invalidData _ => "flixy invalid data"
  | .memberNotFound => "flixy member does not exist"

/-- The payload of an event. A rejected payload is sent back as it came. -/
def payload : Event → Json
  | .newSession view => view.toJson
  | .joinSession view => view.toJson
  | .sync view => view.toJson
  | .invalidSessionId id => .string id
  | .invalidNewData data => data
  | .invalidData data => data
  | .memberNotFound => .null

/-- The view of a session that an event carries. -/
def view? : Event → Option SessionView
  | .newSession view => some view
  | .joinSession view => some view
  | .sync view => some view
  | _ => none

end Event

end WatchParty
