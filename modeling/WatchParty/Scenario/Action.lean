/-
Scripted runs of a server: what a script can do, and what it is answered. A script keeps hold of
sessions, members, clocks and clients under names of its own, of which the server knows nothing.
-/
import WatchParty.Scenario.Clients
import WatchParty.Socket

namespace WatchParty.Scenario

/-- What a script does between two settlings. -/
inductive Action
  -- events of plain connections
  | dispatch (c : ConnectionId) (event : String) (data : Json)
  | disconnect (c : ConnectionId)
  | close (c : ConnectionId)
  | reopen (c : ConnectionId)
  -- the registry
  | create (keep : Name) (videoId time : UInt64)
  | lookup (keep : Name) (id : SessionId)
  | insert (session : Name)
  | destroy (id : SessionId)
  | destroyIfEmpty (id : SessionId)
  | bind (c : ConnectionId) (id : SessionId)
  | unbind (c : ConnectionId)
  -- sessions
  | newSession (keep : Name) (id : SessionId) (videoId time : UInt64)
  | play (session : Name)
  | pause (session : Name)
  | sync (session : Name)
  | shutdown (session : Name)
  | setTime (session : Name) (time : UInt64)
  | sendToAll (session : Name) (e : Event)
  | addMember (session : Name) (c : ConnectionId) (nick : String) (keep : Name)
  | removeMember (session : Name) (c : ConnectionId)
  | closeIfEmpty (session : Name)
  | view (session : Name)
  | status (session : Name)
  | inspect (session : Name)
  | describe (session : Name)
  | drop (session : Name)
  -- members
  | syncMember (member : Name) (view : SessionView)
  | sendMember (member : Name) (e : Event)
  | inspectMember (member : Name)
  | describeMember (member : Name)
  -- clocks on their own, of a period of one millisecond at least
  | newClock (keep : Name) (period : Nat)
  | resumeClock (clock : Name)
  | stopClock (clock : Name)
  | cancelClock (clock : Name)
  | inspectClock (clock : Name)
  | dropClock (clock : Name)

/-- One step of a script. After each the server settles. -/
inductive Step
  | single (a : Action)
  | batch (actions : List Action)
  | tick (ms : Nat)
  | http (r : Http.Request)
  | connect (client : Name)
  | frame (client : Name) (f : Frame)
  | cut (client : Name)

structure ClockReport where
  ticks : Nat
  cancelled : Bool
  finished : Bool
  deriving DecidableEq

inductive Reply
  | nothing
  /-- nothing is kept under the name -/
  | unknownName
  | failed (e : Error)
  | truth (b : Bool)
  | text (s : String)
  | id (id : SessionId)
  | count (n : Nat)
  | member (m : Member)
  | memberView (m : Member)
  | removed (m : Option Member) (remaining : Nat)
  | unbound (u : Unbound)
  /-- the session, and the connections of its members in order -/
  | session (s : Session) (members : List ConnectionId)
  | destroyed (s : Session)
  | view (v : SessionView)
  | status (v : StatusView)
  | clock (r : ClockReport)
  | response (r : Http.Response)
  | several (replies : List Reply)

/-- Something a client has seen: the name of an event and its payload. -/
structure Sighting where
  client : ConnectionId
  name : String
  payload : Json

structure Report where
  reply : Reply
  /-- what the clients received during the step, in order -/
  seen : List Sighting
  sessions : List (SessionId × SessionView)
  bound : List (ConnectionId × SessionId)
  sessionCount : Nat
  memberCount : Nat

end WatchParty.Scenario
