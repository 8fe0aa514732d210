/-
The state of a server: all sessions it ever made, which of them are registered under an id, which
connection belongs to which session, the connections themselves, and the time.

A session is found by a reference, which tells it from any other session of the same id. All that
happens to a session happens through `Server.onSession`.
-/
import WatchParty.Session

namespace WatchParty

/-- A session among all that a server ever made: how many were made before it, and its id. -/
structure SessionRef where
  number : Nat
  id : SessionId
  deriving DecidableEq

/-- What a reference to no session stands for: a session that has been shut down, without members. -/
def Session.absent (id : SessionId) : Session where
  id := id
  videoId := 0
  defaultNick := ""
  time := 0
  paused := true
  closed := true
  members := ∅
  clock := (Clock.new 1 (by decide)).cancel

structure Server where
  settings : Settings
  /-- every session ever made, in the order in which they were made -/
  sessions : List Session
  /-- the registered sessions, by number -/
  registered : Std.ExtTreeMap SessionId Nat
  /-- the session that each connection belongs to -/
  bindings : Std.ExtTreeMap ConnectionId SessionId
  /-- how many session ids have been generated -/
  issued : Nat
  /-- how many websocket clients have been accepted -/
  accepted : Nat
  network : Network
  /-- milliseconds since the server started -/
  now : Nat

namespace Server

def start (settings : Settings) : Server where
  settings := settings
  sessions := []
  registered := ∅
  bindings := ∅
  issued := 0
  accepted := 0
  network := .empty
  now := 0

def session (sv : Server) (r : SessionRef) : Session :=
  sv.sessions[r.number]?.getD (.absent r.id)

/-- Applies an operation to one session. -/
def onSession {α : Type} (sv : Server) (r : SessionRef)
    (f : Session → Network → α × Session × Network) : α × Server :=
  let (a, s, network) := f (sv.session r) sv.network
  (a, { sv with sessions := sv.sessions.set r.number s, network })

/-- Changes one session without sending anything. -/
def modify (sv : Server) (r : SessionRef) (f : Session → Session) : Server :=
  { sv with sessions := sv.sessions.set r.number (f (sv.session r)) }

def newSession (sv : Server) (id : SessionId) (videoId time : UInt64) : SessionRef × Server :=
  (⟨sv.sessions.length, id⟩,
    { sv with sessions := sv.sessions ++ [Session.new sv.settings id videoId time] })

/-! ## Single sessions -/

def play (sv : Server) (r : SessionRef) : Server :=
  (sv.onSession r fun s net => ((), s.play net)).2

def pause (sv : Server) (r : SessionRef) : Server :=
  (sv.onSession r fun s net => ((), s.pause net)).2

def setTime (sv : Server) (r : SessionRef) (time : UInt64) : Server :=
  (sv.onSession r fun s net => ((), s.setTime time net)).2

def sync (sv : Server) (r : SessionRef) : Server :=
  { sv with network := (sv.session r).sync sv.network }

def sendToAll (sv : Server) (r : SessionRef) (e : Event) : Server :=
  { sv with network := (sv.session r).broadcast e sv.network }

def addMember (sv : Server) (r : SessionRef) (c : ConnectionId) (nick : String) :
    Except Error Member × Server :=
  sv.onSession r fun s net => s.addMember c nick net

def removeMember (sv : Server) (r : SessionRef) (c : ConnectionId) :
    (Option Member × Nat) × Server :=
  sv.onSession r fun s net => s.removeMember c net

/-- Closes a session that has no members; tells whether it is closed. -/
def closeIfEmpty (sv : Server) (r : SessionRef) : Bool × Server :=
  sv.onSession r fun s net => let (closed, s) := s.closeIfEmpty; (closed, s, net)

def shutdown (sv : Server) (r : SessionRef) : Server := sv.modify r Session.shutdown

/-! ## Connections -/

def send (sv : Server) (c : ConnectionId) (e : Event) : Except Error Unit × Server :=
  let (outcome, network) := sv.network.emit c e
  (outcome, { sv with network })

def deliver (sv : Server) (c : ConnectionId) (content : Content) : Server :=
  { sv with network := sv.network.deliver c content }

/-- From now on the connection refuses what is emitted to it. -/
def closeConnection (sv : Server) (c : ConnectionId) : Server :=
  { sv with network := sv.network.close c }

/-- From now on the connection takes what is emitted to it. -/
def reopenConnection (sv : Server) (c : ConnectionId) : Server :=
  { sv with network := sv.network.reopen c }

/-! ## Time -/

def settle (sv : Server) : Server :=
  { sv with sessions := sv.sessions.map (·.settle sv.now) }

def elapse (sv : Server) (ms : Nat) : Server := { sv with now := sv.now + ms }.settle

end Server

end WatchParty
