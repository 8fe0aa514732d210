/-
What the server does for the events of its clients: the handler of each request, and the answer to an
event that is no request or whose handler fails. A failure is answered to the connection that the event
came from, and to nobody else.
-/
import WatchParty.Handler
import WatchParty.Request

namespace WatchParty

namespace Handler

/-! ## Requests -/

/-- Takes a connection out of its session, and the session out of the registry if that leaves it
empty. -/
def depart (c : ConnectionId) : Handler (Except Error SessionId) := do
  match ← ask (.unbind c) with
  | .error e => return .error e
  | .ok unbound =>
    if unbound.leavesNobody then
      let _ ← ask (.destroyIfEmpty unbound.session)
    return .ok unbound.session

/-- Makes a connection a member of a session and binds it. -/
def enrol (c : ConnectionId) (r : SessionRef) (nick : String) : Handler (Except Error Unit) := do
  match ← ask (.addMember r c nick) with
  | .error e => return .error e
  | .ok _ =>
    let _ ← ask (.bind c r.id)
    return .ok ()

/-- Leaves the current session, if there is one, for a new one with the connection as its only
member. -/
def newSession (c : ConnectionId) (videoId time : UInt64) (nick : String) :
    Handler (Except Error Unit) := do
  let _ ← depart c
  let r ← ask (.create videoId time)
  match ← enrol c r nick with
  | .error e => return .error e
  | .ok () =>
    let view ← ask (.view r)
    let _ ← ask (.send c (.newSession view))
    return .ok ()

/-- Leaves the current session, unless it is the one to join, and joins. -/
def join (c : ConnectionId) (session : SessionId) (nick : String) :
    Handler (Except Error Unit) := do
  match ← ask (.lookup session) with
  | .error e => return .error e
  | .ok r =>
    let bound : Option SessionId ← ask (.boundSession c)
    if bound ≠ some r.id then
      let _ ← depart c
    enrol c r nick

def getSync (c : ConnectionId) (session : SessionId) : Handler (Except Error Unit) := do
  match ← ask (.lookup session) with
  | .error e => return .error e
  | .ok r =>
    let view ← ask (.view r)
    ask (.send c (.sync view))

/-- Looks a session up and makes one call on it. -/
def onSession (session : SessionId) (q : SessionRef → Call) : Handler (Except Error Unit) := do
  match ← ask (.lookup session) with
  | .error e => return .error e
  | .ok r =>
    let _ ← ask (q r)
    return .ok ()

def handle (c : ConnectionId) : Request → Handler (Except Error Unit)
  | .new videoId time nick => newSession c videoId time nick
  | .join session nick => join c session nick
  | .getSync session => getSync c session
  | .play session => onSession session .play
  | .pause session => onSession session .pause
  | .seek session time => onSession session (.setTime · time)
  | .leave => do
    match ← depart c with
    | .error e => return .error e
    | .ok _ => return .ok ()

end Handler

/-! ## Events -/

/-- The event that tells a client of a failure. A payload that is refused is sent back as it came. A
failure of the connection itself is not told. -/
def Error.reply? (event : String) (data : Json) : Error → Option Event
  | .undecodable _ => some (.invalidData data)
  | .unknownEvent _ => some (.invalidData data)
  | .invalidData .. =>
    if event = Verb.new.name then some (.invalidNewData data) else some (.invalidData data)
  | .sessionNotFound id => some (.invalidSessionId id.text)
  | .sessionClosed id => some (.invalidSessionId id.text)
  | .memberNotFound _ => some .memberNotFound
  | .connectionClosed _ => none
  | .badConfiguration => none
  | .unreadable _ => none

namespace Handler

/-- Tells a connection that its event failed. -/
def tellFailure (c : ConnectionId) (event : String) (data : Json) (e : Error) : Handler Unit :=
  match e.reply? event data with
  | none => return ()
  | some reply => do
    let _ ← ask (.send c reply)
    return ()

/-- The program for an event of a connection. -/
def dispatch (c : ConnectionId) (event : String) (data : Json) : Handler Unit :=
  match Request.decode event data with
  | .error e => tellFailure c event data e
  | .ok request => do
    match ← handle c request with
    | .error e => tellFailure c request.verb.name data e
    | .ok () => return ()

/-- The program for the end of a connection. -/
def disconnect (c : ConnectionId) : Handler Unit := do
  let _ ← depart c
  return ()

end Handler

namespace Server

def dispatch (sv : Server) (c : ConnectionId) (event : String) (data : Json) : Server :=
  ((Handler.dispatch c event data).run sv).2

def disconnect (sv : Server) (c : ConnectionId) : Server := ((Handler.disconnect c).run sv).2

end Server

end WatchParty
