/-
The registry of a server: which session is registered under an id, and which session each connection
belongs to.

A session that loses its registration is shut down. How the bindings of its members go differs: a
session that is displaced by another of the same id takes along the bindings of those who are its
members, one that is destroyed takes along every binding to its id.
-/
import WatchParty.Server.State

namespace WatchParty

/-- What came of unbinding a connection. -/
structure Unbound where
  /-- the session it belonged to -/
  session : SessionId
  /-- the member who left, if the session still had it -/
  member : Option Member
  /-- how many members are left -/
  remaining : Nat

def Unbound.leavesNobody (u : Unbound) : Bool := u.remaining == 0

namespace Server

def registeredRef? (sv : Server) (id : SessionId) : Option SessionRef :=
  sv.registered[id]?.map (⟨·, id⟩)

/-- The session registered under an id; it is an error if there is none. -/
def lookup (sv : Server) (id : SessionId) : Except Error SessionRef :=
  match sv.registeredRef? id with
  | some r => .ok r
  | none => .error (.sessionNotFound id)

/-- Takes away the bindings of a session's members and shuts it down. -/
def displace (sv : Server) (r : SessionRef) : Server :=
  let members := (sv.session r).members
  { sv with bindings := sv.bindings.filter fun c _ => !members.contains c }.shutdown r

/-- Registers a session under its id. The session registered there before is displaced, even if it is
the same one. -/
def insert (sv : Server) (r : SessionRef) : Server :=
  let registered := { sv with registered := sv.registered.insert r.id r.number }
  match sv.registeredRef? r.id with
  | some displaced => registered.displace displaced
  | none => registered

/-- Makes a session with the next generated id and registers it. -/
def create (sv : Server) (videoId time : UInt64) : SessionRef × Server :=
  let issued := sv.issued + 1
  let (r, sv) := { sv with issued }.newSession (.generated issued) videoId time
  (r, sv.insert r)

/-- Takes a session out of the registry, whoever its members are, with all bindings to its id. -/
def destroy (sv : Server) (id : SessionId) : Option SessionRef × Server :=
  match sv.registeredRef? id with
  | none => (none, sv)
  | some r =>
    (some r,
      { sv with
        registered := sv.registered.erase id
        bindings := sv.bindings.filter fun _ bound => bound != id }.shutdown r)

/-- Takes a session out of the registry if it is closed once it has been closed for having no members;
tells whether it was taken out. -/
def destroyIfEmpty (sv : Server) (id : SessionId) : Bool × Server :=
  match sv.registeredRef? id with
  | none => (false, sv)
  | some r =>
    let (closed, sv) := sv.closeIfEmpty r
    if closed then (true, { sv with registered := sv.registered.erase id }.shutdown r)
    else (false, sv)

def boundSession? (sv : Server) (c : ConnectionId) : Option SessionId := sv.bindings[c]?

/-- Binds a connection to a session; gives the session it was bound to before. -/
def bind (sv : Server) (c : ConnectionId) (id : SessionId) : Option SessionId × Server :=
  (sv.boundSession? c, { sv with bindings := sv.bindings.insert c id })

/-- Unbinds a connection and takes it out of the session registered under the id it was bound to. The
session stays, even if nobody is left in it. -/
def unbind (sv : Server) (c : ConnectionId) : Except Error Unbound × Server :=
  match sv.boundSession? c with
  | none => (.error (.memberNotFound c), sv)
  | some id =>
    let unbound := { sv with bindings := sv.bindings.erase c }
    match unbound.registeredRef? id with
    | none => (.ok ⟨id, none, 0⟩, unbound)
    | some r =>
      let ((member, remaining), left) := unbound.removeMember r c
      (.ok ⟨id, member, remaining⟩, left)

/-- The views of all registered sessions, by id. -/
def snapshot (sv : Server) : List (SessionId × SessionView) :=
  sv.registered.toList.map fun (id, number) => (id, (sv.session ⟨number, id⟩).view)

/-- A snapshot as JSON: an object with a field for each session. -/
def snapshotJson (views : List (SessionId × SessionView)) : Json :=
  .object (views.map fun (id, view) => (id.text, view.toJson))

def sessionCount (sv : Server) : Nat := sv.registered.size

/-- How many connections are bound. -/
def memberCount (sv : Server) : Nat := sv.bindings.size

end Server

end WatchParty
