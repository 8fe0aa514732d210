/-
The websocket clients of a script. The server makes an id for every client that it accepts; the script
knows its clients by names of its own, and all that is shown to it bears these names. A client that
comes back under its old name is a new one to the server, and both are shown under that name.
-/
import WatchParty.Http

namespace WatchParty.Scenario

/-- A name that a script gives to something it keeps. -/
abbrev Name := String

structure Clients where
  /-- those that are connected -/
  connected : Std.ExtTreeMap Name ConnectionId
  /-- the names of all that were ever accepted -/
  names : Std.ExtTreeMap ConnectionId Name

namespace Clients

/-- No client has been accepted. -/
def empty : Clients := ⟨∅, ∅⟩

/-- The connection of the client that is connected under a name. -/
def find? (clients : Clients) (name : Name) : Option ConnectionId := clients.connected[name]?

def add (clients : Clients) (name : Name) (c : ConnectionId) : Clients :=
  ⟨clients.connected.insert name c, clients.names.insert c name⟩

/-- A client is gone. Its connection keeps the name. -/
def remove (clients : Clients) (name : Name) : Clients :=
  { clients with connected := clients.connected.erase name }

/-! ## What is shown under the names -/

/-- What a connection is shown as. One that is no client's is shown as it is. -/
def shown (clients : Clients) (c : ConnectionId) : ConnectionId :=
  match clients.names[c]? with
  | some name => ⟨name⟩
  | none => c

/-- A view with its members under the names. -/
def shownView (clients : Clients) (v : SessionView) : SessionView :=
  { v with
    members := Std.ExtTreeMap.ofList (v.members.toList.map fun (c, m) => (clients.shown c, m)) }

/-- Views of sessions with their members under the names. -/
def shownViews (clients : Clients) (views : List (SessionId × SessionView)) :
    List (SessionId × SessionView) :=
  views.map fun (id, v) => (id, clients.shownView v)

/-- An event with the members under the names. -/
def shownEvent (clients : Clients) : Event → Event
  | .newSession v => .newSession (clients.shownView v)
  | .joinSession v => .joinSession (clients.shownView v)
  | .sync v => .sync (clients.shownView v)
  | e => e

/-- A page with the members under the names. -/
def shownContent (clients : Clients) : Http.Content → Http.Content
  | .sessions views => .sessions (clients.shownViews views)
  | .session v => .session (clients.shownView v)
  | content => content

/-- An answer with the members under the names. -/
def shownResponse (clients : Clients) (r : Http.Response) : Http.Response :=
  { r with content := clients.shownContent r.content }

end Clients

end WatchParty.Scenario
