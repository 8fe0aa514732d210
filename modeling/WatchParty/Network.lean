/-
The connections to the clients, as far as the server sees them: a connection takes an event or
refuses it, and all that was ever delivered is on record, the latest first.
-/
import WatchParty.Error
import WatchParty.Event

namespace WatchParty

inductive Content
  | event (e : Event)
  /-- the answer to a ping -/
  | pong (text : String)
  /-- the server has ended the connection -/
  | hangUp

structure Delivery where
  recipient : ConnectionId
  content : Content

/-- The connections: those that refuse events, and the record of all deliveries, the latest first. -/
structure Network where
  refusing : Std.ExtTreeMap ConnectionId Unit
  log : List Delivery

namespace Network

/-- No connection refuses, and nothing has been delivered. -/
def empty : Network := ⟨∅, []⟩

def isOpen (net : Network) (c : ConnectionId) : Bool := !net.refusing.contains c

/-- From now on the connection refuses. -/
def close (net : Network) (c : ConnectionId) : Network :=
  { net with refusing := net.refusing.insert c () }

/-- From now on the connection takes what is emitted. -/
def reopen (net : Network) (c : ConnectionId) : Network :=
  { net with refusing := net.refusing.erase c }

def deliver (net : Network) (c : ConnectionId) (content : Content) : Network :=
  { net with log := ⟨c, content⟩ :: net.log }

/-- Emits an event to a connection. A connection that refuses makes this an error. -/
def emit (net : Network) (c : ConnectionId) (e : Event) : Except Error Unit × Network :=
  if net.isOpen c then (.ok (), net.deliver c (.event e)) else (.error (.connectionClosed c), net)

/-- Emits an event to one connection after the other. A failure concerns its connection alone. -/
def emitAll (net : Network) (cs : List ConnectionId) (e : Event) : Network :=
  cs.foldl (fun net c => (net.emit c e).2) net

end Network

end WatchParty
