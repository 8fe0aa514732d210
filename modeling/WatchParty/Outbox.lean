/-
The queue of text frames towards one websocket client. What is emitted to the client is queued as one
frame, until the other end of the queue is gone.
-/
import WatchParty.Address
import WatchParty.Envelope
import WatchParty.Error

namespace WatchParty

/-- The frames on their way to a client, in order. -/
structure Outbox where
  id : ConnectionId
  /-- where the client is, if that is known -/
  remote : Option Address
  /-- somebody still takes frames out of the queue -/
  live : Bool
  frames : List String

namespace Outbox

def new (id : ConnectionId) (remote : Option Address) : Outbox := ⟨id, remote, true, []⟩

/-- Queues a payload under the name of an event, as one text frame. -/
def emit (q : Outbox) (event : String) (data : Json) : Except Error Unit × Outbox :=
  if q.live then (.ok (), { q with frames := q.frames ++ [Envelope.render ⟨event, data⟩] })
  else (.error (.connectionClosed q.id), q)

def send (q : Outbox) (e : Event) : Except Error Unit × Outbox := q.emit e.name e.payload

def cut (q : Outbox) : Outbox := { q with live := false }

end Outbox

end WatchParty
