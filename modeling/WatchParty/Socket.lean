/-
Websocket clients. A client sends frames; text frames carry envelopes, whose events are dispatched
like those of any other connection, and a text that is no envelope is sent back. The connection ends
with a close frame, with a ping or pong that is too long, or when the line is cut; each time the client
leaves its session. No connection comes back: a client that does has a new one, with an id of its own.
-/
import WatchParty.Envelope
import WatchParty.Dispatch

namespace WatchParty

inductive Frame
  | text (s : String)
  | binary (s : String)
  | ping (s : String)
  | pong (s : String)
  | close

/-- The most bytes that a ping or a pong may carry. -/
def maxPingBytes : Nat := 125

/-- The server ends the connection because of the frame. -/
def Frame.isLast : Frame → Bool
  | .ping s => maxPingBytes < s.utf8ByteSize
  | .pong s => maxPingBytes < s.utf8ByteSize
  | .close => true
  | _ => false

namespace Server

/-- Accepts a websocket client and makes an id for its connection. -/
def accept (sv : Server) : ConnectionId × Server :=
  let accepted := sv.accepted + 1
  (.generated accepted, { sv with accepted })

/-- The connection of a client is at its end. -/
def hangUp (sv : Server) (c : ConnectionId) : Server := (sv.disconnect c).closeConnection c

def receiveText (sv : Server) (c : ConnectionId) (text : String) : Server :=
  match Envelope.parse? text with
  | some envelope => sv.dispatch c envelope.event envelope.data
  | none => (sv.send c (.invalidData (.string text))).2

/-- Ends the connection of a client, who sees it. -/
def endConnection (sv : Server) (c : ConnectionId) : Server := (sv.hangUp c).deliver c .hangUp

/-- Handles a frame. A ping is answered on the line itself; a binary frame and a pong have no meaning. -/
def receive (sv : Server) (c : ConnectionId) (f : Frame) : Server :=
  if f.isLast then sv.endConnection c
  else match f with
    | .text s => sv.receiveText c s
    | .ping s => sv.deliver c (.pong s)
    | _ => sv

end Server

end WatchParty
