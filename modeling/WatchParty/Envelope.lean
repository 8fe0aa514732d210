/-
The form of every text frame in both directions: the name of an event and its payload. A frame is
written as an object with the name first; it is read from an object with its fields in any order, or
from an array of the name and the payload. Without a payload it carries null.
-/
import WatchParty.Event

namespace WatchParty

open Json (Token Tree)

structure Envelope where
  event : String
  data : Json

namespace Envelope

def ofEvent (e : Event) : Envelope := ⟨e.name, e.payload⟩

def tokens (e : Envelope) : List Token :=
  .openObject :: .string (some "event") :: .colon :: .string (some e.event) :: .comma ::
    .string (some "data") :: .colon :: (e.data.tokens ++ [.closeObject])

def render (e : Envelope) : String := String.ofList (e.tokens.flatMap Token.chars)

/-- Reads an envelope; its own level counts towards the nesting of the payload. -/
def ofTree? (t : Tree) : Option Envelope := do
  match ← t.arrange? ["event", "data"] with
  | [some event, none] => return ⟨← event.string?, .null⟩
  | [some event, some data] => return ⟨← event.string?, ← data.value? (Json.maxDepth - 1)⟩
  | _ => none

/-- The envelope that a frame's text spells. -/
def parse? (s : String) : Option Envelope := (Tree.parse? s).bind ofTree?

end Envelope

end WatchParty
