/-
What can go wrong, by cause, and the text that says so.
-/
import WatchParty.Ids

namespace WatchParty

/-- Why a file could not be read as text. -/
inductive FileFault
  | isDirectory
  | notText

def FileFault.message : FileFault → String
  | .isDirectory => "Is a directory (os error 21)"
  | .notText => "stream did not contain valid UTF-8"

inductive Error
  /-- the payload of an event is no JSON text, or not of the event's form -/
  | undecodable (event : String)
  /-- no event of this name is understood -/
  | unknownEvent (event : String)
  /-- a payload of the right form breaks a rule -/
  | invalidData (event : String) (reason : String)
  | sessionNotFound (id : SessionId)
  | sessionClosed (id : SessionId)
  | memberNotFound (id : ConnectionId)
  | connectionClosed (id : ConnectionId)
  | badConfiguration
  | unreadable (fault : FileFault)

/-- The text of an error. What a decoder has to add about the place of a fault is left out. -/
def Error.message : Error → String
  | .undecodable event => "undecodable payload for `" ++ event ++ "`"
  | .unknownEvent event => "unknown event `" ++ event ++ "`"
  | .invalidData event reason => "invalid data for `" ++ event ++ "`: " ++ reason
  | .sessionNotFound id => "session not found: " ++ id.text
  | .sessionClosed id => "session is closed: " ++ id.text
  | .memberNotFound id => "member not found: " ++ id.text
  | .connectionClosed id => "connection closed: " ++ id.text
  | .badConfiguration => "invalid configuration"
  | .unreadable fault => fault.message

end WatchParty
