/-
What clients are told about a session: the video, the position, whether it is paused, and who is in
it. A view is written as one flat JSON object, and read back from such an object whose fields stand in
any order and may be joined by others.
-/
import WatchParty.Ids
import WatchParty.Json.Tree

namespace WatchParty

open Json (Tree)

/-- Where a session is, without its name and members. -/
structure StatusView where
  videoId : UInt64
  time : UInt64
  paused : Bool
  deriving DecidableEq

structure MemberView where
  nick : String
  deriving DecidableEq

structure SessionView where
  id : SessionId
  status : StatusView
  members : Std.ExtTreeMap ConnectionId MemberView

namespace StatusView

def toJson (s : StatusView) : Json :=
  .object [("paused", .bool s.paused), ("time", .natural s.time), ("video_id", .natural s.videoId)]

/-- The fields of a status in the order in which an array lists them. -/
def fieldNames : List String := ["video_id", "time", "paused"]

/-- The status that the three fields give; none of them may be missing. -/
def ofFields? : List (Option Tree) → Option StatusView
  | [some videoId, some time, some paused] => do
    return ⟨← videoId.natural?, ← time.natural?, ← paused.bool?⟩
  | _ => none

/-- Reads an object, or an array of exactly the three fields. -/
def ofTree? (t : Tree) : Option StatusView := (t.arrange? fieldNames).bind ofFields?

end StatusView

namespace MemberView

def toJson (m : MemberView) : Json := .object [("nick", .string m.nick)]

/-- Reads an object, or an array of exactly the nickname. -/
def ofTree? (t : Tree) : Option MemberView := do
  match ← t.arrange? ["nick"] with
  | [some nick] => return ⟨← nick.string?⟩
  | _ => none

end MemberView

namespace SessionView

/-- The members by the text of their connection's id. -/
def membersJson (members : Std.ExtTreeMap ConnectionId MemberView) : Json :=
  .object (members.toList.map fun (id, m) => (id.text, m.toJson))

def toJson (v : SessionView) : Json :=
  .object [("members", membersJson v.members), ("paused", .bool v.status.paused),
    ("session_id", .string v.id.text), ("time", .natural v.status.time),
    ("video_id", .natural v.status.videoId)]

/-- Reads a table of members; of two entries with one name the later one counts. -/
def membersOfTree? : Tree → Option (Std.ExtTreeMap ConnectionId MemberView)
  | .object fields => do
    let named ← Tree.names? fields
    let entries ← named.mapM fun (name, t) => (MemberView.ofTree? t).map ((⟨name⟩ : ConnectionId), ·)
    return Std.ExtTreeMap.ofList entries
  | _ => none

/-- Reads an object. A field of the view occurs once, and every field that is neither the session's
name nor its members must have a value that nests less deeply than the object itself may. -/
def ofTree? : Tree → Option SessionView
  | .object fields => do
    let named ← Tree.names? fields
    let id ← (← Tree.single? "session_id" named).bind Tree.string?
    let members ← (← Tree.single? "members" named).bind membersOfTree?
    let others := named.filter fun (name, _) => name != "session_id" && name != "members"
    let _ ← others.mapM fun (_, t) => t.value? (Json.maxDepth - 1)
    let status ← (← StatusView.fieldNames.mapM (Tree.single? · others)) |> StatusView.ofFields?
    return ⟨⟨id⟩, status, members⟩
  | _ => none

end SessionView

end WatchParty
