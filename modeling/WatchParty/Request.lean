/-
The requests that clients send, and how one is decoded from the name of an event and its payload.

The payload of a request is an object, an array of the fields in their order, or a text that spells
one of these; null stands for an object without fields. A field that is missing or null has its
default. What is of the right form may still break a rule: a new session needs a video, a seek needs a
position, and every request about a session needs the session's id.
-/
import WatchParty.Error
import WatchParty.Json.Tree
import WatchParty.Text.Basic

namespace WatchParty

inductive Verb
  | new
  | join
  | getSync
  | play
  | pause
  | seek
  | leave
  deriving DecidableEq

namespace Verb

def all : List Verb := [.new, .join, .getSync, .play, .pause, .seek, .leave]

def name : Verb → String
  | .new => "flixy new"
  | .join => "flixy join"
  | .getSync => "flixy get sync"
  | .play => "flixy play"
  | .pause => "flixy pause"
  | .seek => "flixy seek"
  | .leave => "flixy leave"

/-- The kind of request that an event makes. -/
def ofName? (event : String) : Option Verb := all.find? fun v => v.name == event

end Verb

inductive Request
  | new (videoId time : UInt64) (nick : String)
  | join (session : SessionId) (nick : String)
  | getSync (session : SessionId)
  | play (session : SessionId)
  | pause (session : SessionId)
  | seek (session : SessionId) (time : UInt64)
  | leave
  deriving DecidableEq

namespace Request

def verb : Request → Verb
  | .new .. => .new
  | .join .. => .join
  | .getSync _ => .getSync
  | .play _ => .play
  | .pause _ => .pause
  | .seek .. => .seek
  | .leave => .leave

/-- The session that a request is about, if it names one. -/
def session? : Request → Option SessionId
  | .new .. => none
  | .join session _ => some session
  | .getSync session => some session
  | .play session => some session
  | .pause session => some session
  | .seek session _ => some session
  | .leave => none

/-! ## Rules -/

/-- The rules that a payload of the right form can break. -/
inductive Flaw
  | noVideo
  | noTime
  | noSession
  deriving DecidableEq

def Flaw.reason : Flaw → String
  | .noVideo => "video_id must be non-zero"
  | .noTime => "time is required"
  | .noSession => "session_id is required"

/-- Why a payload gives no request. -/
inductive Refusal
  /-- it is not of the form that the request has -/
  | malformed
  | flawed (flaw : Flaw)
  deriving DecidableEq

def Refusal.error (event : String) : Refusal → Error
  | .malformed => .undecodable event
  | .flawed flaw => .invalidData event flaw.reason

/-! ## Decoding -/

/-- The payload itself: null is the empty object, and a text is read as JSON, once. -/
def payload? : Json → Option Json
  | .null => some (.object [])
  | .string s => Json.parse? s
  | v => some v

/-- A field of a payload, which has its default if it is missing or null. -/
def field? {α : Type} (read : Json → Option α) (default : α) : Option Json → Option α
  | none => some default
  | some .null => some default
  | some v => read v

/-- A field that may be left open. -/
def open? {α : Type} (read : Json → Option α) : Option Json → Option (Option α) :=
  field? (fun v => (read v).map some) none

/-- A malformed payload refuses. -/
def wellFormed {α : Type} : Option α → Except Refusal α
  | some a => .ok a
  | none => .error .malformed

/-- The session of the given name, which must not be blank. -/
def sessionNamed (name : String) : Except Refusal SessionId :=
  if Text.isAllBlank name then .error (.flawed .noSession) else .ok ⟨name⟩

def newFields? (payload : Json) : Option (UInt64 × UInt64 × String) := do
  match ← payload.arrange ["video_id", "time", "nick"] with
  | [videoId, time, nick] =>
    return (← field? Json.natural? 0 videoId, ← field? Json.natural? 0 time,
      ← field? Json.string? "" nick)
  | _ => none

def joinFields? (payload : Json) : Option (String × String) := do
  match ← payload.arrange ["session_id", "nick"] with
  | [session, nick] => return (← field? Json.string? "" session, ← field? Json.string? "" nick)
  | _ => none

/-- The field of a payload that only names a session. -/
def sessionField? (payload : Json) : Option String := do
  match ← payload.arrange ["session_id"] with
  | [session] => field? Json.string? "" session
  | _ => none

def seekFields? (payload : Json) : Option (String × Option UInt64) := do
  match ← payload.arrange ["session_id", "time"] with
  | [session, time] => return (← field? Json.string? "" session, ← open? Json.natural? time)
  | _ => none

/-- Reads a payload as a request of the given kind. -/
def read (payload : Json) : Verb → Except Refusal Request
  | .new => do
    let (videoId, time, nick) ← wellFormed (newFields? payload)
    if videoId = 0 then .error (.flawed .noVideo) else .ok (.new videoId time nick)
  | .join => do
    let (session, nick) ← wellFormed (joinFields? payload)
    return .join (← sessionNamed session) nick
  | .getSync => do
    let session ← wellFormed (sessionField? payload)
    return .getSync (← sessionNamed session)
  | .play => do
    let session ← wellFormed (sessionField? payload)
    return .play (← sessionNamed session)
  | .pause => do
    let session ← wellFormed (sessionField? payload)
    return .pause (← sessionNamed session)
  | .seek => do
    let (session, time) ← wellFormed (seekFields? payload)
    match time with
    | none => .error (.flawed .noTime)
    | some time => return .seek (← sessionNamed session) time
  | .leave => .ok .leave

/-- Decodes an event and its payload. A text that is no JSON is reported before an unknown event. -/
def decode (event : String) (data : Json) : Except Error Request :=
  match payload? data with
  | none => .error (.undecodable event)
  | some payload =>
    match Verb.ofName? event with
    | none => .error (.unknownEvent event)
    | some verb => (read payload verb).mapError (Refusal.error event)

end Request

end WatchParty
