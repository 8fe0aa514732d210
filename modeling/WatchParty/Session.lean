/-
A watch session: the position in a video that a group of members shares, and the rules by which it
plays, pauses, moves, and tells its members. Every operation gives the session afterwards and the
network with what was sent.

A session is closed once and for all. A closed session takes no members and does not play; closing it
by `shutdown` also pauses it and ends its clock.
-/
import WatchParty.Clock
import WatchParty.Config
import WatchParty.Network
import WatchParty.Text.Basic
import WatchParty.Text.Percent

namespace WatchParty

/-- Someone who takes part in a session. -/
structure Member where
  connection : ConnectionId
  nickname : String
  session : SessionId
  deriving DecidableEq

namespace Member

/-- What others are told about a member. -/
def view (m : Member) : MemberView := ⟨m.nickname⟩

def send (m : Member) (e : Event) (net : Network) : Except Error Unit × Network :=
  net.emit m.connection e

/-- Tells the member where its session is. -/
def sync (m : Member) (view : SessionView) (net : Network) : Except Error Unit × Network :=
  m.send (.sync view) net

end Member

structure Session where
  id : SessionId
  videoId : UInt64
  defaultNick : String
  time : UInt64
  paused : Bool
  closed : Bool
  members : Std.ExtTreeMap ConnectionId Member
  clock : Clock

namespace Session

/-- A new session: paused, without members, and with a clock that has not started. A tick of zero counts as
one millisecond. -/
def new (settings : Settings) (id : SessionId) (videoId time : UInt64) : Session where
  id := id
  videoId := videoId
  defaultNick := settings.defaultNick
  time := time
  paused := true
  closed := false
  members := ∅
  clock := Clock.new (max settings.tickMs.toNat 1) (by omega)

/-! ## Views -/

def status (s : Session) : StatusView := ⟨s.videoId, s.time, s.paused⟩

/-- What clients are told about the session. -/
def view (s : Session) : SessionView where
  id := s.id
  status := s.status
  members := s.members.map fun _ m => m.view

def audience (s : Session) : List ConnectionId := s.members.toList.map fun (_, m) => m.connection

/-- The place on the web where one watches along. -/
def watchUrl (s : Session) : String :=
  "https://www.netflix.com/watch/" ++ toString s.videoId.toNat ++ "?flixySessionId=" ++
    Text.percentEncode s.id.text

/-! ## Telling the members -/

def broadcast (s : Session) (e : Event) (net : Network) : Network := net.emitAll s.audience e

/-- Tells every member where the session is. -/
def sync (s : Session) (net : Network) : Network := s.broadcast (.sync s.view) net

/-! ## Playback -/

/-- Lets the clock run and tells everyone. A closed session does nothing. -/
def play (s : Session) (net : Network) : Session × Network :=
  if s.closed then (s, net)
  else
    let playing := { s with paused := false, clock := s.clock.resume }
    (playing, playing.sync net)

/-- Freezes playback and tells everyone. -/
def pause (s : Session) (net : Network) : Session × Network :=
  let frozen := { s with paused := true, clock := s.clock.stop }
  (frozen, frozen.sync net)

/-- Moves to a position and tells everyone. -/
def setTime (s : Session) (time : UInt64) (net : Network) : Session × Network :=
  let moved := { s with time }
  (moved, moved.sync net)

/-- The position after a number of ticks. It stays at the largest one when it reaches it. -/
def advance (s : Session) (ticks : Nat) : UInt64 :=
  UInt64.ofNat (min (2 ^ 64 - 1) (s.time.toNat + ticks * s.clock.period))

/-- Lets the clock settle at an instant. Its ticks move playback unless the session is paused or
closed. -/
def settle (s : Session) (now : Nat) : Session :=
  let (clock, ticks) := s.clock.settle now
  { s with clock, time := if s.paused || s.closed then s.time else s.advance ticks }

/-! ## Members -/

/-- The nickname for what a member asked for: without the white space around it, or the default one if
nothing is left. -/
def nicknameFor (s : Session) (nick : String) : String :=
  let trimmed := Text.trim nick
  if trimmed = "" then s.defaultNick else trimmed

/-- Adds a member, who is told the whole session first, and then everyone is told. A closed session
refuses. A member who is in the session already changes its nickname. -/
def addMember (s : Session) (c : ConnectionId) (nick : String) (net : Network) :
    Except Error Member × Session × Network :=
  if s.closed then (.error (.sessionClosed s.id), s, net)
  else
    let member : Member := ⟨c, s.nicknameFor nick, s.id⟩
    let joined := { s with members := s.members.insert c member }
    let (_, told) := member.send (.joinSession joined.view) net
    (.ok member, joined, joined.sync told)

/-- Removes a member and tells those who remain; gives the member, if there was one, and the number of
those who remain. -/
def removeMember (s : Session) (c : ConnectionId) (net : Network) :
    (Option Member × Nat) × Session × Network :=
  match s.members[c]? with
  | none => ((none, s.members.size), s, net)
  | some member =>
    let left := { s with members := s.members.erase c }
    ((some member, left.members.size), left,
      if left.members.isEmpty then net else left.sync net)

/-! ## Closing -/

/-- Closes the session if it has no members; tells whether it is closed. -/
def closeIfEmpty (s : Session) : Bool × Session :=
  let s := if s.members.isEmpty then { s with closed := true } else s
  (s.closed, s)

/-- Closes the session, pauses it and ends its clock. -/
def shutdown (s : Session) : Session :=
  { s with closed := true, paused := true, clock := s.clock.cancel }

end Session

end WatchParty
