/-
Running a script. The state of a run is a server and what the script keeps; a session that neither the
registry nor the script refers to any more is gone, and its clock with it.
-/
import WatchParty.Scenario.Action
import WatchParty.Text.Quoted

namespace WatchParty.Scenario

/-- A clock that counts its own ticks. -/
structure Ticker where
  clock : Clock
  ticks : Nat

namespace Ticker

def settle (t : Ticker) (now : Nat) : Ticker :=
  let (clock, ticks) := t.clock.settle now
  { clock, ticks := t.ticks + ticks }

def report (t : Ticker) : ClockReport := ⟨t.ticks, t.clock.cancelled, t.clock.isFinished⟩

end Ticker

structure Run where
  server : Server
  sessions : Std.ExtTreeMap Name SessionRef
  members : Std.ExtTreeMap Name Member
  clocks : Std.ExtTreeMap Name Ticker
  clients : Clients

namespace Run

def start (settings : Settings) : Run := ⟨.start settings, ∅, ∅, ∅, .empty⟩

/-! ## Sessions that are kept -/

/-- The registry or the script refers to a session. -/
def isReferred (run : Run) (r : SessionRef) : Bool :=
  run.server.registered.values.contains r.number ||
    run.sessions.values.any fun kept => kept.number == r.number

/-- Forgets what is kept under a name; tells whether the session is still referred to. -/
def forget (run : Run) (name : Name) : Option Bool × Run :=
  match run.sessions[name]? with
  | none => (none, run)
  | some r =>
    let run := { run with sessions := run.sessions.erase name }
    if run.isReferred r then (some true, run)
    else
      let ended := run.server.modify r fun s => { s with clock := s.clock.cancel }
      (some false, { run with server := ended })

/-- Keeps a session under a name, in place of what was kept there. -/
def keep (run : Run) (name : Name) (r : SessionRef) : Run :=
  let (_, run) := run.forget name
  { run with sessions := run.sessions.insert name r }

/-! ## Actions -/

/-- Does something with a session that is kept. -/
def withSession (run : Run) (name : Name) (f : SessionRef → Reply × Server) : Reply × Run :=
  match run.sessions[name]? with
  | none => (.unknownName, run)
  | some r => let (reply, server) := f r; (reply, { run with server })

/-- Does something with a member that is kept; only its connection can be concerned. -/
def withMember (run : Run) (name : Name) (f : Member → Network → Except Error Unit × Network) :
    Reply × Run :=
  match run.members[name]? with
  | none => (.unknownName, run)
  | some m =>
    let (outcome, network) := f m run.server.network
    let reply : Reply :=
      match outcome with
      | .ok () => .nothing
      | .error e => .failed e
    (reply, { run with server := { run.server with network } })

def lookMember (run : Run) (name : Name) (f : Member → Reply) : Reply × Run :=
  match run.members[name]? with
  | none => (.unknownName, run)
  | some m => (f m, run)

/-- Does something with a clock that is kept, and looks at it. -/
def withClock (run : Run) (name : Name) (f : Clock → Clock) : Reply × Run :=
  match run.clocks[name]? with
  | none => (.unknownName, run)
  | some t =>
    let t := { t with clock := f t.clock }
    (.clock t.report, { run with clocks := run.clocks.insert name t })

/-- A session in words: its id and its video. -/
def describeSession (s : Session) : String :=
  "Session \x7b id: SessionId(" ++ Text.quoted s.id.text ++ "), video_id: " ++
    toString s.videoId.toNat ++ ", .. \x7d"

def describeMember (m : Member) : String :=
  "Member \x7b connection_id: ConnectionId(" ++ Text.quoted m.connection.text ++ "), nickname: " ++
    Text.quoted m.nickname ++ ", session_id: SessionId(" ++ Text.quoted m.session.text ++ ") \x7d"

def idReply : Option SessionId → Reply
  | some id => .id id
  | none => .nothing

def act (run : Run) : Action → Reply × Run
  | .dispatch c event data => (.nothing, { run with server := run.server.dispatch c event data })
  | .disconnect c => (.nothing, { run with server := run.server.disconnect c })
  | .close c => (.nothing, { run with server := run.server.closeConnection c })
  | .reopen c => (.nothing, { run with server := run.server.reopenConnection c })
  | .create name videoId time =>
    let (r, server) := run.server.create videoId time
    (.id r.id, { run with server }.keep name r)
  | .lookup name id =>
    match run.server.lookup id with
    | .ok r => (.id (run.server.session r).id, run.keep name r)
    | .error e => (.failed e, run)
  | .insert name => run.withSession name fun r => (.nothing, run.server.insert r)
  | .destroy id =>
    let (r, server) := run.server.destroy id
    let reply :=
      match r with
      | some r => .destroyed (server.session r)
      | none => .nothing
    (reply, { run with server })
  | .destroyIfEmpty id =>
    let (destroyed, server) := run.server.destroyIfEmpty id
    (.truth destroyed, { run with server })
  | .bind c id =>
    let (previous, server) := run.server.bind c id
    (idReply previous, { run with server })
  | .unbind c =>
    let (outcome, server) := run.server.unbind c
    let reply : Reply :=
      match outcome with
      | .ok u => .unbound u
      | .error e => .failed e
    (reply, { run with server })
  | .newSession name id videoId time =>
    let (r, server) := run.server.newSession id videoId time
    (.id id, { run with server }.keep name r)
  | .play name => run.withSession name fun r => (.nothing, run.server.play r)
  | .pause name => run.withSession name fun r => (.nothing, run.server.pause r)
  | .sync name => run.withSession name fun r => (.nothing, run.server.sync r)
  | .shutdown name => run.withSession name fun r => (.nothing, run.server.shutdown r)
  | .setTime name time => run.withSession name fun r => (.nothing, run.server.setTime r time)
  | .sendToAll name e => run.withSession name fun r => (.nothing, run.server.sendToAll r e)
  | .addMember name c nick keep =>
    match run.sessions[name]? with
    | none => (.unknownName, run)
    | some r =>
      let (outcome, server) := run.server.addMember r c nick
      match outcome with
      | .ok m => (.member m, { run with server, members := run.members.insert keep m })
      | .error e => (.failed e, { run with server })
  | .removeMember name c =>
    run.withSession name fun r =>
      let ((member, remaining), server) := run.server.removeMember r c
      (.removed member remaining, server)
  | .closeIfEmpty name =>
    run.withSession name fun r =>
      let (closed, server) := run.server.closeIfEmpty r
      (.truth closed, server)
  | .view name =>
    run.withSession name fun r =>
      (.view (run.clients.shownView (run.server.session r).view), run.server)
  | .status name =>
    run.withSession name fun r => (.status (run.server.session r).status, run.server)
  | .inspect name =>
    run.withSession name fun r =>
      let s := run.server.session r
      (.session s (ConnectionId.sorted (s.members.keys.map run.clients.shown)), run.server)
  | .describe name =>
    run.withSession name fun r => (.text (describeSession (run.server.session r)), run.server)
  | .drop name =>
    let (alive, run) := run.forget name
    let reply :=
      match alive with
      | some b => .truth b
      | none => .nothing
    (reply, run)
  | .syncMember name view => run.withMember name fun m => m.sync view
  | .sendMember name e => run.withMember name fun m => m.send e
  | .inspectMember name => run.lookMember name .memberView
  | .describeMember name => run.lookMember name fun m => .text (describeMember m)
  | .newClock name period =>
    (.nothing, { run with clocks := run.clocks.insert name ⟨Clock.new (max period 1) (by omega), 0⟩ })
  | .resumeClock name => run.withClock name Clock.resume
  | .stopClock name => run.withClock name Clock.stop
  | .cancelClock name => run.withClock name Clock.cancel
  | .inspectClock name => run.withClock name id
  | .dropClock name =>
    match run.clocks[name]? with
    | none => (.nothing, run)
    | some t => (.count t.ticks, { run with clocks := run.clocks.erase name })

def actAll (run : Run) : List Action → List Reply × Run
  | [] => ([], run)
  | a :: rest =>
    let (reply, run) := run.act a
    let (replies, run) := run.actAll rest
    (reply :: replies, run)

/-! ## Steps -/

def settle (run : Run) : Run :=
  { run with
    server := run.server.settle
    clocks := run.clocks.map fun _ t => t.settle run.server.now }

def elapse (run : Run) (ms : Nat) : Run :=
  { run with server := { run.server with now := run.server.now + ms } }.settle

/-- Accepts a client. A client of the same name that is still connected is cut off. -/
def connect (run : Run) (name : Name) : Run :=
  let left :=
    match run.clients.find? name with
    | some c => run.server.hangUp c
    | none => run.server
  let (c, server) := left.accept
  { run with server, clients := run.clients.add name c }

def withoutClient (run : Run) (name : Name) (server : Server) : Run :=
  { run with server, clients := run.clients.remove name }

def switchingProtocols : Nat := 101

/-- One step before settling, at a given time of the day. -/
def stepUnsettled (run : Run) (timestamp : UInt64) : Step → Reply × Run
  | .single a => run.act a
  | .batch actions =>
    let (replies, run) := run.actAll actions
    (.several replies, run)
  | .tick ms => (.nothing, run.elapse ms)
  | .http r => (.response (run.clients.shownResponse (Http.respond run.server timestamp r)), run)
  | .connect name => (.count switchingProtocols, run.connect name)
  | .frame name f =>
    match run.clients.find? name with
    | some c =>
      let server := run.server.receive c f
      (.nothing, if f.isLast then run.withoutClient name server else { run with server })
    | none => (.unknownName, run)
  | .cut name =>
    match run.clients.find? name with
    | some c => (.truth true, run.withoutClient name (run.server.hangUp c))
    | none => (.truth false, run)

def step (run : Run) (timestamp : UInt64) (s : Step) : Reply × Run :=
  let (reply, run) := run.stepUnsettled timestamp s
  (reply, run.settle)

/-! ## Reports -/

/-- How an event is received. A websocket client reads it from the text of a frame. -/
def received (socket : Bool) (e : Event) : Envelope :=
  let envelope := Envelope.ofEvent e
  if socket then (Envelope.parse? envelope.render).getD envelope else envelope

def Sighting.ofDelivery (clients : Clients) (d : Delivery) : Sighting :=
  let name := clients.shown d.recipient
  match d.content with
  | .event e =>
    let envelope := received (clients.names.contains d.recipient) (clients.shownEvent e)
    ⟨name, envelope.event, envelope.data⟩
  | .pong text => ⟨name, "#pong", .string text⟩
  | .hangUp => ⟨name, "#end", .null⟩

/-- What was delivered since an earlier state, the earliest first. -/
def deliveredSince (run earlier : Run) : List Delivery :=
  let log := run.server.network.log
  (log.take (log.length - earlier.server.network.log.length)).reverse

/-- One step, and what is seen after it. -/
def stepReport (run : Run) (timestamp : UInt64) (s : Step) : Report × Run :=
  let (reply, after) := run.step timestamp s
  let report := {
    reply
    seen := (after.deliveredSince run).map (Sighting.ofDelivery after.clients)
    sessions := after.clients.shownViews after.server.snapshot
    bound := after.server.bindings.toList.map fun (c, id) => (after.clients.shown c, id)
    sessionCount := after.server.sessionCount
    memberCount := after.server.memberCount }
  (report, after)

end Run

end WatchParty.Scenario
