/-
The handlers of many connections in every interleaving of their calls. A `Crowd` is a server with the
handlers that its connections run, one at a time each; a move starts a handler, makes the next call of
one, or is an occurrence around them. `Crowd.Invariant` is what every move keeps: each handler in
progress is safe from where it stands, and each open session without members is tended by the next call
of some handler.
-/
import WatchParty.Proofs.Handler.Requests
import WatchParty.Proofs.Server.Consistent
import WatchParty.Proofs.Server.Input

namespace WatchParty

open Server

/-! ## Handlers side by side -/

/-- What a connection has a handler for. -/
inductive Job
  | request (asked : Request)
  | disconnect

/-- The handler of a job. -/
def Job.handler (c : ConnectionId) : Job → Handler (Except Error Unit)
  | .request asked => Handler.handle c asked
  | .disconnect => do
    let _ ← Handler.disconnect c
    return .ok ()

/-- A handler on its way: its job, and what it still has to do. -/
structure Progress where
  job : Job
  rest : Handler (Except Error Unit)

/-- A server, and for each connection the last handler that it has started. -/
structure Crowd where
  server : Server
  latest : ConnectionId → Option Progress

/-- What may happen next. -/
inductive Move
  | start (c : ConnectionId) (job : Job)
  | call (c : ConnectionId)
  | around (o : Occurrence)

namespace Crowd

/-- A server at its start, and no handler. -/
def start (settings : Settings) : Crowd := ⟨.start settings, fun _ => none⟩

/-- The connection has no handler in progress. -/
def idle (crowd : Crowd) (c : ConnectionId) : Bool :=
  match crowd.latest c with
  | some ⟨_, .call ..⟩ => false
  | _ => true

/-- A handler of the connection stands here now. -/
def put (crowd : Crowd) (c : ConnectionId) (p : Progress) : Crowd :=
  { crowd with latest := fun d => if d = c then some p else crowd.latest d }

/-- One move. A connection starts no handler before its last one has ended, and a call is one of the
server's atomic steps. -/
def move (crowd : Crowd) : Move → Crowd
  | .start c job => if crowd.idle c then crowd.put c ⟨job, job.handler c⟩ else crowd
  | .call c =>
    match crowd.latest c with
    | some ⟨job, .call q next⟩ =>
      let (answer, server) := crowd.server.answer q
      { crowd with server }.put c ⟨job, next answer⟩
    | _ => crowd
  | .around o => { crowd with server := crowd.server.undergo o }

/-- One move after the other. -/
def run (crowd : Crowd) (moves : List Move) : Crowd := moves.foldl move crowd

end Crowd

/-- How a job ends for its connection. -/
def Job.Ended (c : ConnectionId) : Job → Except Error Unit → Server → Prop
  | .request asked => Handler.Ended c asked
  | .disconnect => fun _ => Settled c

theorem Job.Ended.settled {c : ConnectionId} {job : Job} {outcome : Except Error Unit} {sv : Server}
    (h : job.Ended c outcome sv) : Settled c sv := by
  cases job with
  | request asked => exact h.1
  | disconnect => exact h

/-- The handler of a job is safe if its connection is settled. -/
theorem Job.safe_handler {c : ConnectionId} {sv : Server} (hsound : sv.Sound) (h : Settled c sv)
    (job : Job) : (job.handler c).Safe c (job.Ended c) sv := by
  cases job with
  | request asked => exact Handler.safe_handle hsound h asked
  | disconnect =>
    refine (Handler.safe_disconnect hsound h).bind hsound fun _ sv₁ _ hapart => ?_
    exact fun sv₂ h₂ => (hapart.undisturbed h₂.undisturbed).settled

theorem Job.tidy_handler (c : ConnectionId) (job : Job) : (job.handler c).Tidy := by
  cases job with
  | request asked => exact Handler.tidy_handle c asked
  | disconnect => exact (Handler.tidy_disconnect c).bind fun _ => Handler.tidy_pure _

theorem Job.callsAtMost_handler (c : ConnectionId) (job : Job) : (job.handler c).CallsAtMost 7 := by
  cases job with
  | request asked => exact Handler.callsAtMost_handle c asked
  | disconnect =>
    refine Handler.CallsAtMost.bind (n := 5) (Handler.callsAtMost_disconnect c) fun _ => ?_
    exact Handler.callsAtMost_done 5 _

namespace Crowd

/-! ## The invariant -/

/-- What one connection can say of its latest handler. -/
structure OnTrack (sv : Server) (c : ConnectionId) (p : Progress) : Prop where
  safe : p.rest.Safe c (p.job.Ended c) sv
  tidy : p.rest.Tidy
  short : p.rest.CallsAtMost 7

/-- The server is sound, connections without a handler are settled, the handlers are on track, and
each open session without members is tended by the next call of one of them. -/
structure Invariant (crowd : Crowd) : Prop where
  sound : crowd.server.Sound
  settled : ∀ c, crowd.latest c = none → Settled c crowd.server
  onTrack : ∀ c p, crowd.latest c = some p → OnTrack crowd.server c p
  owed : ∀ id, crowd.server.Forsaken id → ∃ c p, crowd.latest c = some p ∧ p.rest.Owes id

variable {crowd : Crowd} {c : ConnectionId}

theorem put_self (crowd : Crowd) (c : ConnectionId) (p : Progress) :
    (crowd.put c p).latest c = some p := by
  unfold put
  simp

theorem put_other (crowd : Crowd) {c d : ConnectionId} (hcd : c ≠ d) (p : Progress) :
    (crowd.put c p).latest d = crowd.latest d := by
  unfold put
  simp [Ne.symm hcd]

/-- A connection without a handler in progress is settled. -/
theorem Invariant.settled_of_idle (h : crowd.Invariant) (hidle : crowd.idle c = true) :
    Settled c crowd.server := by
  cases hp : crowd.latest c with
  | none => exact h.settled c hp
  | some p =>
    obtain ⟨job, rest⟩ := p
    cases rest with
    | done outcome =>
      have hend := (h.onTrack c _ hp).safe.ends_of_done h.sound
      exact Job.Ended.settled hend
    | call q next => simp [idle, hp] at hidle

/-- While no handler is in progress the server is quiescent. -/
theorem Invariant.quiescent (h : crowd.Invariant) (hidle : ∀ c, crowd.idle c = true) :
    crowd.server.Quiescent where
  sound := h.sound
  settled c := h.settled_of_idle (hidle c)
  inhabited id hf := by
    obtain ⟨c, ⟨job, rest⟩, hp, howes⟩ := h.owed id hf
    cases rest with
    | done outcome => exact howes
    | call q next =>
      have hc := hidle c
      simp [idle, hp] at hc

theorem invariant_start (settings : Settings) : (start settings).Invariant where
  sound := sound_start settings
  settled c _ n s hs := by simp [start, Server.start] at hs
  onTrack c p hp := by cases hp
  owed id := by
    rintro ⟨n, s, hs, -⟩
    simp [start, Server.start] at hs

/-! ## Moves -/

/-- A connection may take its handler a step further, and the server with it, if nothing changes for
the others and the handler is on track and tends what nobody else does. -/
theorem Invariant.put (h : crowd.Invariant) {sv : Server} (hsound : sv.Sound)
    (hothers : ∀ d, c ≠ d → Undisturbed d crowd.server sv) {p : Progress} (hp : OnTrack sv c p)
    (howed : ∀ id, sv.Forsaken id → p.rest.Owes id ∨
      ∃ d q, c ≠ d ∧ crowd.latest d = some q ∧ q.rest.Owes id) :
    ({ crowd with server := sv }.put c p).Invariant := by
  refine ⟨hsound, fun d hd => ?_, fun d q hd => ?_, fun id hf => ?_⟩
  · by_cases hcd : c = d
    · subst hcd
      rw [put_self] at hd
      cases hd
    · rw [put_other _ hcd] at hd
      exact (h.settled d hd).undisturbed (hothers d hcd)
  · by_cases hcd : c = d
    · subst hcd
      rw [put_self] at hd
      cases hd
      exact hp
    · rw [put_other _ hcd] at hd
      obtain ⟨hsafe, htidy, hshort⟩ := h.onTrack d q hd
      exact ⟨hsafe.meanwhile ⟨hsound, hothers d hcd⟩, htidy, hshort⟩
  · rcases howed id hf with hnow | ⟨d, q, hcd, hd, howes⟩
    · exact ⟨c, p, put_self _ c p, hnow⟩
    · exact ⟨d, q, by rw [put_other _ hcd]; exact hd, howes⟩

theorem Invariant.start (h : crowd.Invariant) (hidle : crowd.idle c = true) (job : Job) :
    (crowd.put c ⟨job, job.handler c⟩).Invariant := by
  have hsettled := h.settled_of_idle hidle
  refine h.put h.sound (fun d _ => .refl d crowd.server)
    ⟨job.safe_handler h.sound hsettled, job.tidy_handler c, job.callsAtMost_handler c⟩ fun id hf => ?_
  obtain ⟨d, ⟨job', rest⟩, hd, howes⟩ := h.owed id hf
  refine .inr ⟨d, _, ?_, hd, howes⟩
  -- an idle connection owes nothing
  rintro rfl
  cases rest with
  | done outcome => exact howes
  | call q next => simp [idle, hd] at hidle

/-- A call of one handler keeps the others on track, for it is proper. -/
theorem Invariant.call (h : crowd.Invariant) {job : Job} {q : Call}
    {next : q.Answer → Handler (Except Error Unit)}
    (hp : crowd.latest c = some ⟨job, .call q next⟩) :
    ({ crowd with server := (crowd.server.answer q).2 }.put c
      ⟨job, next (crowd.server.answer q).1⟩).Invariant := by
  obtain ⟨hsafe, htidy, hshort⟩ := h.onTrack c _ hp
  obtain ⟨hq, hnext⟩ := hsafe.call_of_sound h.sound
  have hrest : (next (crowd.server.answer q).1).CallsAtMost 6 := hshort _
  refine h.put (h.sound.answer hq) (fun d hcd => .answer h.sound hcd hq)
    ⟨hnext, (htidy _).2, hrest.mono (by omega)⟩ fun id hf => ?_
  rcases htidy.owes_answer hsafe h.sound hf with hnow | ⟨hbefore, hnot⟩
  · exact .inl hnow
  · obtain ⟨d, p, hd, howes⟩ := h.owed id hbefore
    refine .inr ⟨d, p, ?_, hd, howes⟩
    rintro rfl
    rw [hp] at hd
    cases hd
    exact hnot howes

theorem Invariant.around (h : crowd.Invariant) (o : Occurrence) :
    { crowd with server := crowd.server.undergo o }.Invariant := by
  have hsame := sameRoster_undergo crowd.server o
  have hsound := h.sound.sameRoster hsame
  refine ⟨hsound, fun d hd => ?_, fun d p hd => ?_, fun id hf => h.owed id (hsame.forsaken hf)⟩
  · exact (h.settled d hd).undisturbed (.of_sameRoster hsame d)
  · obtain ⟨hsafe, htidy, hshort⟩ := h.onTrack d p hd
    exact ⟨hsafe.meanwhile ⟨hsound, .of_sameRoster hsame d⟩, htidy, hshort⟩

theorem Invariant.move (h : crowd.Invariant) (m : Move) : (crowd.move m).Invariant := by
  cases m with
  | start c job =>
    simp only [Crowd.move]
    by_cases hidle : crowd.idle c = true
    · rw [if_pos hidle]
      exact h.start hidle job
    · rw [if_neg hidle]
      exact h
  | call c =>
    simp only [Crowd.move]
    split
    · rename_i job q next hp
      exact h.call hp
    · exact h
  | around o => exact h.around o

theorem Invariant.run (h : crowd.Invariant) (moves : List Move) : (crowd.run moves).Invariant := by
  unfold Crowd.run
  induction moves generalizing crowd with
  | nil => exact h
  | cons m rest ih => exact ih (h.move m)

/-! ## Every interleaving -/

/-- What a join has come to. Either the connection is a bound member of the session, which is
registered and open, or the session was closed or not registered, and the connection is neither a
member of one of that id nor bound to it. -/
def JoinHolds (sv : Server) (c : ConnectionId) (id : SessionId) : Except Error Unit → Prop
  | .ok () => sv.boundSession? c = some id ∧ ∃ r, sv.registeredRef? id = some r ∧
      (sv.session r).closed = false ∧ c ∈ (sv.session r).members
  | .error e => (e = .sessionClosed id ∨ e = .sessionNotFound id) ∧ sv.boundSession? c ≠ some id ∧
      ∀ (n : Nat) (s : Session), sv.sessions[n]? = some s → s.id = id → c ∉ s.members

theorem Invariant.joinHolds (h : crowd.Invariant) {id : SessionId} {nick : String}
    {outcome : Except Error Unit}
    (hp : crowd.latest c = some ⟨.request (.join id nick), .done outcome⟩) :
    JoinHolds crowd.server c id outcome := by
  have hend := (h.onTrack c _ hp).safe.ends_of_done h.sound
  change Handler.Ended c (.join id nick) outcome crowd.server at hend
  obtain ⟨hsettled, hjoined⟩ := hend
  have hjoined := hjoined id nick rfl
  cases outcome with
  | ok _ => exact ⟨hjoined, h.sound.member_of_bound hjoined⟩
  | error e =>
    obtain ⟨he, hnot⟩ := hjoined
    refine ⟨he.symm, hnot, fun n s hs hid hc => ?_⟩
    rw [← hid] at hnot
    exact hnot (hsettled n s hs hc)

/-- However the calls of the handlers interleave: while none is in progress the server is consistent;
every handler ends after at most seven calls of its own; and a join that has ended has made its
connection a bound member of the session, or left it out of it. -/
theorem run_consistent (settings : Settings) (moves : List Move) :
    let crowd := (start settings).run moves
    ((∀ c, crowd.idle c = true) → crowd.server.Consistent) ∧
    (∀ c p, crowd.latest c = some p → p.rest.CallsAtMost 7) ∧
    ∀ c id nick outcome, crowd.latest c = some ⟨.request (.join id nick), .done outcome⟩ →
      JoinHolds crowd.server c id outcome := by
  intro crowd
  have h : crowd.Invariant := (invariant_start settings).run moves
  refine ⟨fun hidle => (h.quiescent hidle).consistent, fun c p hp => ?_, fun c id nick outcome hp => ?_⟩
  · exact (h.onTrack c p hp).short
  · exact h.joinHolds hp

/-- A join may come between the departure of the last member and the look whether nobody is left. -/
example :
    let alice : ConnectionId := ⟨"alice"⟩
    let bob : ConnectionId := ⟨"bob"⟩
    let id : SessionId := .generated 1
    let entry : List Move := .start alice (.request (.new 1 0 "")) :: List.replicate 6 (.call alice)
    let race : List Move := [.start bob (.request (.join id "")), .call bob, .start alice .disconnect,
      .call alice, .call bob, .call bob, .call bob, .call bob, .call alice]
    let crowd := (start {}).run (entry ++ race)
    crowd.idle alice ∧ crowd.idle bob ∧ crowd.server.boundSession? alice = none ∧
      crowd.server.boundSession? bob = some id ∧ crowd.server.sessionCount = 1 := by decide

end Crowd

end WatchParty
