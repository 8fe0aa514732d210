/-
What moves playback: the ticks of a clock, and a seek. `Server.perform_cases` says of every operation on
a server that it either lets time pass and the clocks settle, or takes the sessions through changes
that are still, except for a move to where the operation asks a session to be.
-/
import WatchParty.Proofs.Handler.Makes
import WatchParty.Proofs.Server.Evolution
import WatchParty.Proofs.Server.Operation

namespace WatchParty

/-! ## Handlers -/

theorem Call.Plain.moveless {q : Call} (hq : q.Plain) : q.Moveless := by
  cases q with
  | setTime r time => exact hq
  | _ => trivial

namespace Handler

variable {α : Type}

/-- All calls of a handler that sets no session to a position, in a row. -/
theorem Makes.still {h : Handler α} (hh : h.Makes Call.Moveless) (sv : Server) :
    sv.EvolvesStill (h.run sv).2 := by
  induction h generalizing sv with
  | done a => exact .refl sv
  | call q next ih =>
    have hfirst : sv.EvolvesStill (sv.answer q).2 := hh.1.still sv
    exact hfirst.trans (ih (sv.answer q).1 (hh.2 _) (sv.answer q).2)

theorem Makes.moveless {h : Handler α} (hh : h.Makes Call.Plain) : h.Makes Call.Moveless :=
  hh.mono fun _ hq => hq.moveless

/-- Every request but a seek leaves the positions of all sessions to their clocks. -/
theorem moveless_handle (c : ConnectionId) {request : Request}
    (h : ∀ id time, request ≠ .seek id time) : (handle c request).Makes Call.Moveless := by
  refine (mayCall_handle c request).mono fun q hq => ?_
  cases q with
  | setTime r time =>
    obtain ⟨id, hseek⟩ := hq
    exact h id time hseek
  | _ => trivial

theorem moveless_tellFailure (c : ConnectionId) (event : String) (data : Json) (e : Error) :
    (tellFailure c event data e).Makes Call.Moveless := by
  unfold tellFailure
  split
  · trivial
  · exact Makes.bind (makes_ask trivial) fun _ => trivial

theorem moveless_disconnect (c : ConnectionId) : (disconnect c).Makes Call.Moveless :=
  Makes.bind (makes_depart c).moveless fun _ => trivial

end Handler

/-! ## Operations -/

/-- How long an operation lets time pass before all clocks settle, if it lets them settle. -/
def Operation.elapses? : Operation → Option Nat
  | .input (.around .settle) => some 0
  | .input (.around (.elapse ms)) => some ms
  | _ => none

namespace Server

open Session (Change)

variable {sv : Server}

/-- The event is a seek of the session of the number, which is registered. -/
def Seeks (sv : Server) (n : Nat) (time : UInt64) (event : String) (data : Json) : Prop :=
  ∃ id, Request.decode event data = .ok (.seek id time) ∧ sv.registered[id]? = some n

/-- The operation asks for the session of the number to be at the position. -/
def MovesTo (sv : Server) (n : Nat) (time : UInt64) : Operation → Prop
  | .onSession m (.setTime t) => m = n ∧ t = time
  | .input (.dispatch _ event data) => sv.Seeks n time event data
  | .input (.receive _ (.text text)) =>
    ∃ envelope, Envelope.parse? text = some envelope ∧ sv.Seeks n time envelope.event envelope.data
  | _ => False

/-- A change of the session of the number that an operation may bring about. -/
def Allows (sv : Server) (o : Operation) (n : Nat) : Change → Prop
  | .moveTo time => sv.MovesTo n time o
  | .closeIfEmpty => o = .onSession n .closeIfEmpty
  | .endClock => o = .onSession n .drop
  | .settle now => ∃ ms, o.elapses? = some ms ∧ now = sv.now + ms
  | _ => True

theorem allows_still {o : Operation} {n : Nat} {x : Change} (hx : x.Still) : sv.Allows o n x := by
  cases x with
  | play => trivial
  | pause => trivial
  | enter c nick => trivial
  | leave c => trivial
  | shutdown => trivial
  | _ => exact absurd hx fun h => h

theorem EvolvesStill.allowed {sv' : Server} (h : sv.EvolvesStill sv') (o : Operation) :
    sv.Evolves (sv.Allows o) sv' :=
  h.mono fun _ _ hx => allows_still hx

theorem evolves_setTime {kind : Nat → Change → Prop} {r : SessionRef} {time : UInt64}
    (hkind : kind r.number (.moveTo time)) : sv.Evolves kind (sv.setTime r time) :=
  evolves_onSession fun _ _ => .inr ⟨.moveTo time, hkind, rfl⟩

/-- A seek moves the session that is registered under the id, if there is one. -/
theorem evolves_seek {kind : Nat → Change → Prop} {c : ConnectionId} {id : SessionId} {time : UInt64}
    (hkind : ∀ n, sv.registered[id]? = some n → kind n (.moveTo time)) :
    sv.Evolves kind ((Handler.handle c (.seek id time)).run sv).2 := by
  unfold Handler.handle Handler.onSession
  rw [Handler.run_bind, Handler.run_ask]
  simp only [Server.answer, lookup, registeredRef?]
  cases hn : sv.registered[id]? with
  | none => exact .refl sv
  | some n => exact evolves_setTime (r := ⟨n, id⟩) (hkind n hn)

/-- An event moves playback only if it is a seek. -/
theorem evolves_dispatch {kind : Nat → Change → Prop} {event : String} {data : Json}
    (hstill : ∀ n x, x.Still → kind n x)
    (hseek : ∀ n time, sv.Seeks n time event data → kind n (.moveTo time)) (c : ConnectionId) :
    sv.Evolves kind (sv.dispatch c event data) := by
  unfold Server.dispatch Handler.dispatch
  cases hd : Request.decode event data with
  | error e => exact ((Handler.moveless_tellFailure c event data e).still sv).mono hstill
  | ok request =>
    simp only [Handler.run_bind]
    generalize hran : (Handler.handle c request).run sv = ran
    have hfirst : sv.Evolves kind ran.2 := by
      rw [← hran]
      by_cases hrequest : ∃ id time, request = .seek id time
      · obtain ⟨id, time, rfl⟩ := hrequest
        exact evolves_seek fun n hn => hseek n time ⟨id, hd, hn⟩
      · have hmoveless : (Handler.handle c request).Makes Call.Moveless :=
          Handler.moveless_handle c fun id time heq => hrequest ⟨id, time, heq⟩
        exact (hmoveless.still sv).mono hstill
    refine hfirst.trans ?_
    obtain ⟨outcome, sv'⟩ := ran
    cases outcome with
    | error e => exact ((Handler.moveless_tellFailure c _ data e).still sv').mono hstill
    | ok _ => exact .refl sv'

theorem still_disconnect (sv : Server) (c : ConnectionId) : sv.EvolvesStill (sv.disconnect c) :=
  (Handler.moveless_disconnect c).still sv

theorem still_hangUp (sv : Server) (c : ConnectionId) : sv.EvolvesStill (sv.hangUp c) :=
  (still_disconnect sv c).trans (.of_sessions rfl rfl rfl)

theorem evolves_receive (sv : Server) (c : ConnectionId) (f : Frame) :
    sv.Evolves (sv.Allows (.input (.receive c f))) (sv.receive c f) := by
  unfold Server.receive
  split
  · have hended : sv.EvolvesStill (sv.endConnection c) :=
      (still_hangUp sv c).trans (.of_sessions rfl rfl rfl)
    exact hended.allowed _
  · cases f with
    | text text =>
      change sv.Evolves _ (sv.receiveText c text)
      unfold receiveText
      cases hparse : Envelope.parse? text with
      | none => exact .of_sessions rfl rfl rfl
      | some envelope =>
        refine evolves_dispatch (fun _ _ => allows_still) (fun n time hseeks => ?_) c
        exact ⟨envelope, hparse, hseeks⟩
    | _ => exact .of_sessions rfl rfl rfl

theorem evolves_operate (sv : Server) (n : Nat) (id : SessionId) (o : SessionOperation) :
    sv.Evolves (sv.Allows (.onSession n o)) (sv.operate ⟨n, id⟩ o) := by
  cases o with
  | insert => exact (still_insert sv _).allowed _
  | play => exact (still_play sv _).allowed _
  | pause => exact (still_pause sv _).allowed _
  | sync => exact .of_sessions rfl rfl rfl
  | setTime time => exact evolves_setTime ⟨rfl, rfl⟩
  | sendToAll e => exact .of_sessions rfl rfl rfl
  | addMember c nick => exact (still_addMember sv _ c nick).allowed _
  | removeMember c => exact (still_removeMember sv _ c).allowed _
  | closeIfEmpty => exact evolves_onSession fun _ _ => .inr ⟨.closeIfEmpty, rfl, rfl⟩
  | shutdown => exact (still_shutdown sv _).allowed _
  | drop => exact evolves_modify (x := .endClock) rfl fun _ => rfl

/-! ## Every operation -/

theorem settle_eq_elapse (sv : Server) : sv.settle = sv.elapse 0 := rfl

/-- An operation either lets some time pass and all clocks settle, or changes the sessions in the ways
that it allows. -/
theorem perform_cases (sv : Server) (o : Operation) :
    (∃ ms, o.elapses? = some ms ∧ sv.perform o = sv.elapse ms) ∨
      (o.elapses? = none ∧ sv.Evolves (sv.Allows o) (sv.perform o)) := by
  cases o with
  | input i =>
    cases i with
    | dispatch c event data =>
      refine .inr ⟨rfl, evolves_dispatch (fun _ _ => allows_still) (fun n time hseeks => ?_) c⟩
      exact hseeks
    | disconnect c => exact .inr ⟨rfl, (still_disconnect sv c).allowed _⟩
    | receive c f => exact .inr ⟨rfl, evolves_receive sv c f⟩
    | hangUp c => exact .inr ⟨rfl, (still_hangUp sv c).allowed _⟩
    | around occurrence =>
      cases occurrence with
      | settle => exact .inl ⟨0, rfl, settle_eq_elapse sv⟩
      | elapse ms => exact .inl ⟨ms, rfl, rfl⟩
      | _ => exact .inr ⟨rfl, .of_sessions rfl rfl rfl⟩
  | create videoId time => exact .inr ⟨rfl, (still_create sv videoId time).allowed _⟩
  | newSession id videoId time => exact .inr ⟨rfl, evolves_newSession sv id videoId time⟩
  | destroy id => exact .inr ⟨rfl, (still_destroy sv id).allowed _⟩
  | destroyIfEmpty id => exact .inr ⟨rfl, (still_destroyIfEmpty sv id).allowed _⟩
  | bind c id => exact .inr ⟨rfl, .of_sessions rfl rfl rfl⟩
  | unbind c => exact .inr ⟨rfl, (still_unbind sv c).allowed _⟩
  | send c e => exact .inr ⟨rfl, .of_sessions rfl rfl rfl⟩
  | onSession n o =>
    refine .inr ⟨rfl, ?_⟩
    simp only [Server.perform]
    split
    · exact evolves_operate sv n _ o
    · exact .refl sv

theorem getElem?_elapse (sv : Server) (ms n : Nat) :
    (sv.elapse ms).sessions[n]? = sv.sessions[n]?.map (·.settle (sv.now + ms)) :=
  List.getElem?_map

/-- What an operation brings about for a session that is there. -/
theorem perform_session {n : Nat} {s : Session} (hs : sv.sessions[n]? = some s) (o : Operation) :
    ∃ changes, (sv.perform o).sessions[n]? = some (s.afterAll changes) ∧
      (∀ x ∈ changes, sv.Allows o n x) ∧
      (o.elapses?.isSome → ∃ now, Change.settle now ∈ changes) := by
  rcases sv.perform_cases o with ⟨ms, hms, heq⟩ | ⟨hnone, hevolves⟩
  · refine ⟨[.settle (sv.now + ms)], ?_, fun x hx => ?_, fun _ => ⟨_, List.mem_singleton_self _⟩⟩
    · rw [heq, getElem?_elapse, hs]
      rfl
    · rw [List.mem_singleton.1 hx]
      exact ⟨ms, hms, rfl⟩
  · obtain ⟨changes, hchanges, hafter⟩ := hevolves.session hs
    exact ⟨changes, hafter, hchanges, fun hsome => by simp [hnone] at hsome⟩

/-- What any operations bring about for a session that is there. -/
theorem performAll_session {n : Nat} {s : Session} (hs : sv.sessions[n]? = some s)
    (operations : List Operation) :
    ∃ changes, (sv.performAll operations).sessions[n]? = some (s.afterAll changes) ∧
      ((∃ o ∈ operations, o.elapses?.isSome) → ∃ now, Change.settle now ∈ changes) := by
  induction operations generalizing sv s with
  | nil => exact ⟨[], hs, fun ⟨o, ho, _⟩ => absurd ho List.not_mem_nil⟩
  | cons o rest ih =>
    obtain ⟨first, hfirst, -, hsettles⟩ := perform_session hs o
    obtain ⟨later, hlater, hrest⟩ := ih hfirst
    refine ⟨first ++ later, ?_, fun ⟨p, hp, hsome⟩ => ?_⟩
    · rw [Session.afterAll_append]
      exact hlater
    · rcases List.mem_cons.1 hp with rfl | hp
      · obtain ⟨now, hnow⟩ := hsettles hsome
        exact ⟨now, List.mem_append_left later hnow⟩
      · obtain ⟨now, hnow⟩ := hrest ⟨p, hp, hsome⟩
        exact ⟨now, List.mem_append_right first hnow⟩

/-! ## Every session -/

/-- Every session has a property that may depend on the time. -/
structure EveryAt (P : Nat → Session → Prop) (settings : Settings) (sv : Server) : Prop where
  settings : sv.settings = settings
  session : ∀ (n : Nat) (s : Session), sv.sessions[n]? = some s → P sv.now s

/-- A new session has the property, and neither a change nor a settling some time later breaks it. -/
structure Lasts (P : Nat → Session → Prop) (settings : Settings) : Prop where
  new : ∀ now id videoId time, P now (Session.new settings id videoId time)
  after : ∀ now s x, (∀ t, x ≠ .settle t) → P now s → P now (s.after x)
  settle : ∀ now ms s, P now s → P (now + ms) (s.settle (now + ms))

/-- Every session has a property that a new one has and no change breaks. -/
structure Every (P : Session → Prop) (settings : Settings) (sv : Server) : Prop where
  settings : sv.settings = settings
  session : ∀ (n : Nat) (s : Session), sv.sessions[n]? = some s → P s

theorem everyAt_start (P : Nat → Session → Prop) (settings : Settings) :
    (start settings).EveryAt P settings :=
  ⟨rfl, fun _ _ hs => by simp [start] at hs⟩

theorem every_start (P : Session → Prop) (settings : Settings) : (start settings).Every P settings :=
  ⟨rfl, fun _ _ hs => by simp [start] at hs⟩

theorem EveryAt.elapse {P : Nat → Session → Prop} {settings : Settings} (h : sv.EveryAt P settings)
    (hP : Lasts P settings) (ms : Nat) : (sv.elapse ms).EveryAt P settings := by
  refine ⟨h.settings, fun n t ht => ?_⟩
  rw [getElem?_elapse] at ht
  obtain ⟨s, hs, rfl⟩ := Option.map_eq_some_iff.1 ht
  exact hP.settle sv.now ms s (h.session n s hs)

theorem EveryAt.perform {P : Nat → Session → Prop} {settings : Settings} (h : sv.EveryAt P settings)
    (hP : Lasts P settings) (o : Operation) : (sv.perform o).EveryAt P settings := by
  rcases sv.perform_cases o with ⟨ms, -, heq⟩ | ⟨hnone, hevolves⟩
  · rw [heq]
    exact h.elapse hP ms
  · refine ⟨hevolves.settings.trans h.settings, fun n t ht => ?_⟩
    obtain ⟨s, changes, hbegins, hchanges, rfl⟩ := hevolves.origin n t ht
    rw [hevolves.now]
    refine Session.afterAll_keeps (fun s x hx => hP.after sv.now s x ?_) ?_ hchanges
    · rintro t rfl
      obtain ⟨ms, hms, -⟩ := hx
      rw [hnone] at hms
      cases hms
    · rcases hbegins with hs | ⟨-, id, videoId, time, rfl⟩
      · exact h.session n s hs
      · rw [h.settings]
        exact hP.new sv.now id videoId time

theorem EveryAt.performAll {P : Nat → Session → Prop} {settings : Settings} (h : sv.EveryAt P settings)
    (hP : Lasts P settings) (operations : List Operation) : (sv.performAll operations).EveryAt P settings := by
  induction operations generalizing sv with
  | nil => exact h
  | cons o rest ih => exact ih (h.perform hP o)

theorem Every.performAll {P : Session → Prop} {settings : Settings} (h : sv.Every P settings)
    (hnew : ∀ id videoId time, P (Session.new settings id videoId time))
    (hafter : ∀ s x, P s → P (s.after x)) (operations : List Operation) :
    (sv.performAll operations).Every P settings := by
  have hP : Lasts (fun _ => P) settings :=
    ⟨fun _ => hnew, fun _ s x _ => hafter s x, fun now ms s => hafter s (.settle (now + ms))⟩
  have hat : sv.EveryAt (fun _ => P) settings := ⟨h.settings, h.session⟩
  obtain ⟨hsettings, hsession⟩ := hat.performAll hP operations
  exact ⟨hsettings, hsession⟩

theorem has_create (sv : Server) (videoId time : UInt64) :
    (sv.create videoId time).2.Has (sv.create videoId time).1 :=
  (still_insert _ _).has (has_newSession _ _ videoId time)

/-- No operation takes a session away. -/
theorem Has.performAll {r : SessionRef} (hr : sv.Has r) (operations : List Operation) :
    (sv.performAll operations).Has r := by
  obtain ⟨s, hs, hid⟩ := hr
  obtain ⟨changes, hafter, -⟩ := performAll_session hs operations
  exact ⟨_, hafter, (s.id_afterAll changes).trans hid⟩

end Server

end WatchParty
