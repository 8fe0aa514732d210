/-
What an event that fails leaves behind. Every failure but one is found before anything is changed, in
any state whatever that operations on the server lead to, and then only the connection that sent the
event hears of it. The exception is a join of a session that is registered but closed, by a connection
that is bound to another one: that one is left first, and the failure does not take this back.
-/
import WatchParty.Proofs.Handler.Requests
import WatchParty.Proofs.Server.Operation

namespace WatchParty

namespace Server

/-- What comes of an event before its failure is told. -/
def attempt (sv : Server) (c : ConnectionId) (event : String) (data : Json) :
    Except Error Unit × Server :=
  match Request.decode event data with
  | .error e => (.error e, sv)
  | .ok request => (Handler.handle c request).run sv

/-- The event is refused, or its handler ends with an error. -/
def Fails (sv : Server) (c : ConnectionId) (event : String) (data : Json) : Prop :=
  (sv.attempt c event data).1.isOk = false

/-- The second server is the first one, but for what was delivered to the connection. -/
def Untouched (c : ConnectionId) (sv sv' : Server) : Prop :=
  ∃ told : List Delivery, (∀ d ∈ told, d.recipient = c) ∧
    sv' = { sv with network := { sv.network with log := told ++ sv.network.log } }

/-- A connection that is bound to one session asks to join another, which is registered but closed. -/
def AsksForClosed (sv : Server) (c : ConnectionId) (event : String) (data : Json) : Prop :=
  ∃ id nick r bound, Request.decode event data = .ok (.join id nick) ∧
    sv.registeredRef? id = some r ∧ (sv.session r).closed = true ∧
    sv.boundSession? c = some bound ∧ bound ≠ id

variable {c : ConnectionId} {sv : Server} {r : SessionRef} {id : SessionId}

/-! ## What is looked up -/

theorem lookup_of_registeredRef (hr : sv.registeredRef? id = some r) : sv.lookup id = .ok r := by
  unfold lookup
  rw [hr]

theorem lookup_of_none (hr : sv.registeredRef? id = none) :
    sv.lookup id = .error (.sessionNotFound id) := by
  unfold lookup
  rw [hr]

theorem Grounded.has_of_registeredRef (hg : sv.Grounded) (hr : sv.registeredRef? id = some r) :
    sv.Has r := by
  obtain ⟨hn, rfl⟩ := registeredRef?_eq_some.1 hr
  exact hg r.id r.number hn

/-! ## Sessions of other ids -/

theorem Grounded.number_ne (hg : sv.Grounded) {n : Nat}
    (hn : sv.registered[id]? = some n) (hr : sv.Has r) (hne : r.id ≠ id) : n ≠ r.number := by
  rintro rfl
  obtain ⟨s, hs, hid⟩ := hr
  obtain ⟨t, ht, htid⟩ := hg id _ hn
  rw [hs] at ht
  cases ht
  exact hne (hid.symm.trans htid)

theorem Grounded.unbind_bound (hg : sv.Grounded) {bound : SessionId}
    (hb : sv.bindings[c]? = some bound) :
    ∃ unbound : Unbound, (sv.unbind c).1 = .ok unbound ∧ unbound.session = bound ∧
      (sv.unbind c).2.bindings[c]? = none ∧
      (sv.Has r → r.id ≠ bound → (sv.unbind c).2.sessions[r.number]? = sv.sessions[r.number]?) := by
  unfold Server.unbind boundSession? registeredRef?
  simp only [hb]
  cases hn : sv.registered[bound]? with
  | none => exact ⟨_, rfl, rfl, Std.ExtTreeMap.getElem?_erase_self, fun _ _ => rfl⟩
  | some n =>
    refine ⟨_, rfl, rfl, Std.ExtTreeMap.getElem?_erase_self, fun hr hne => ?_⟩
    exact List.getElem?_set_ne (hg.number_ne hn hr hne)

theorem Grounded.destroyIfEmpty_other (hg : sv.Grounded) (id : SessionId) :
    (sv.destroyIfEmpty id).2.bindings = sv.bindings ∧
      (sv.Has r → r.id ≠ id →
        (sv.destroyIfEmpty id).2.sessions[r.number]? = sv.sessions[r.number]?) := by
  unfold Server.destroyIfEmpty registeredRef?
  cases hn : sv.registered[id]? with
  | none => exact ⟨rfl, fun _ _ => rfl⟩
  | some n =>
    simp only [Option.map_some]
    split
    · refine ⟨rfl, fun hr hne => ?_⟩
      have hnr := hg.number_ne hn hr hne
      exact (List.getElem?_set_ne hnr).trans (List.getElem?_set_ne hnr)
    · exact ⟨rfl, fun hr hne => List.getElem?_set_ne (hg.number_ne hn hr hne)⟩

/-- A session that has just been made is open, whatever was displaced by it. -/
theorem Grounded.open_create (hg : sv.Grounded) (videoId time : UInt64) :
    ∃ s : Session, (sv.create videoId time).2.sessions[(sv.create videoId time).1.number]? = some s ∧
      s.closed = false := by
  refine ⟨Session.new sv.settings (.generated (sv.issued + 1)) videoId time, ?_, rfl⟩
  have hlast : ∀ t : Session, (sv.sessions ++ [t])[sv.sessions.length]? = some t := fun t =>
    getElem?_concat_eq_some.2 (.inr ⟨rfl, rfl⟩)
  unfold Server.create Server.newSession Server.insert registeredRef?
  cases hn : sv.registered[SessionId.generated (sv.issued + 1)]? with
  | none =>
    simp only [hn, Option.map_none]
    exact hlast _
  | some n =>
    simp only [hn, Option.map_some]
    obtain ⟨t, ht, -⟩ := hg _ n hn
    have hlt : n < sv.sessions.length := (List.getElem?_eq_some_iff.1 ht).1
    exact (List.getElem?_set_ne (by simp only; omega)).trans (hlast _)

end Server

namespace Handler

open Server

variable {c : ConnectionId} {sv : Server} {r : SessionRef} {id : SessionId}

/-! ## Leaving -/

theorem depart_run (c : ConnectionId) (sv : Server) :
    (depart c).run sv = (departed (sv.unbind c).1).run (sv.unbind c).2 := by
  rw [depart_eq]
  rfl

theorem depart_run_unbound (hb : sv.bindings[c]? = none) :
    (depart c).run sv = (.error (.memberNotFound c), sv) := by
  rw [depart_run, unbind_unbound hb]
  rfl

/-- A bound connection is unbound from its session, and another session stays as it is. -/
theorem depart_run_bound (hg : sv.Grounded) {bound : SessionId} (hb : sv.bindings[c]? = some bound) :
    (∃ id, ((depart c).run sv).1 = .ok id) ∧ ((depart c).run sv).2.bindings[c]? = none ∧
      (sv.Has r → r.id ≠ bound → ((depart c).run sv).2.sessions[r.number]? = sv.sessions[r.number]?) := by
  obtain ⟨unbound, hok, hsession, hfree, hsame⟩ := hg.unbind_bound (r := r) hb
  rw [depart_run, hok]
  by_cases hempty : unbound.leavesNobody
  · simp only [departed, hempty, if_true]
    change (∃ id, _) ∧ ((sv.unbind c).2.destroyIfEmpty unbound.session).2.bindings[c]? = none ∧
      (_ → _ → ((sv.unbind c).2.destroyIfEmpty unbound.session).2.sessions[r.number]? = _)
    obtain ⟨hbindings, hother⟩ := (hg.unbind c).destroyIfEmpty_other (r := r) unbound.session
    refine ⟨⟨_, rfl⟩, by rw [hbindings, hfree], fun hr hne => ?_⟩
    have hr' : (sv.unbind c).2.Has r := by
      obtain ⟨s, hs, hid⟩ := hr
      exact ⟨s, by rw [hsame ⟨s, hs, hid⟩ hne, hs], hid⟩
    rw [hother hr' (by rw [hsession]; exact hne), hsame hr hne]
  · simp only [departed, hempty]
    exact ⟨⟨_, rfl⟩, hfree, hsame⟩

/-! ## Entering -/

theorem enrol_run_closed {s : Session} (hs : sv.sessions[r.number]? = some s)
    (hclosed : s.closed = true) (nick : String) :
    (enrol c r nick).run sv = (.error (.sessionClosed s.id), sv) := by
  rw [enrol_eq]
  change (admitted c r (sv.addMember r c nick).1).run (sv.addMember r c nick).2 = _
  rw [addMember_closed hs hclosed]
  rfl

theorem enrol_run_open {s : Session} (hs : sv.sessions[r.number]? = some s)
    (hopen : s.closed = false) (nick : String) : ((enrol c r nick).run sv).1 = .ok () := by
  rw [enrol_eq]
  change ((admitted c r (sv.addMember r c nick).1).run (sv.addMember r c nick).2).1 = _
  rw [addMember_open hs hopen]
  rfl

/-- Entering fails only where the session is closed, and changes nothing then. -/
theorem enrol_run_error {s : Session} (hs : sv.sessions[r.number]? = some s) {nick : String}
    {e : Error} (he : ((enrol c r nick).run sv).1 = .error e) :
    s.closed = true ∧ ((enrol c r nick).run sv).2 = sv := by
  cases hclosed : s.closed with
  | true =>
    rw [enrol_run_closed hs hclosed]
    exact ⟨rfl, rfl⟩
  | false =>
    rw [enrol_run_open hs hclosed] at he
    cases he

/-! ## Requests that fail -/

/-- A new session is entered without fail. -/
theorem newSession_run (hg : sv.Grounded) (videoId time : UInt64) (nick : String) :
    ((newSession c videoId time nick).run sv).1 = .ok () := by
  have hg₁ : ((depart c).run sv).2.Grounded := hg.run _
  obtain ⟨s, hs, hopen⟩ := hg₁.open_create videoId time
  unfold newSession
  rw [run_bind, run_bind, run_ask]
  simp only [Server.answer]
  rw [run_bind, enrol_run_open hs hopen]
  rfl

theorem join_run_missing (hr : sv.registeredRef? id = none) (nick : String) :
    (join c id nick).run sv = (.error (.sessionNotFound id), sv) := by
  unfold join
  rw [run_bind, run_ask]
  simp only [Server.answer]
  rw [lookup_of_none hr]
  rfl

/-- Who is in the session already does not leave it to join it. -/
theorem join_run_here (hr : sv.registeredRef? id = some r) (hb : sv.bindings[c]? = some id)
    (nick : String) : (join c id nick).run sv = (enrol c r nick).run sv := by
  have hbound : (sv.answer (.boundSession c)).1 = some r.id := by
    rw [id_of_registeredRef hr]
    exact hb
  unfold join
  rw [run_bind, run_ask]
  simp only [Server.answer]
  rw [lookup_of_registeredRef hr]
  simp only
  rw [run_bind, run_ask, if_neg fun hne => hne hbound]
  rfl

theorem join_run_elsewhere (hr : sv.registeredRef? id = some r) (hb : sv.bindings[c]? ≠ some id)
    (nick : String) : (join c id nick).run sv = (enrol c r nick).run ((depart c).run sv).2 := by
  have hbound : (sv.answer (.boundSession c)).1 ≠ some r.id := by
    rw [id_of_registeredRef hr]
    exact hb
  unfold join
  rw [run_bind, run_ask]
  simp only [Server.answer]
  rw [lookup_of_registeredRef hr]
  simp only
  rw [run_bind, run_ask, if_pos hbound, run_bind]
  rfl

/-- The session to join is the same once another one has been left. -/
theorem depart_run_session (hg : sv.Grounded) (hr : sv.registeredRef? id = some r) {bound : SessionId}
    (hb : sv.bindings[c]? = some bound) (hne : bound ≠ id) :
    ((depart c).run sv).2.sessions[r.number]? = sv.sessions[r.number]? := by
  obtain ⟨-, -, hsame⟩ := depart_run_bound (r := r) hg hb
  refine hsame (hg.has_of_registeredRef hr) ?_
  rw [id_of_registeredRef hr]
  exact hne.symm

/-- A join that fails has changed nothing, unless it has left a session for one that is closed. -/
theorem join_run_error (hg : sv.Grounded) {nick : String} {e : Error}
    (he : ((join c id nick).run sv).1 = .error e) :
    ((join c id nick).run sv).2 = sv ∨
      ∃ r bound, sv.registeredRef? id = some r ∧ (sv.session r).closed = true ∧
        sv.bindings[c]? = some bound ∧ bound ≠ id := by
  cases hr : sv.registeredRef? id with
  | none => exact .inl (by rw [join_run_missing hr])
  | some r =>
    obtain ⟨s, hs, -⟩ := hg.has_of_registeredRef hr
    cases hb : sv.bindings[c]? with
    | none =>
      have hne : sv.bindings[c]? ≠ some id := by rw [hb]; exact nofun
      rw [join_run_elsewhere hr hne, depart_run_unbound hb] at he ⊢
      exact .inl (enrol_run_error hs he).2
    | some bound =>
      by_cases hbound : bound = id
      · rw [hbound] at hb
        rw [join_run_here hr hb] at he ⊢
        exact .inl (enrol_run_error hs he).2
      · have hne : sv.bindings[c]? ≠ some id := by
          rw [hb]
          exact fun h => hbound (Option.some.inj h)
        rw [join_run_elsewhere hr hne] at he
        have hs' := (depart_run_session hg hr hb hbound).trans hs
        refine .inr ⟨r, bound, rfl, ?_, rfl, hbound⟩
        rw [session_eq hs]
        exact (enrol_run_error hs' he).1

/-- Joining a closed session from another one loses the binding. -/
theorem join_run_closed (hg : sv.Grounded) (nick : String) {bound : SessionId}
    (hr : sv.registeredRef? id = some r) (hclosed : (sv.session r).closed = true)
    (hb : sv.bindings[c]? = some bound) (hne : bound ≠ id) :
    ((join c id nick).run sv).2.bindings[c]? = none := by
  obtain ⟨s, hs, -⟩ := hg.has_of_registeredRef hr
  rw [session_eq hs] at hclosed
  have helse : sv.bindings[c]? ≠ some id := by
    rw [hb]
    exact fun h => hne (Option.some.inj h)
  have hs' := (depart_run_session hg hr hb hne).trans hs
  rw [join_run_elsewhere hr helse, enrol_run_closed hs' hclosed]
  exact (depart_run_bound (r := r) hg hb).2.1

/-- What the other requests may fail with is found before they change anything. -/
theorem getSync_run_error {e : Error} (he : ((getSync c id).run sv).1 = .error e) :
    ((getSync c id).run sv).2 = sv := by
  unfold getSync at he ⊢
  rw [run_bind, run_ask] at he ⊢
  simp only [Server.answer] at he ⊢
  cases hr : sv.registeredRef? id with
  | none => rw [lookup_of_none hr]; rfl
  | some r =>
    rw [lookup_of_registeredRef hr] at he ⊢
    change (sv.send c (.sync (sv.session r).view)).1 = _ at he
    change (sv.send c (.sync (sv.session r).view)).2 = _
    by_cases hopen : sv.network.isOpen c
    · simp only [send, Network.emit, hopen, if_true, reduceCtorEq] at he
    · simp only [send, Network.emit, hopen, if_false, Bool.false_eq_true]

theorem onSession_run_error {q : SessionRef → Call} {e : Error}
    (he : ((onSession id q).run sv).1 = .error e) : ((onSession id q).run sv).2 = sv := by
  unfold onSession at he ⊢
  rw [run_bind, run_ask] at he ⊢
  simp only [Server.answer] at he ⊢
  cases hr : sv.registeredRef? id with
  | none => rw [lookup_of_none hr]; rfl
  | some r =>
    rw [lookup_of_registeredRef hr] at he
    cases he

theorem leave_run_error (hg : sv.Grounded) {e : Error}
    (he : ((handle c .leave).run sv).1 = .error e) : ((handle c .leave).run sv).2 = sv := by
  unfold handle at he ⊢
  rw [run_bind] at he ⊢
  cases hb : sv.bindings[c]? with
  | none => rw [depart_run_unbound hb]; rfl
  | some bound =>
    obtain ⟨⟨id, hok⟩, -, -⟩ := depart_run_bound (r := ⟨0, bound⟩) hg hb
    rw [hok] at he
    cases he

/-- A request that fails has changed nothing, unless it was a join of a closed session that has left
another one. -/
theorem handle_run_error (hg : sv.Grounded) {request : Request} {e : Error}
    (he : ((handle c request).run sv).1 = .error e) :
    ((handle c request).run sv).2 = sv ∨
      ∃ id nick r bound, request = .join id nick ∧ sv.registeredRef? id = some r ∧
        (sv.session r).closed = true ∧ sv.bindings[c]? = some bound ∧ bound ≠ id := by
  cases request with
  | new videoId time nick =>
    have hok := newSession_run (c := c) hg videoId time nick
    change ((newSession c videoId time nick).run sv).1 = _ at he
    rw [hok] at he
    cases he
  | join id nick =>
    rcases join_run_error hg he with hsame | ⟨r, bound, hr, hclosed, hb, hne⟩
    · exact .inl hsame
    · exact .inr ⟨id, nick, r, bound, rfl, hr, hclosed, hb, hne⟩
  | getSync id => exact .inl (getSync_run_error he)
  | play id => exact .inl (onSession_run_error he)
  | pause id => exact .inl (onSession_run_error he)
  | seek id time => exact .inl (onSession_run_error he)
  | leave => exact .inl (leave_run_error hg he)

/-- Telling a failure is one delivery to the connection, or none. -/
theorem tellFailure_run (c : ConnectionId) (event : String) (data : Json) (e : Error) (sv : Server) :
    Untouched c sv ((tellFailure c event data e).run sv).2 := by
  unfold tellFailure
  cases e.reply? event data with
  | none => exact ⟨[], by simp, rfl⟩
  | some reply =>
    change Untouched c sv (sv.send c reply).2
    by_cases hopen : sv.network.isOpen c
    · refine ⟨[⟨c, .event reply⟩], by simp, ?_⟩
      simp [send, Network.emit, hopen, Network.deliver]
    · refine ⟨[], by simp, ?_⟩
      simp [send, Network.emit, hopen]

end Handler

namespace Server

open Handler

variable {sv : Server} {c : ConnectionId} {event : String} {data : Json}

/-! ## Events that fail -/

theorem Untouched.boundSession {sv' : Server} (h : Untouched c sv sv') (d : ConnectionId) :
    sv'.boundSession? d = sv.boundSession? d := by
  obtain ⟨told, -, rfl⟩ := h
  rfl

theorem Fails.exists_error (h : sv.Fails c event data) :
    ∃ e, (sv.attempt c event data).1 = .error e := by
  unfold Fails at h
  cases hoc : (sv.attempt c event data).1 with
  | error e => exact ⟨e, rfl⟩
  | ok _ =>
    rw [hoc] at h
    cases h

/-- The failure is told in the state that the handler has left. -/
theorem dispatch_of_fails {e : Error} (he : (sv.attempt c event data).1 = .error e) :
    ∃ name, sv.dispatch c event data =
      ((tellFailure c name data e).run (sv.attempt c event data).2).2 := by
  unfold Server.dispatch Handler.dispatch attempt at *
  cases hd : Request.decode event data with
  | error e' =>
    simp only [hd] at he ⊢
    cases he
    exact ⟨event, rfl⟩
  | ok request =>
    simp only [hd] at he ⊢
    rw [run_bind, he]
    exact ⟨request.verb.name, rfl⟩

/-- The handler of a request that succeeds is all there is to the event. -/
theorem dispatch_of_ok {request : Request} (hd : Request.decode event data = .ok request)
    (hok : ((handle c request).run sv).1 = .ok ()) :
    sv.dispatch c event data = ((handle c request).run sv).2 := by
  unfold Server.dispatch Handler.dispatch
  rw [hd]
  show ((handle c request >>= _).run sv).2 = _
  rw [run_bind, hok]
  rfl

/-- An event that fails has changed nothing before it is told, unless it asks for a closed session. -/
theorem Grounded.attempt_error (hg : sv.Grounded) {e : Error}
    (he : (sv.attempt c event data).1 = .error e) :
    (sv.attempt c event data).2 = sv ∨ sv.AsksForClosed c event data := by
  unfold AsksForClosed
  unfold attempt at *
  cases hd : Request.decode event data with
  | error e' => exact .inl rfl
  | ok request =>
    simp only [hd] at he ⊢
    rcases handle_run_error hg he with hsame | ⟨id, nick, r, bound, rfl, hr, hclosed, hb, hne⟩
    · exact .inl hsame
    · exact .inr ⟨id, nick, r, bound, rfl, hr, hclosed, hb, hne⟩

/-- Who asks for a closed session loses the binding to another one. -/
theorem Grounded.attempt_closed (hg : sv.Grounded) (ha : sv.AsksForClosed c event data) :
    (sv.attempt c event data).2.bindings[c]? = none := by
  obtain ⟨id, nick, r, bound, hd, hr, hclosed, hb, hne⟩ := ha
  unfold attempt
  rw [hd]
  exact join_run_closed hg nick hr hclosed hb hne

/-- Whatever was done to the server before: an event that fails leaves all as it was, but for what is
told to its connection, exactly if it does not ask for a closed session while its connection is bound
to another. -/
theorem failed_dispatch_untouched_iff (settings : Settings) (operations : List Operation)
    (c : ConnectionId) (event : String) (data : Json)
    (hfails : ((start settings).performAll operations).Fails c event data) :
    Untouched c ((start settings).performAll operations)
        (((start settings).performAll operations).dispatch c event data) ↔
      ¬ ((start settings).performAll operations).AsksForClosed c event data := by
  have hg : ((start settings).performAll operations).Grounded :=
    (grounded_start settings).performAll operations
  generalize (start settings).performAll operations = sv at hfails hg
  obtain ⟨e, he⟩ := hfails.exists_error
  obtain ⟨name, hdispatch⟩ := dispatch_of_fails he
  rw [hdispatch]
  constructor
  · intro huntouched hasks
    -- the binding that was there is gone
    have hfree : (sv.attempt c event data).2.boundSession? c = none := hg.attempt_closed hasks
    have htold := tellFailure_run c name data e (sv.attempt c event data).2
    obtain ⟨id, nick, r, bound, -, -, -, hb, -⟩ := hasks
    rw [← htold.boundSession c, huntouched.boundSession c, hb] at hfree
    cases hfree
  · intro hnot
    rcases hg.attempt_error he with hsame | hasks
    · rw [hsame]
      exact tellFailure_run c name data e sv
    · exact absurd hasks hnot

/-- Bob watches with Alice when he asks to join a session that nobody knows. He is refused, and still watches
with her. -/
theorem failed_join_untouched :
    let alice : ConnectionId := ⟨"alice"⟩
    let bob : ConnectionId := ⟨"bob"⟩
    let naming := fun id : SessionId => Json.object [("session_id", .string id.text)]
    let sv := (start {}).performAll [
      .input (.dispatch alice "flixy new" (.object [("video_id", .natural 1)])),
      .input (.dispatch bob "flixy join" (naming (.generated 1))),
      .input (.dispatch alice "flixy play" (naming (.generated 1))), .input (.around (.elapse 25))]
    sv.Fails bob "flixy join" (naming ⟨"nowhere"⟩) ∧ sv.boundSession? bob = some (.generated 1) ∧
      (sv.session ⟨0, .generated 1⟩).members.keys = [alice, bob] ∧
      (sv.session ⟨0, .generated 1⟩).paused = false ∧
      Untouched bob sv (sv.dispatch bob "flixy join" (naming ⟨"nowhere"⟩)) := by
  intro alice bob naming sv
  have hfails : sv.Fails bob "flixy join" (naming ⟨"nowhere"⟩) := by unfold Fails; decide
  have hunknown : sv.registeredRef? ⟨"nowhere"⟩ = none := by decide
  have hrequest : Request.decode "flixy join" (naming ⟨"nowhere"⟩) = .ok (.join ⟨"nowhere"⟩ "") := by
    rfl
  refine ⟨hfails, by decide, by decide, by decide, ?_⟩
  refine (failed_dispatch_untouched_iff {} _ bob "flixy join" (naming ⟨"nowhere"⟩) hfails).2 ?_
  rintro ⟨id, nick, r, bound, hasks, hr, -⟩
  rw [hrequest] at hasks
  cases hasks
  rw [hunknown] at hr
  cases hr

/-- Alice, who is in a session, joins another that has been closed while it is still registered. She is
refused, and is in no session any more. -/
theorem failed_join_touches :
    let alice : ConnectionId := ⟨"alice"⟩
    let closed : Json := .object [("session_id", .string (SessionId.generated 2).text)]
    let sv := (start {}).performAll [.input (.dispatch alice "flixy new" (.object [("video_id", .natural 1)])),
      .create 2 0, .onSession 1 .closeIfEmpty]
    sv.Fails alice "flixy join" closed ∧ sv.boundSession? alice = some (.generated 1) ∧
      (sv.dispatch alice "flixy join" closed).boundSession? alice = none ∧
      ¬ Untouched alice sv (sv.dispatch alice "flixy join" closed) := by
  intro alice closed sv
  have hfails : sv.Fails alice "flixy join" closed := by unfold Fails; decide
  have hbefore : sv.boundSession? alice = some (.generated 1) := by decide
  have hafter : (sv.dispatch alice "flixy join" closed).boundSession? alice = none := by decide
  refine ⟨hfails, hbefore, hafter, fun hsame => ?_⟩
  have hkept := hsame.boundSession alice
  rw [hbefore, hafter] at hkept
  cases hkept

end Server

end WatchParty
