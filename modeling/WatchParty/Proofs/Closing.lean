/-
What closing a session means for all that follows. A closed session stays closed, takes no members and
loses those it has, does not play, and is moved by seeks only. There are two ways to close one: closing
it for having no members leaves its clock and its flag alone, while every other way shuts it down, so
that it is paused for good and its clock ends when it settles next.
-/
import WatchParty.Proofs.Clock
import WatchParty.Proofs.Movement

namespace WatchParty

namespace Session

/-- What shutting a session down leaves. -/
structure IsShutDown (s : Session) : Prop where
  closed : s.closed = true
  paused : s.paused = true
  cancelled : s.clock.cancelled = true

/-- The change is that the clock settles. -/
def Change.settles : Change → Bool
  | .settle _ => true
  | _ => false

/-- What a change may make of a closed session. It is still closed, and it has no members that were not
there before; it is where it was unless the change is a move; and once it is shut down it stays so. -/
structure Outlasts (s : Session) (x : Change) (t : Session) : Prop where
  closed : t.closed = true
  members : ∀ (c : ConnectionId) (m : Member), t.members[c]? = some m → s.members[c]? = some m
  time : t.time = s.time ∨ x = .moveTo t.time
  shutDown : s.IsShutDown → t.IsShutDown
  finished : s.IsShutDown → s.clock.phase = .finished ∨ x.settles = true → t.clock.phase = .finished

variable {s t : Session} {x : Change}

/-- A change that leaves the phase of the clock alone has no part in how the clock ends. -/
theorem finished_of_phase (hx : x.settles = false) (hphase : t.clock.phase = s.clock.phase)
    (h : s.clock.phase = .finished ∨ x.settles = true) : t.clock.phase = .finished := by
  rcases h with hfinished | hsettles
  · exact hphase.trans hfinished
  · rw [hx] at hsettles
    cases hsettles

/-- A change that would let an open session play or grow does nothing. -/
theorem outlasts_same (h : s.closed = true) (hx : x.settles = false) : s.Outlasts x s where
  closed := h
  members _ _ hm := hm
  time := .inl rfl
  shutDown hdown := hdown
  finished _ := finished_of_phase hx rfl

theorem outlasts_after (h : s.closed = true) (x : Change) : s.Outlasts x (s.after x) := by
  cases x with
  | play =>
    rw [after_play_closed h]
    exact outlasts_same h rfl
  | pause =>
    exact ⟨h, fun _ _ hm => hm, .inl rfl, fun hdown => ⟨h, rfl, hdown.cancelled⟩,
      fun _ => finished_of_phase rfl rfl⟩
  | moveTo time =>
    exact ⟨h, fun _ _ hm => hm, .inr rfl, fun hdown => ⟨h, hdown.paused, hdown.cancelled⟩,
      fun _ => finished_of_phase rfl rfl⟩
  | enter c nick =>
    rw [after_enter_closed h]
    exact outlasts_same h rfl
  | leave c =>
    rw [after_leave]
    refine ⟨h, fun d m hm => ?_, .inl rfl, fun hdown => ⟨h, hdown.paused, hdown.cancelled⟩,
      fun _ => finished_of_phase rfl rfl⟩
    simp only [without, Std.ExtTreeMap.getElem?_erase] at hm
    split at hm
    · cases hm
    · exact hm
  | closeIfEmpty =>
    rw [after_closeIfEmpty]
    have hclosed : (s.closed || s.members.isEmpty) = true := by simp [h]
    exact ⟨hclosed, fun _ _ hm => hm, .inl rfl,
      fun hdown => ⟨hclosed, hdown.paused, hdown.cancelled⟩, fun _ => finished_of_phase rfl rfl⟩
  | shutdown =>
    exact ⟨rfl, fun _ _ hm => hm, .inl rfl, fun _ => ⟨rfl, rfl, rfl⟩,
      fun _ => finished_of_phase rfl rfl⟩
  | endClock =>
    exact ⟨h, fun _ _ hm => hm, .inl rfl, fun hdown => ⟨h, hdown.paused, rfl⟩,
      fun _ => finished_of_phase rfl rfl⟩
  | settle now =>
    have htime : (s.settle now).time = s.time := time_settle_of_frozen (by simp [h]) now
    refine ⟨h, fun _ _ hm => hm, .inl htime, fun hdown => ⟨h, hdown.paused, hdown.cancelled⟩,
      fun hdown _ => ?_⟩
    change (s.clock.settle now).1.phase = .finished
    rw [Clock.settle_of_cancelled hdown.cancelled]

/-! ## Any number of changes -/

theorem closed_afterAll (h : s.closed = true) (changes : List Change) :
    (s.afterAll changes).closed = true :=
  afterAll_keeps (K := fun _ => True) (P := fun s => s.closed = true)
    (fun _ x _ hs => (outlasts_after hs x).closed) h fun _ _ => trivial

theorem IsShutDown.afterAll (h : s.IsShutDown) (changes : List Change) :
    (s.afterAll changes).IsShutDown :=
  afterAll_keeps (K := fun _ => True) (P := IsShutDown)
    (fun _ x _ hs => (outlasts_after hs.closed x).shutDown hs) h fun _ _ => trivial

theorem members_afterAll (h : s.closed = true) (changes : List Change) {c : ConnectionId} {m : Member}
    (hm : (s.afterAll changes).members[c]? = some m) : s.members[c]? = some m := by
  induction changes generalizing s with
  | nil => exact hm
  | cons x rest ih =>
    have hx := outlasts_after h x
    exact hx.members c m (ih hx.closed hm)

/-- If a closed session is not where it was, it has been moved there. -/
theorem moveTo_mem_of_time_ne (h : s.closed = true) {changes : List Change}
    (hne : (s.afterAll changes).time ≠ s.time) : Change.moveTo (s.afterAll changes).time ∈ changes := by
  induction changes generalizing s with
  | nil => exact absurd rfl hne
  | cons x rest ih =>
    change ((s.after x).afterAll rest).time ≠ s.time at hne
    change Change.moveTo ((s.after x).afterAll rest).time ∈ x :: rest
    have hx := outlasts_after h x
    by_cases hrest : ((s.after x).afterAll rest).time = (s.after x).time
    · rcases hx.time with hsame | hmove
      · exact absurd (hrest.trans hsame) hne
      · rw [hrest, ← hmove]
        exact List.mem_cons_self
    · exact List.mem_cons_of_mem x (ih hx.closed hrest)

/-- The clock of a session that was shut down has ended once it has settled. -/
theorem IsShutDown.finished_afterAll (h : s.IsShutDown) {changes : List Change}
    (hchanges : s.clock.phase = .finished ∨ ∃ now, Change.settle now ∈ changes) :
    (s.afterAll changes).clock.phase = .finished := by
  induction changes generalizing s with
  | nil =>
    rcases hchanges with hphase | ⟨now, hnow⟩
    · exact hphase
    · exact absurd hnow List.not_mem_nil
  | cons x rest ih =>
    have hx := outlasts_after h.closed x
    refine ih (hx.shutDown h) ?_
    rcases hchanges with hphase | ⟨now, hnow⟩
    · exact .inl (hx.finished h (.inl hphase))
    · rcases List.mem_cons.1 hnow with rfl | hrest
      · exact .inl (hx.finished h (.inr rfl))
      · exact .inr ⟨now, hrest⟩

/-- Whatever closes a session, other than closing it for having no members, shuts it down. -/
theorem isShutDown_of_closed (hopen : s.closed = false) {changes : List Change}
    (hchanges : ∀ x ∈ changes, x ≠ .closeIfEmpty) (h : (s.afterAll changes).closed = true) :
    (s.afterAll changes).IsShutDown := by
  refine afterAll_keeps (K := fun x => x ≠ .closeIfEmpty)
    (P := fun s => s.closed = true → s.IsShutDown) (fun s x hx hs hclosed => ?_)
    (fun hclosed => absurd (hopen.symm.trans hclosed) nofun) hchanges h
  cases hwas : s.closed with
  | true => exact (outlasts_after hwas x).shutDown (hs hwas)
  | false =>
    cases x with
    | shutdown => exact ⟨rfl, rfl, rfl⟩
    | closeIfEmpty => exact absurd rfl hx
    | play =>
      rw [after_play_open hwas] at hclosed
      exact absurd (hwas.symm.trans hclosed) nofun
    | enter c nick =>
      rw [after_enter_open hwas] at hclosed
      exact absurd (hwas.symm.trans hclosed) nofun
    | leave c =>
      rw [after_leave] at hclosed
      exact absurd (hwas.symm.trans hclosed) nofun
    | _ => exact absurd (hwas.symm.trans hclosed) nofun

end Session

namespace Server

open Session (Change)

variable {sv : Server} {n : Nat} {s t : Session}

/-! ## Ways to shut a session down -/

/-- The operation is one that shuts the session of the number down: it does so itself, or it takes the
session's place in the registry, or the session out of it. -/
def ShutsDown (sv : Server) (n : Nat) : Operation → Prop
  | .onSession m .shutdown => m = n
  | .onSession m .insert => ∃ s, sv.sessions[m]? = some s ∧ sv.registered[s.id]? = some n
  | .create .. => sv.registered[SessionId.generated (sv.issued + 1)]? = some n
  | .destroy id => sv.registered[id]? = some n
  | .destroyIfEmpty id => sv.registered[id]? = some n ∧ (sv.destroyIfEmpty id).1 = true
  | _ => False

theorem isShutDown_of_shutdown {id : SessionId} (ht : (sv.shutdown ⟨n, id⟩).sessions[n]? = some t) :
    t.IsShutDown := by
  simp only [shutdown, modify, List.getElem?_set, if_true] at ht
  split at ht
  · cases ht
    exact ⟨rfl, rfl, rfl⟩
  · cases ht

/-- The session that was registered before under the same id is shut down. -/
theorem isShutDown_of_insert {r : SessionRef} (hn : sv.registered[r.id]? = some n)
    (ht : (sv.insert r).sessions[n]? = some t) : t.IsShutDown := by
  simp only [Server.insert, registeredRef?, hn, Option.map_some] at ht
  exact isShutDown_of_shutdown ht

theorem isShutDown_of_destroy {id : SessionId} (hn : sv.registered[id]? = some n)
    (ht : (sv.destroy id).2.sessions[n]? = some t) : t.IsShutDown := by
  simp only [Server.destroy, registeredRef?, hn, Option.map_some] at ht
  exact isShutDown_of_shutdown ht

theorem isShutDown_of_destroyIfEmpty {id : SessionId} (hn : sv.registered[id]? = some n)
    (hdestroyed : (sv.destroyIfEmpty id).1 = true)
    (ht : (sv.destroyIfEmpty id).2.sessions[n]? = some t) : t.IsShutDown := by
  simp only [Server.destroyIfEmpty, registeredRef?, hn, Option.map_some] at hdestroyed ht
  split at ht
  · exact isShutDown_of_shutdown ht
  · rename_i hnot
    rw [if_neg hnot] at hdestroyed
    cases hdestroyed

theorem ShutsDown.isShutDown {o : Operation} (h : sv.ShutsDown n o)
    (ht : (sv.perform o).sessions[n]? = some t) : t.IsShutDown := by
  cases o with
  | create videoId time =>
    simp only [Server.perform, Server.create, Server.newSession] at ht
    refine isShutDown_of_insert ?_ ht
    exact h
  | destroy id => exact isShutDown_of_destroy h ht
  | destroyIfEmpty id => exact isShutDown_of_destroyIfEmpty h.1 h.2 ht
  | onSession m operation =>
    cases operation with
    | insert =>
      obtain ⟨s, hs, hn⟩ := h
      simp only [Server.perform, hs] at ht
      exact isShutDown_of_insert hn ht
    | shutdown =>
      cases show m = n from h
      simp only [Server.perform] at ht
      split at ht
      · exact isShutDown_of_shutdown ht
      · rename_i hnone
        rw [hnone] at ht
        cases ht
    | _ => exact absurd h fun hn => hn
  | _ => exact absurd h fun hn => hn

/-! ## Sessions that lose their registration -/

/-- Every session stays, and one that is not registered any more has been shut down. -/
structure Retires (sv sv' : Server) : Prop where
  evolves : sv.Evolves (fun _ _ => True) sv'
  registered : ∀ (id : SessionId) (n : Nat) (s t : Session), sv.registered[id]? = some n →
    sv.sessions[n]? = some s → sv'.sessions[n]? = some t →
    sv'.registered[id]? = some n ∨ t.IsShutDown

variable {sv₁ sv₂ sv₃ : Server}

theorem Retires.of_registered (h : sv₁.Evolves (fun _ _ => True) sv₂)
    (hregistered : sv₂.registered = sv₁.registered) : sv₁.Retires sv₂ where
  evolves := h
  registered id n s t hn _ _ := by
    rw [hregistered]
    exact .inl hn

theorem Retires.refl (sv : Server) : sv.Retires sv := .of_registered (.refl sv) rfl

theorem Retires.trans (h : sv₁.Retires sv₂) (k : sv₂.Retires sv₃) : sv₁.Retires sv₃ where
  evolves := h.evolves.trans k.evolves
  registered id n s u hn hs hu := by
    obtain ⟨first, -, ht⟩ := h.evolves.session hs
    rcases h.registered id n s _ hn hs ht with hstill | hdown
    · exact k.registered id n _ u hstill ht hu
    · -- it has been shut down in the first part, and nothing undoes this
      obtain ⟨later, -, hlater⟩ := k.evolves.session ht
      rw [hlater] at hu
      cases hu
      exact .inr (hdown.afterAll later)

theorem EvolvesStill.any {sv' : Server} (h : sv.EvolvesStill sv') : sv.Evolves (fun _ _ => True) sv' :=
  h.mono fun _ _ _ => trivial

theorem retires_insert (sv : Server) (r : SessionRef) : sv.Retires (sv.insert r) where
  evolves := (still_insert sv r).any
  registered id n s t hn _ ht := by
    by_cases hid : r.id = id
    · subst hid
      exact .inr (isShutDown_of_insert hn ht)
    · rw [registered_insert, Std.ExtTreeMap.getElem?_insert, if_neg (by simpa using hid)]
      exact .inl hn

theorem retires_create (sv : Server) (videoId time : UInt64) :
    sv.Retires (sv.create videoId time).2 := by
  have hissued : sv.Retires { sv with issued := sv.issued + 1 } := .of_registered (.of_sessions rfl rfl rfl) rfl
  have hmade : ∀ id, Retires { sv with issued := sv.issued + 1 }
      (newSession { sv with issued := sv.issued + 1 } id videoId time).2 := fun id =>
    .of_registered (evolves_newSession _ id videoId time) rfl
  exact (hissued.trans (hmade _)).trans (retires_insert _ _)

theorem retires_destroy (sv : Server) (id : SessionId) : sv.Retires (sv.destroy id).2 where
  evolves := (still_destroy sv id).any
  registered other n s t hn _ ht := by
    by_cases hid : id = other
    · subst hid
      exact .inr (isShutDown_of_destroy hn ht)
    · refine .inl ?_
      unfold Server.destroy
      split
      · exact hn
      · change (sv.registered.erase id)[other]? = some n
        rw [Std.ExtTreeMap.getElem?_erase, if_neg (by simpa using hid)]
        exact hn

theorem registered_destroyIfEmpty (sv : Server) (id : SessionId) :
    (sv.destroyIfEmpty id).2.registered =
      if (sv.destroyIfEmpty id).1 then sv.registered.erase id else sv.registered := by
  unfold Server.destroyIfEmpty
  split
  · rfl
  · dsimp only
    split
    · rfl
    · rfl

theorem retires_destroyIfEmpty (sv : Server) (id : SessionId) :
    sv.Retires (sv.destroyIfEmpty id).2 where
  evolves := (still_destroyIfEmpty sv id).any
  registered other n s t hn _ ht := by
    rw [registered_destroyIfEmpty]
    cases hdestroyed : (sv.destroyIfEmpty id).1 with
    | false => exact .inl hn
    | true =>
      by_cases hid : id = other
      · subst hid
        exact .inr (isShutDown_of_destroyIfEmpty hn hdestroyed ht)
      · rw [if_pos rfl, Std.ExtTreeMap.getElem?_erase, if_neg (by simpa using hid)]
        exact .inl hn

theorem registered_unbind (sv : Server) (c : ConnectionId) :
    (sv.unbind c).2.registered = sv.registered := by
  unfold Server.unbind
  split
  · rfl
  · dsimp only
    split
    · rfl
    · rfl

theorem retires_answer (sv : Server) (q : Call) : sv.Retires (sv.answer q).2 := by
  cases q with
  | lookup id => exact .refl sv
  | boundSession c => exact .refl sv
  | unbind c => exact .of_registered (still_unbind sv c).any (registered_unbind sv c)
  | destroyIfEmpty id => exact retires_destroyIfEmpty sv id
  | create videoId time => exact retires_create sv videoId time
  | addMember r c nick => exact .of_registered (still_addMember sv r c nick).any rfl
  | bind c id => exact .of_registered (.of_sessions rfl rfl rfl) rfl
  | play r => exact .of_registered (still_play sv r).any rfl
  | pause r => exact .of_registered (still_pause sv r).any rfl
  | setTime r time => exact .of_registered (evolves_setTime trivial) rfl
  | view r => exact .refl sv
  | send c e => exact .of_registered (.of_sessions rfl rfl rfl) rfl

/-- Whatever calls a handler makes. -/
theorem retires_run {α : Type} (h : Handler α) (sv : Server) : sv.Retires (h.run sv).2 := by
  induction h generalizing sv with
  | done a => exact .refl sv
  | call q next ih => exact (retires_answer sv q).trans (ih _ _)

theorem retires_hangUp (sv : Server) (c : ConnectionId) : sv.Retires (sv.hangUp c) := by
  have hleft : sv.Retires (sv.disconnect c) := retires_run _ sv
  exact hleft.trans (.of_registered (.of_sessions rfl rfl rfl) rfl)

theorem retires_receive (sv : Server) (c : ConnectionId) (f : Frame) : sv.Retires (sv.receive c f) := by
  unfold Server.receive
  split
  · exact (retires_hangUp sv c).trans (.of_registered (.of_sessions rfl rfl rfl) rfl)
  · cases f with
    | text text =>
      change sv.Retires (sv.receiveText c text)
      unfold receiveText
      split
      · exact retires_run _ sv
      · exact .of_registered (.of_sessions rfl rfl rfl) rfl
    | _ => exact .of_registered (.of_sessions rfl rfl rfl) rfl

/-- A session that loses its registration in an operation is shut down. -/
theorem isShutDown_of_unregistered (hs : sv.sessions[n]? = some s) {id : SessionId}
    (hn : sv.registered[id]? = some n) {o : Operation} (hlost : (sv.perform o).registered[id]? ≠ some n)
    (ht : (sv.perform o).sessions[n]? = some t) : t.IsShutDown := by
  have hretires : sv.Retires (sv.perform o) ∨ (sv.perform o).registered = sv.registered := by
    cases o with
    | input i =>
      cases i with
      | dispatch c event data => exact .inl (retires_run _ sv)
      | disconnect c => exact .inl (retires_run _ sv)
      | receive c f => exact .inl (retires_receive sv c f)
      | hangUp c => exact .inl (retires_hangUp sv c)
      | around occurrence => exact .inr (by cases occurrence <;> rfl)
    | create videoId time => exact .inl (retires_create sv videoId time)
    | newSession id videoId time => exact .inr rfl
    | destroy id => exact .inl (retires_destroy sv id)
    | destroyIfEmpty id => exact .inl (retires_destroyIfEmpty sv id)
    | bind c id => exact .inr rfl
    | unbind c => exact .inr (registered_unbind sv c)
    | send c e => exact .inr rfl
    | onSession m o =>
      simp only [Server.perform]
      split
      · cases o with
        | insert => exact .inl (retires_insert sv _)
        | _ => exact .inr rfl
      · exact .inr rfl
  rcases hretires with hretires | hsame
  · rcases hretires.registered id n s t hn hs ht with hstill | hdown
    · exact absurd hstill hlost
    · exact hdown
  · rw [hsame] at hlost
    exact absurd hn hlost

/-! ## Closing is final -/

theorem addMember_to_closed (hs : sv.sessions[n]? = some s) (hclosed : s.closed = true)
    (id : SessionId) (c : ConnectionId) (nick : String) :
    sv.addMember ⟨n, id⟩ c nick = (.error (.sessionClosed s.id), sv) :=
  addMember_closed (r := ⟨n, id⟩) hs hclosed c nick

theorem play_of_closed (hs : sv.sessions[n]? = some s) (hclosed : s.closed = true) (id : SessionId) :
    sv.play ⟨n, id⟩ = sv := by
  unfold play
  rw [onSession_eq (r := ⟨n, id⟩) hs, Session.play_closed hclosed]
  simp only [set_of_some hs]

/-- An operation after which a closed session is elsewhere has moved it there. -/
theorem movesTo_of_closed (hs : sv.sessions[n]? = some s) (hclosed : s.closed = true) {o : Operation}
    (ht : (sv.perform o).sessions[n]? = some t) : t.time = s.time ∨ sv.MovesTo n t.time o := by
  obtain ⟨changes, hafter, hallowed, -⟩ := perform_session hs o
  rw [hafter] at ht
  cases ht
  by_cases hsame : (s.afterAll changes).time = s.time
  · exact .inl hsame
  · exact .inr (hallowed _ (Session.moveTo_mem_of_time_ne hclosed hsame))

/-- The session of the number was closed as `s`, and is `t` now. It has no members that it did not have
and refuses others; to play it changes nothing and tells nobody; and only a seek moves it. -/
structure Defunct (sv : Server) (n : Nat) (s t : Session) : Prop where
  here : sv.sessions[n]? = some t
  closed : t.closed = true
  members : ∀ (c : ConnectionId) (m : Member), t.members[c]? = some m → s.members[c]? = some m
  refuses : ∀ id c nick, sv.addMember ⟨n, id⟩ c nick = (.error (.sessionClosed s.id), sv)
  rests : ∀ id, sv.play ⟨n, id⟩ = sv
  moves : ∀ o (u : Session), (sv.perform o).sessions[n]? = some u → u.time = t.time ∨ sv.MovesTo n u.time o

/-- No changes revive a session that was closed. -/
theorem defunct_afterAll (hclosed : s.closed = true) {changes : List Change}
    (hafter : sv.sessions[n]? = some (s.afterAll changes)) : sv.Defunct n s (s.afterAll changes) := by
  have hstill := Session.closed_afterAll hclosed changes
  have hrefuses := addMember_to_closed hafter hstill
  rw [s.id_afterAll] at hrefuses
  exact ⟨hafter, hstill, fun _ _ => Session.members_afterAll hclosed changes, hrefuses,
    play_of_closed hafter hstill, fun _ _ => movesTo_of_closed hafter hstill⟩

/-- The operation closes the session of the number, which is `t` then, in one of the ways that shut it
down: it is one of those that do so, or it takes away a registration of the session, or it closes it in
any way but for having no members. -/
def Ends (sv : Server) (n : Nat) (o : Operation) (t : Session) : Prop :=
  sv.ShutsDown n o ∨
    ∃ s : Session, sv.sessions[n]? = some s ∧
      ((∃ id : SessionId, sv.registered[id]? = some n ∧ (sv.perform o).registered[id]? ≠ some n) ∨
        s.closed = false ∧ t.closed = true ∧ o ≠ .onSession n .closeIfEmpty)

theorem Ends.isShutDown {o : Operation} (h : sv.Ends n o t)
    (ht : (sv.perform o).sessions[n]? = some t) : t.IsShutDown := by
  rcases h with hshuts | ⟨s, hs, ⟨id, hn, hlost⟩ | ⟨hopen, hclosed, hnot⟩⟩
  · exact hshuts.isShutDown ht
  · exact isShutDown_of_unregistered hs hn hlost ht
  · obtain ⟨changes, hafter, hallowed, -⟩ := perform_session hs o
    rw [hafter] at ht
    cases ht
    refine Session.isShutDown_of_closed hopen (fun x hx => ?_) hclosed
    rintro rfl
    exact hnot (hallowed _ hx)

/-- Whatever is done to a server after one of its sessions is closed, the session stays defunct. If it was
shut down it moreover stays paused, and its clock will end when it settles next, whatever is asked of it
before, and will not tick; once the clocks have settled, it has ended. And every operation that closes a
session, other than closing it for having no members, shuts it down. -/
theorem closing_is_final (sv : Server) (n : Nat) (operations : List Operation) :
    let sv' := sv.performAll operations
    (∀ s : Session, sv.sessions[n]? = some s → s.closed = true →
      ∃ t : Session, sv'.Defunct n s t ∧
        (s.IsShutDown → t.paused = true ∧
          (∀ (flags : List Bool) (now : Nat),
            ((flags.foldl Clock.setRunning t.clock).settle now).1.isFinished = true ∧
              ((flags.foldl Clock.setRunning t.clock).settle now).2 = 0) ∧
          ((∃ o ∈ operations, o.elapses?.isSome) → t.clock.isFinished = true))) ∧
    ∀ o (t : Session), (sv.perform o).sessions[n]? = some t → sv.Ends n o t → t.IsShutDown := by
  intro sv'
  refine ⟨fun s hs hclosed => ?_, fun o t ht hends => hends.isShutDown ht⟩
  obtain ⟨changes, hafter, hsettles⟩ := performAll_session hs operations
  refine ⟨_, defunct_afterAll hclosed hafter, fun hdown => ?_⟩
  have hdown' := hdown.afterAll changes
  refine ⟨hdown'.paused, fun flags now => ?_, fun hsettled => ?_⟩
  · have hcancelled := (Clock.cancelled_setRunning _ flags).trans hdown'.cancelled
    rw [Clock.settle_of_cancelled hcancelled]
    exact ⟨rfl, rfl⟩
  · have hphase := hdown.finished_afterAll (.inr (hsettles hsettled))
    simp [Clock.isFinished, hphase]

/-- A session that plays when it is shut down: to play it again does not help, nor does the time that
passes. -/
theorem shut_down_while_playing :
    let sv := (start {}).performAll [.create 1 0, .input (.around .settle), .onSession 0 .play,
      .input (.around .settle), .input (.around (.elapse 5)), .onSession 0 .shutdown]
    let later : List Operation := [.onSession 0 .play, .input (.around (.elapse 9))]
    ∃ s t : Session, sv.sessions[0]? = some s ∧ s.time = 5 ∧ s.IsShutDown ∧
      (sv.performAll later).sessions[0]? = some t ∧ t.closed = true ∧ t.paused = true ∧
      t.clock.isFinished = true := by
  intro sv later
  have hfacts : sv.sessions[0]?.map (fun s => (s.time, s.closed, s.paused, s.clock.cancelled)) =
      some (5, true, true, true) := by decide
  obtain ⟨s, hs, hfacts⟩ := Option.map_eq_some_iff.1 hfacts
  simp only [Prod.mk.injEq] at hfacts
  obtain ⟨htime, hclosed, hpaused, hcancelled⟩ := hfacts
  obtain ⟨t, hdefunct, hfinal⟩ := (closing_is_final sv 0 later).1 s hs hclosed
  obtain ⟨hrests, -, hends⟩ := hfinal ⟨hclosed, hpaused, hcancelled⟩
  have hsettles : ∃ o ∈ later, o.elapses?.isSome := ⟨.input (.around (.elapse 9)), by simp [later], rfl⟩
  exact ⟨s, t, hs, htime, ⟨hclosed, hpaused, hcancelled⟩, hdefunct.here, hdefunct.closed, hrests,
    hends hsettles⟩

end Server

end WatchParty
