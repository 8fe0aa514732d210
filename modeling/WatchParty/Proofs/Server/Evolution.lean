/-
What can happen to a session, whatever is done to its server. Every operation takes each session
through a few changes, one after the other, and makes new sessions at most: `Server.Evolves`. A
property of single sessions therefore holds throughout if it holds of a new session and no change
breaks it. All changes but those by a clock and by a seek are `Still`: playback is where it was.
-/
import WatchParty.Proofs.Server.Calls

namespace WatchParty

/-! ## Changes of one session -/

namespace Session

/-- What can happen to a session at once. -/
inductive Change
  | play
  | pause
  | moveTo (time : UInt64)
  | enter (c : ConnectionId) (nick : String)
  | leave (c : ConnectionId)
  | closeIfEmpty
  | shutdown
  | endClock
  | settle (now : Nat)

/-- The session after a change. What is sent on that occasion has no part in it. -/
def after (s : Session) : Change → Session
  | .play => (s.play .empty).1
  | .pause => (s.pause .empty).1
  | .moveTo time => (s.setTime time .empty).1
  | .enter c nick => (s.addMember c nick .empty).2.1
  | .leave c => (s.removeMember c .empty).2.1
  | .closeIfEmpty => s.closeIfEmpty.2
  | .shutdown => s.shutdown
  | .endClock => { s with clock := s.clock.cancel }
  | .settle now => s.settle now

/-- The session after one change and the next. -/
def afterAll (s : Session) (changes : List Change) : Session := changes.foldl after s

/-- The change is one that handlers bring about, short of a seek: playback stays where it is. -/
def Change.Still : Change → Prop
  | .play => True
  | .pause => True
  | .enter .. => True
  | .leave _ => True
  | .shutdown => True
  | _ => False

theorem afterAll_append (s : Session) (first rest : List Change) :
    s.afterAll (first ++ rest) = (s.afterAll first).afterAll rest :=
  List.foldl_append

/-- A property that no change of a kind breaks is kept by any number of them. -/
theorem afterAll_keeps {K : Change → Prop} {P : Session → Prop}
    (hstep : ∀ s x, K x → P s → P (s.after x)) {s : Session} (hs : P s) {changes : List Change}
    (hkind : ∀ x ∈ changes, K x) : P (s.afterAll changes) := by
  induction changes generalizing s with
  | nil => exact hs
  | cons x rest ih =>
    have hx := hstep s x (hkind x List.mem_cons_self) hs
    exact ih hx fun y hy => hkind y (List.mem_cons_of_mem x hy)

/-! ## What each change does -/

theorem play_closed {s : Session} (h : s.closed = true) (net : Network) : s.play net = (s, net) := by
  simp [play, h]

theorem play_open {s : Session} (h : s.closed = false) (net : Network) :
    (s.play net).1 = { s with paused := false, clock := s.clock.resume } := by
  simp [play, h]

theorem without_of_none {s : Session} {c : ConnectionId} (h : s.members[c]? = none) :
    s.without c = s := by
  have hsame : s.members.erase c = s.members := by
    refine Std.ExtTreeMap.ext_getElem? fun d => ?_
    rw [Std.ExtTreeMap.getElem?_erase]
    split
    · rename_i hcd
      cases Std.LawfulEqCmp.compare_eq_iff_eq.1 hcd
      exact h.symm
    · rfl
  unfold without
  rw [hsame]

theorem removeMember_session (s : Session) (c : ConnectionId) (net : Network) :
    (s.removeMember c net).2.1 = s.without c := by
  cases hm : s.members[c]? with
  | none =>
    rw [without_of_none hm]
    unfold removeMember
    rw [hm]
  | some m => rw [removeMember_of_some hm]

variable (s : Session) (net : Network)

theorem after_play : (s.play net).1 = s.after .play := by
  unfold after play
  split
  · rfl
  · rfl

theorem after_play_open {s : Session} (h : s.closed = false) :
    s.after .play = { s with paused := false, clock := s.clock.resume } :=
  play_open h .empty

theorem after_play_closed {s : Session} (h : s.closed = true) : s.after .play = s :=
  congrArg Prod.fst (play_closed h .empty)

theorem after_enter (c : ConnectionId) (nick : String) :
    (s.addMember c nick net).2.1 = s.after (.enter c nick) := by
  unfold after addMember
  split
  · rfl
  · rfl

theorem after_enter_open {s : Session} (h : s.closed = false) (c : ConnectionId) (nick : String) :
    s.after (.enter c nick) = s.withMember c nick :=
  congrArg (fun outcome => outcome.2.1) (addMember_open h c nick .empty)

theorem after_enter_closed {s : Session} (h : s.closed = true) (c : ConnectionId) (nick : String) :
    s.after (.enter c nick) = s :=
  congrArg (fun outcome => outcome.2.1) (addMember_closed h c nick .empty)

theorem after_leave (c : ConnectionId) : s.after (.leave c) = s.without c :=
  s.removeMember_session c .empty

theorem after_closeIfEmpty :
    s.after .closeIfEmpty = { s with closed := s.closed || s.members.isEmpty } := by
  change s.closeIfEmpty.2 = _
  unfold closeIfEmpty
  split
  · rename_i hempty
    simp [hempty]
  · rename_i hmembers
    simp [hmembers]

/-- The ticks of its clock do not move a session that is paused or closed. -/
theorem time_settle_of_frozen {s : Session} (h : (s.paused || s.closed) = true) (now : Nat) :
    (s.settle now).time = s.time := by
  change (if s.paused || s.closed then s.time else s.advance _) = s.time
  rw [if_pos h]

theorem time_settle_of_playing {s : Session} (h : (s.paused || s.closed) = false) (now : Nat) :
    (s.settle now).time = s.advance (s.clock.settle now).2 := by
  change (if s.paused || s.closed then s.time else s.advance _) = _
  rw [h]
  rfl

/-- The change may take a session to another position. -/
def Change.Moves : Change → Prop
  | .moveTo _ => True
  | .settle _ => True
  | _ => False

/-- What a change does not touch: the session keeps its id, its default nickname and the period of
its clock, and is where it was unless the change may move it. -/
structure Retains (x : Change) (s t : Session) : Prop where
  id : t.id = s.id
  defaultNick : t.defaultNick = s.defaultNick
  period : t.clock.period = s.clock.period
  time : ¬ x.Moves → t.time = s.time

theorem retains_after (s : Session) (x : Change) : Retains x s (s.after x) := by
  cases x with
  | play =>
    cases hclosed : s.closed with
    | true => rw [after_play_closed hclosed]; exact ⟨rfl, rfl, rfl, fun _ => rfl⟩
    | false => rw [after_play_open hclosed]; exact ⟨rfl, rfl, rfl, fun _ => rfl⟩
  | enter c nick =>
    cases hclosed : s.closed with
    | true => rw [after_enter_closed hclosed]; exact ⟨rfl, rfl, rfl, fun _ => rfl⟩
    | false => rw [after_enter_open hclosed]; exact ⟨rfl, rfl, rfl, fun _ => rfl⟩
  | leave c => rw [after_leave]; exact ⟨rfl, rfl, rfl, fun _ => rfl⟩
  | closeIfEmpty => rw [after_closeIfEmpty]; exact ⟨rfl, rfl, rfl, fun _ => rfl⟩
  | moveTo time => exact ⟨rfl, rfl, rfl, fun h => absurd trivial h⟩
  | settle now => exact ⟨rfl, rfl, rfl, fun h => absurd trivial h⟩
  | _ => exact ⟨rfl, rfl, rfl, fun _ => rfl⟩

/-- Between two settlings the clock stays in its phase. Unless it is cancelled, its flag is what it was, or
has been set together with the session's, which the mark says. -/
structure KeepsPhase (s t : Session) : Prop where
  phase : t.clock.phase = s.clock.phase
  cancelled : s.clock.cancelled = true → t.clock.cancelled = true
  flag : t.clock.cancelled = false →
    (t.paused = s.paused ∧ t.clock.running = s.clock.running ∧ t.clock.changed = s.clock.changed) ∨
      (t.clock.running = !t.paused ∧ t.clock.changed = true)

theorem KeepsPhase.refl (s : Session) : s.KeepsPhase s :=
  ⟨rfl, fun hc => hc, fun _ => .inl ⟨rfl, rfl, rfl⟩⟩

theorem keepsPhase_after (s : Session) {x : Change} (hx : ∀ now, x ≠ .settle now) :
    s.KeepsPhase (s.after x) := by
  cases x with
  | play =>
    cases hclosed : s.closed with
    | true => rw [after_play_closed hclosed]; exact .refl s
    | false => rw [after_play_open hclosed]; exact ⟨rfl, fun hc => hc, fun _ => .inr ⟨rfl, rfl⟩⟩
  | pause => exact ⟨rfl, fun hc => hc, fun _ => .inr ⟨rfl, rfl⟩⟩
  | enter c nick =>
    cases hclosed : s.closed with
    | true => rw [after_enter_closed hclosed]; exact .refl s
    | false => rw [after_enter_open hclosed]; exact ⟨rfl, fun hc => hc, fun _ => .inl ⟨rfl, rfl, rfl⟩⟩
  | leave c => rw [after_leave]; exact ⟨rfl, fun hc => hc, fun _ => .inl ⟨rfl, rfl, rfl⟩⟩
  | closeIfEmpty => rw [after_closeIfEmpty]; exact ⟨rfl, fun hc => hc, fun _ => .inl ⟨rfl, rfl, rfl⟩⟩
  | moveTo time => exact ⟨rfl, fun hc => hc, fun _ => .inl ⟨rfl, rfl, rfl⟩⟩
  | shutdown => exact ⟨rfl, fun _ => rfl, nofun⟩
  | endClock => exact ⟨rfl, fun _ => rfl, nofun⟩
  | settle now => exact absurd rfl (hx now)

theorem KeepsPhase.uncancelled {s t : Session} (h : s.KeepsPhase t) (hc : t.clock.cancelled = false) :
    s.clock.cancelled = false := by
  cases hs : s.clock.cancelled with
  | true => exact absurd (h.cancelled hs) (by simp [hc])
  | false => rfl

/-- Whatever happens between two settlings, the flag of the clock goes with the session. -/
theorem KeepsPhase.running {s t : Session} (h : s.KeepsPhase t)
    (hs : s.clock.cancelled = false → s.clock.running = !s.paused) (hc : t.clock.cancelled = false) :
    t.clock.running = !t.paused := by
  rcases h.flag hc with ⟨hpaused, hrunning, -⟩ | ⟨hrunning, -⟩
  · rw [hrunning, hpaused]
    exact hs (h.uncancelled hc)
  · exact hrunning

/-- Without the mark the flag is as it was. -/
theorem KeepsPhase.unchanged {s t : Session} (h : s.KeepsPhase t) (hc : t.clock.cancelled = false)
    (hch : t.clock.changed = false) : s.clock.changed = false ∧ t.clock.running = s.clock.running := by
  rcases h.flag hc with ⟨-, hrunning, hchanged⟩ | ⟨-, hchanged⟩
  · exact ⟨hchanged.symm.trans hch, hrunning⟩
  · rw [hch] at hchanged
    cases hchanged

/-- No change gives a session another id. -/
theorem id_after (s : Session) (x : Change) : (s.after x).id = s.id := (s.retains_after x).id

theorem id_afterAll (s : Session) (changes : List Change) : (s.afterAll changes).id = s.id :=
  afterAll_keeps (K := fun _ => True) (P := fun t => t.id = s.id)
    (fun t x _ ht => (t.id_after x).trans ht) rfl fun _ _ => trivial

end Session

namespace Server

open Session (Change)

/-! ## Changes of a server -/

/-- Where the session of a number begins: with what it is, or with a new session if there is none. -/
def Begins (sv : Server) (n : Nat) (s : Session) : Prop :=
  sv.sessions[n]? = some s ∨
    sv.sessions[n]? = none ∧ ∃ id videoId time, s = Session.new sv.settings id videoId time

/-- No time has passed, no session is gone, and each has gone through changes of the kind. -/
structure Evolves (kind : Nat → Change → Prop) (sv sv' : Server) : Prop where
  now : sv'.now = sv.now
  settings : sv'.settings = sv.settings
  length : sv.sessions.length ≤ sv'.sessions.length
  origin : ∀ (n : Nat) (t : Session), sv'.sessions[n]? = some t →
    ∃ s changes, sv.Begins n s ∧ (∀ x ∈ changes, kind n x) ∧ t = s.afterAll changes

variable {kind kind' : Nat → Change → Prop} {sv sv' sv₁ sv₂ sv₃ : Server} {r : SessionRef}

theorem Evolves.of_sessions (hnow : sv'.now = sv.now) (hsettings : sv'.settings = sv.settings)
    (hsessions : sv'.sessions = sv.sessions) : Evolves kind sv sv' where
  now := hnow
  settings := hsettings
  length := Nat.le_of_eq (by rw [hsessions])
  origin n t ht := ⟨t, [], .inl (by rw [← hsessions]; exact ht), by simp, rfl⟩

theorem Evolves.refl (sv : Server) : Evolves kind sv sv := .of_sessions rfl rfl rfl

theorem Evolves.trans (h : Evolves kind sv₁ sv₂) (k : Evolves kind sv₂ sv₃) :
    Evolves kind sv₁ sv₃ where
  now := k.now.trans h.now
  settings := k.settings.trans h.settings
  length := Nat.le_trans h.length k.length
  origin n u hu := by
    obtain ⟨t, later, hbegins, hlater, rfl⟩ := k.origin n u hu
    rcases hbegins with ht | ⟨hnone, id, videoId, time, rfl⟩
    · obtain ⟨s, earlier, hs, hearlier, rfl⟩ := h.origin n t ht
      refine ⟨s, earlier ++ later, hs, fun x hx => ?_, (s.afterAll_append earlier later).symm⟩
      rcases List.mem_append.1 hx with hx | hx
      · exact hearlier x hx
      · exact hlater x hx
    · -- the session is made in the second part, so there was none before the first
      have hlen := List.getElem?_eq_none_iff.1 hnone
      have hbefore := List.getElem?_eq_none_iff.2 (Nat.le_trans h.length hlen)
      rw [h.settings]
      exact ⟨_, later, .inr ⟨hbefore, id, videoId, time, rfl⟩, hlater, rfl⟩

theorem Evolves.mono (h : Evolves kind sv sv') (hkind : ∀ n x, kind n x → kind' n x) :
    Evolves kind' sv sv' where
  now := h.now
  settings := h.settings
  length := h.length
  origin n t ht := by
    obtain ⟨s, changes, hs, hchanges, heq⟩ := h.origin n t ht
    exact ⟨s, changes, hs, fun x hx => hkind n x (hchanges x hx), heq⟩

/-- A session that was there is still there, after changes of the kind. -/
theorem Evolves.session (h : Evolves kind sv sv') {n : Nat} {s : Session}
    (hs : sv.sessions[n]? = some s) :
    ∃ changes, (∀ x ∈ changes, kind n x) ∧ sv'.sessions[n]? = some (s.afterAll changes) := by
  have hlt : n < sv'.sessions.length :=
    Nat.lt_of_lt_of_le (List.getElem?_eq_some_iff.1 hs).1 h.length
  obtain ⟨s', changes, hbegins, hchanges, heq⟩ := h.origin n _ (List.getElem?_eq_getElem hlt)
  rcases hbegins with hs' | ⟨hnone, -⟩
  · rw [hs] at hs'
    cases hs'
    exact ⟨changes, hchanges, by rw [List.getElem?_eq_getElem hlt, heq]⟩
  · rw [hs] at hnone
    cases hnone

/-- It is known by the same reference. -/
theorem Evolves.has (h : Evolves kind sv sv') {ref : SessionRef} (hr : sv.Has ref) : sv'.Has ref := by
  obtain ⟨s, hs, hid⟩ := hr
  obtain ⟨changes, -, ht⟩ := h.session hs
  exact ⟨_, ht, (s.id_afterAll changes).trans hid⟩

theorem evolves_onSession {α : Type} {f : Session → Network → α × Session × Network}
    (hf : ∀ s net, (f s net).2.1 = s ∨ ∃ x, kind r.number x ∧ (f s net).2.1 = s.after x) :
    Evolves kind sv (sv.onSession r f).2 where
  now := rfl
  settings := rfl
  length := Nat.le_of_eq (by simp [onSession])
  origin n t ht := by
    simp only [onSession, List.getElem?_set] at ht
    split at ht
    · rename_i hn
      subst hn
      split at ht
      · rename_i hlt
        have hs := List.getElem?_eq_getElem hlt
        cases ht
        rw [session_eq hs]
        rcases hf sv.sessions[r.number] sv.network with hsame | ⟨x, hx, hafter⟩
        · exact ⟨_, [], .inl hs, by simp, hsame⟩
        · exact ⟨_, [x], .inl hs, by simpa using hx, hafter⟩
      · cases ht
    · exact ⟨t, [], .inl ht, by simp, rfl⟩

theorem evolves_modify {f : Session → Session} {x : Change} (hx : kind r.number x)
    (hf : ∀ s, f s = s.after x) : Evolves kind sv (sv.modify r f) :=
  evolves_onSession (α := Unit) (f := fun s net => ((), f s, net)) fun s _ => .inr ⟨x, hx, hf s⟩

theorem evolves_newSession (sv : Server) (id : SessionId) (videoId time : UInt64) :
    Evolves kind sv (sv.newSession id videoId time).2 where
  now := rfl
  settings := rfl
  length := by simp [newSession]
  origin n t ht := by
    rcases getElem?_concat_eq_some.1 ht with ht | ⟨rfl, rfl⟩
    · exact ⟨t, [], .inl ht, by simp, rfl⟩
    · exact ⟨_, [], .inr ⟨List.getElem?_eq_none (Nat.le_refl _), id, videoId, time, rfl⟩, by simp, rfl⟩

/-! ## Still changes -/

/-- All changes of sessions are still ones. -/
def EvolvesStill (sv sv' : Server) : Prop := Evolves (fun _ x => x.Still) sv sv'

theorem EvolvesStill.of_sessions (hnow : sv'.now = sv.now) (hsettings : sv'.settings = sv.settings)
    (hsessions : sv'.sessions = sv.sessions) : EvolvesStill sv sv' :=
  Evolves.of_sessions hnow hsettings hsessions

theorem EvolvesStill.refl (sv : Server) : EvolvesStill sv sv := Evolves.refl sv

theorem EvolvesStill.trans (h : EvolvesStill sv₁ sv₂) (k : EvolvesStill sv₂ sv₃) :
    EvolvesStill sv₁ sv₃ :=
  Evolves.trans h k

theorem still_play (sv : Server) (r : SessionRef) : EvolvesStill sv (sv.play r) :=
  evolves_onSession fun s net => .inr ⟨.play, trivial, s.after_play net⟩

theorem still_pause (sv : Server) (r : SessionRef) : EvolvesStill sv (sv.pause r) :=
  evolves_onSession fun _ _ => .inr ⟨.pause, trivial, rfl⟩

theorem still_addMember (sv : Server) (r : SessionRef) (c : ConnectionId) (nick : String) :
    EvolvesStill sv (sv.addMember r c nick).2 :=
  evolves_onSession fun s net => .inr ⟨.enter c nick, trivial, s.after_enter net c nick⟩

theorem still_removeMember (sv : Server) (r : SessionRef) (c : ConnectionId) :
    EvolvesStill sv (sv.removeMember r c).2 :=
  evolves_onSession fun s net => by
    refine .inr ⟨.leave c, trivial, ?_⟩
    rw [s.removeMember_session, s.after_leave]

theorem still_shutdown (sv : Server) (r : SessionRef) : EvolvesStill sv (sv.shutdown r) :=
  evolves_modify (x := .shutdown) trivial fun _ => rfl

theorem still_insert (sv : Server) (r : SessionRef) : EvolvesStill sv (sv.insert r) := by
  unfold Server.insert
  cases sv.registeredRef? r.id with
  | none => exact .of_sessions rfl rfl rfl
  | some displaced =>
    refine EvolvesStill.trans ?_ (still_shutdown _ displaced)
    exact .of_sessions rfl rfl rfl

theorem still_create (sv : Server) (videoId time : UInt64) :
    EvolvesStill sv (sv.create videoId time).2 := by
  have hissued : EvolvesStill sv { sv with issued := sv.issued + 1 } := .of_sessions rfl rfl rfl
  have hmade : ∀ id, EvolvesStill { sv with issued := sv.issued + 1 }
      (newSession { sv with issued := sv.issued + 1 } id videoId time).2 := fun id =>
    evolves_newSession _ id videoId time
  exact (hissued.trans (hmade _)).trans (still_insert _ _)

theorem still_destroy (sv : Server) (id : SessionId) : EvolvesStill sv (sv.destroy id).2 := by
  unfold Server.destroy
  cases sv.registeredRef? id with
  | none => exact .refl sv
  | some r =>
    refine EvolvesStill.trans ?_ (still_shutdown _ r)
    exact .of_sessions rfl rfl rfl

/-- A session that is taken out is shut down, and nothing else happens to any. -/
theorem still_destroyIfEmpty (sv : Server) (id : SessionId) :
    EvolvesStill sv (sv.destroyIfEmpty id).2 := by
  cases hr : sv.registeredRef? id with
  | none =>
    rw [destroyIfEmpty_of_none hr]
    exact .refl sv
  | some r =>
    cases hs : sv.sessions[r.number]? with
    | none =>
      have hset : ∀ s, sv.sessions.set r.number s = sv.sessions := fun s =>
        List.set_eq_of_length_le (List.getElem?_eq_none_iff.1 hs)
      unfold Server.destroyIfEmpty
      simp only [hr, closeIfEmpty, onSession, hset]
      split
      · exact .of_sessions rfl rfl (by simp only [shutdown, modify, hset])
      · exact .of_sessions rfl rfl rfl
    | some s =>
      rw [destroyIfEmpty_of_some hr hs]
      split
      · exact (still_shutdown sv r).trans (.of_sessions rfl rfl rfl)
      · exact .refl sv

theorem still_unbind (sv : Server) (c : ConnectionId) : EvolvesStill sv (sv.unbind c).2 := by
  unfold Server.unbind
  cases sv.boundSession? c with
  | none => exact .refl sv
  | some id =>
    have hunbound : EvolvesStill sv { sv with bindings := sv.bindings.erase c } :=
      .of_sessions rfl rfl rfl
    simp only
    split
    · exact hunbound
    · exact hunbound.trans (still_removeMember _ _ c)

end Server

/-! ## Calls -/

/-- The call sets no session to a position. -/
def Call.Moveless : Call → Prop
  | .setTime .. => False
  | _ => True

theorem Call.Moveless.still {q : Call} (hq : q.Moveless) (sv : Server) :
    sv.EvolvesStill (sv.answer q).2 := by
  cases q with
  | lookup id => exact .refl sv
  | boundSession c => exact .refl sv
  | unbind c => exact Server.still_unbind sv c
  | destroyIfEmpty id => exact Server.still_destroyIfEmpty sv id
  | create videoId time => exact Server.still_create sv videoId time
  | addMember r c nick => exact Server.still_addMember sv r c nick
  | bind c id => exact .of_sessions rfl rfl rfl
  | play r => exact Server.still_play sv r
  | pause r => exact Server.still_pause sv r
  | setTime r time => exact absurd hq fun h => h
  | view r => exact .refl sv
  | send c e => exact .of_sessions rfl rfl rfl

end WatchParty
