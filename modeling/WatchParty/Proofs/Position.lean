/-
Where a session is over a stretch of a run in which nobody sets its position. Only the ticks of its clock
that find it playing take it along, each by a period, and at the last position it stays. So its position
never falls and never wraps, and while the session is paused it is where it was: `perform_unmoved` for
one operation and `performAll_unmoved` for any number of them.
-/
import WatchParty.Proofs.Pace

namespace WatchParty

/-! ## One session -/

namespace Session

theorem Change.Still.not_moves {x : Change} (hx : x.Still) : ¬ x.Moves := by
  cases x with
  | moveTo time => exact absurd hx fun h => h
  | settle now => exact absurd hx fun h => h
  | _ => exact fun h => h

theorem time_afterAll {s : Session} {changes : List Change} (h : ∀ x ∈ changes, ¬ x.Moves) :
    (s.afterAll changes).time = s.time :=
  afterAll_keeps (K := fun x => ¬ x.Moves) (P := fun t => t.time = s.time)
    (fun t x hx ht => ((t.retains_after x).time hx).trans ht) rfl h

theorem period_afterAll (s : Session) (changes : List Change) :
    (s.afterAll changes).clock.period = s.clock.period :=
  afterAll_keeps (K := fun _ => True) (P := fun t => t.clock.period = s.clock.period)
    (fun t x _ ht => (t.retains_after x).period.trans ht) rfl fun _ _ => trivial

/-- How many ticks of its clock find the session playing when the clock settles at an instant. -/
def playedTicks (s : Session) (now : Nat) : Nat :=
  if s.paused || s.closed then 0 else (s.clock.settle now).2

theorem playedTicks_of_paused {s : Session} (h : s.paused = true) (now : Nat) :
    s.playedTicks now = 0 := by
  simp [playedTicks, h]

/-- Each such tick takes the session a period along, up to the last position. -/
theorem toNat_time_settle (s : Session) (now : Nat) :
    (s.settle now).time.toNat =
      min lastPosition (s.time.toNat + s.playedTicks now * s.clock.period) := by
  unfold playedTicks
  cases hfrozen : s.paused || s.closed with
  | true =>
    have hlast := s.time_le_lastPosition
    rw [time_settle_of_frozen hfrozen, if_pos rfl, Nat.zero_mul, Nat.add_zero, Nat.min_eq_right hlast]
  | false => rw [time_settle_of_playing hfrozen, toNat_advance, if_neg Bool.false_ne_true]

/-- Two stretches count as one. -/
theorem min_lastPosition_add (a b c : Nat) :
    min lastPosition (min lastPosition (a + b) + c) = min lastPosition (a + (b + c)) := by
  omega

end Session

namespace Server

open Session (Change)

variable {sv : Server} {n : Nat} {s : Session} {o : Operation} {rest : List Operation}

/-! ## Stretches -/

/-- No operation of the stretch sets the position of the session of the number. -/
def Unmoved (n : Nat) (sv : Server) (stretch : List Operation) : Prop :=
  ∀ earlier o, earlier ++ [o] <+: stretch → ∀ time, ¬ (sv.performAll earlier).MovesTo n time o

/-- The session of the number is paused before the stretch, after each operation, and in the end. -/
def PausedThroughout (n : Nat) (sv : Server) (stretch : List Operation) : Prop :=
  ∀ earlier, earlier <+: stretch → ∀ s : Session,
    (sv.performAll earlier).sessions[n]? = some s → s.paused = true

theorem Unmoved.head (h : sv.Unmoved n (o :: rest)) (time : UInt64) : ¬ sv.MovesTo n time o :=
  h [] o (List.cons_prefix_cons.2 ⟨rfl, List.nil_prefix⟩) time

theorem Unmoved.tail (h : sv.Unmoved n (o :: rest)) : (sv.perform o).Unmoved n rest :=
  fun earlier p hp => h (o :: earlier) p (List.cons_prefix_cons.2 ⟨rfl, hp⟩)

theorem PausedThroughout.head (h : sv.PausedThroughout n rest) (hs : sv.sessions[n]? = some s) :
    s.paused = true :=
  h [] List.nil_prefix s hs

theorem PausedThroughout.tail (h : sv.PausedThroughout n (o :: rest)) :
    (sv.perform o).PausedThroughout n rest :=
  fun earlier hearlier => h (o :: earlier) (List.cons_prefix_cons.2 ⟨rfl, hearlier⟩)

/-- How many ticks of its clock find the session of the number playing in an operation. -/
def playedTicks (n : Nat) (sv : Server) (o : Operation) : Nat :=
  match o.elapses?, sv.sessions[n]? with
  | some ms, some s => s.playedTicks (sv.now + ms)
  | _, _ => 0

theorem PausedThroughout.total_eq_zero {stretch : List Operation}
    (h : sv.PausedThroughout n stretch) : sv.total (playedTicks n) stretch = 0 := by
  induction stretch generalizing sv with
  | nil => rfl
  | cons o rest ih =>
    have hfirst : sv.playedTicks n o = 0 := by
      unfold playedTicks
      split
      · rename_i hs
        exact Session.playedTicks_of_paused (h.head hs) _
      · rfl
    change sv.playedTicks n o + _ = 0
    rw [hfirst, ih h.tail]

/-! ## Operations -/

/-- An operation that sets no position and lets no time pass only makes changes that move nothing. -/
theorem Allows.not_moves {x : Change} (hx : sv.Allows o n x) (ho : o.elapses? = none)
    (hunmoved : ∀ time, ¬ sv.MovesTo n time o) : ¬ x.Moves := by
  cases x with
  | moveTo time => exact absurd hx (hunmoved time)
  | settle now =>
    obtain ⟨ms, hms, -⟩ := hx
    rw [ho] at hms
    cases hms
  | _ => exact fun h => h

/-- An operation that does not set the position of the session takes it along by the ticks that find it
playing. -/
theorem perform_unmoved (hs : sv.sessions[n]? = some s) (hunmoved : ∀ time, ¬ sv.MovesTo n time o) :
    ∃ t : Session, (sv.perform o).sessions[n]? = some t ∧ t.clock.period = s.clock.period ∧
      t.time.toNat =
        min Session.lastPosition (s.time.toNat + sv.playedTicks n o * s.clock.period) := by
  rcases sv.perform_cases o with ⟨ms, hms, heq⟩ | ⟨hnone, hevolves⟩
  · refine ⟨s.settle (sv.now + ms), ?_, rfl, ?_⟩
    · rw [heq, getElem?_elapse, hs]
      rfl
    · simp only [playedTicks, hms, hs]
      exact s.toNat_time_settle _
  · obtain ⟨changes, hchanges, ht⟩ := hevolves.session hs
    refine ⟨_, ht, s.period_afterAll changes, ?_⟩
    have hlast := s.time_le_lastPosition
    have hstay : (s.afterAll changes).time = s.time :=
      Session.time_afterAll fun x hx => (hchanges x hx).not_moves hnone hunmoved
    simp only [playedTicks, hnone]
    rw [hstay, Nat.zero_mul, Nat.add_zero, Nat.min_eq_right hlast]

/-- So does any number of such operations. -/
theorem performAll_unmoved {stretch : List Operation} (hs : sv.sessions[n]? = some s)
    (hunmoved : sv.Unmoved n stretch) :
    ∃ t : Session, (sv.performAll stretch).sessions[n]? = some t ∧
      t.time.toNat = min Session.lastPosition
        (s.time.toNat + sv.total (playedTicks n) stretch * s.clock.period) := by
  induction stretch generalizing sv s with
  | nil =>
    refine ⟨s, hs, ?_⟩
    rw [total, Nat.zero_mul, Nat.add_zero, Nat.min_eq_right s.time_le_lastPosition]
  | cons o rest ih =>
    obtain ⟨t, ht, hperiod, htime⟩ := perform_unmoved hs hunmoved.head
    obtain ⟨u, hu, htotal⟩ := ih ht hunmoved.tail
    refine ⟨u, hu, ?_⟩
    rw [htotal, htime, hperiod, Session.min_lastPosition_add, ← Nat.add_mul]
    rfl

/-! ## Moves -/

theorem run_seek {id : SessionId} (hn : sv.registered[id]? = some n) (c : ConnectionId) (time : UInt64) :
    (Handler.handle c (.seek id time)).run sv = (.ok (), sv.setTime ⟨n, id⟩ time) := by
  have hfound : sv.answer (.lookup id) = (.ok ⟨n, id⟩, sv) := by
    simp only [answer, lookup, registeredRef?, hn]
    rfl
  unfold Handler.handle Handler.onSession
  rw [Handler.run_bind, Handler.run_ask, hfound]
  rfl

/-- A seek of a registered session sets its position. -/
theorem Seeks.dispatch {time : UInt64} {event : String} {data : Json} (h : sv.Seeks n time event data)
    (c : ConnectionId) : ∃ id, sv.dispatch c event data = sv.setTime ⟨n, id⟩ time := by
  obtain ⟨id, hdecode, hn⟩ := h
  refine ⟨id, ?_⟩
  unfold Server.dispatch Handler.dispatch
  simp only [hdecode, Handler.run_bind, run_seek hn]
  rfl

/-- A session whose position is set is there, and plays if it did. -/
theorem MovesTo.perform {time : UInt64} (h : sv.MovesTo n time o) (hs : sv.sessions[n]? = some s) :
    ∃ t : Session, (sv.perform o).sessions[n]? = some t ∧ t.time = time ∧ t.paused = s.paused := by
  have hset : ∃ id, sv.perform o = sv.setTime ⟨n, id⟩ time := by
    cases o with
    | onSession m p =>
      cases p with
      | setTime t =>
        obtain ⟨rfl, rfl⟩ := h
        exact ⟨s.id, perform_onSession hs _⟩
      | _ => exact absurd h fun h => h
    | input i =>
      cases i with
      | dispatch c event data => exact Seeks.dispatch h c
      | receive c f =>
        cases f with
        | text text =>
          obtain ⟨envelope, henvelope, hseeks⟩ := h
          obtain ⟨id, heq⟩ := hseeks.dispatch c
          exact ⟨id, (receive_text henvelope sv c).trans heq⟩
        | _ => exact absurd h fun h => h
      | _ => exact absurd h fun h => h
    | _ => exact absurd h fun h => h
  obtain ⟨id, heq⟩ := hset
  refine ⟨(s.setTime time sv.network).1, ?_, rfl, rfl⟩
  rw [heq]
  exact getElem?_onSession hs _

/-! ## Readings -/

/-- A position that is read off the session of the number: it is asked for it, for its status or for
its view, or it is found in a snapshot. -/
inductive Reads (sv : Server) (n : Nat) : UInt64 → Prop
  | time {s : Session} : sv.sessions[n]? = some s → sv.Reads n s.time
  | status {s : Session} : sv.sessions[n]? = some s → sv.Reads n s.status.time
  | view {s : Session} : sv.sessions[n]? = some s → sv.Reads n s.view.status.time
  | snapshot {id : SessionId} {v : SessionView} :
    sv.registered[id]? = some n → (id, v) ∈ sv.snapshot → sv.Reads n v.status.time

/-- All of them agree. -/
theorem Grounded.reads (h : sv.Grounded) {x : UInt64} (hx : sv.Reads n x) :
    ∃ s : Session, sv.sessions[n]? = some s ∧ x = s.time := by
  cases hx with
  | time hs => exact ⟨_, hs, rfl⟩
  | status hs => exact ⟨_, hs, rfl⟩
  | view hs => exact ⟨_, hs, rfl⟩
  | snapshot hn hentry =>
    rename_i id v
    obtain ⟨s, hs, -⟩ := h id n hn
    obtain ⟨r, hr, hv⟩ := mem_snapshot hentry
    change v = _ at hv
    rw [registeredRef?, hn] at hr
    cases hr
    refine ⟨s, hs, ?_⟩
    rw [hv, session_eq (r := ⟨n, id⟩) hs]
    rfl

/-- What is read after a stretch is what was read before it, and the ticks that found the session
playing. -/
theorem Grounded.reads_performAll (h : sv.Grounded) {stretch : List Operation}
    (hunmoved : sv.Unmoved n stretch) {x y : UInt64} (hx : sv.Reads n x)
    (hy : (sv.performAll stretch).Reads n y) :
    ∃ s : Session, sv.sessions[n]? = some s ∧ y.toNat =
      min Session.lastPosition (x.toNat + sv.total (playedTicks n) stretch * s.clock.period) := by
  obtain ⟨s, hs, rfl⟩ := h.reads hx
  obtain ⟨t, ht, htime⟩ := performAll_unmoved hs hunmoved
  obtain ⟨u, hu, rfl⟩ := (h.performAll stretch).reads hy
  rw [ht] at hu
  cases hu
  exact ⟨s, hs, htime⟩

/-- The period of every clock is that of the settings; a period of zero counts as one millisecond. -/
theorem period_performAll (settings : Settings) (operations : List Operation)
    (hs : ((start settings).performAll operations).sessions[n]? = some s) :
    s.clock.period = max settings.tickMs.toNat 1 := by
  have hevery : (start settings).Every (fun s => s.clock.period = max settings.tickMs.toNat 1) settings :=
    every_start _ settings
  have hafter : ∀ (s : Session) x, s.clock.period = max settings.tickMs.toNat 1 →
      (s.after x).clock.period = max settings.tickMs.toNat 1 :=
    fun s x hs => (s.retains_after x).period.trans hs
  have hlater := hevery.performAll (fun _ _ _ => rfl) hafter operations
  exact hlater.session n s hs

end Server

end WatchParty
