/-
Where a session is, as its history tells it. A logbook records when a session was played, paused and
set to a position, and knows nothing of clocks. The position that it accounts for is the one that was
set last, and a period for every full one that has ended since then, each counted from the beginning of
the interval in which the session played: so playing a session that plays changes nothing, pausing it
drops the period that has begun, and a seek leaves the periods where they are.

A session of which the clock settles after every step is always where the logbook says.
-/
import Mathlib.Algebra.GroupWithZero.Nat
import WatchParty.Proofs.Clock
import WatchParty.Proofs.Movement
import WatchParty.Proofs.Pace

namespace WatchParty

/-- What is done to a session in playback. -/
inductive Control
  | play
  | pause
  | seek (time : UInt64)
  | wait (ms : Nat)

def Control.operation (n : Nat) : Control → Operation
  | .play => .onSession n .play
  | .pause => .onSession n .pause
  | .seek time => .onSession n (.setTime time)
  | .wait ms => .input (.around (.elapse ms))

/-- One step after the other, the clocks settling after each. -/
def Control.operations (n : Nat) (controls : List Control) : List Operation :=
  controls.flatMap fun x => [x.operation n, .input (.around .settle)]

/-! ## Logbooks -/

structure Logbook where
  now : Nat
  /-- the position that was set last -/
  value : UInt64
  /-- when it was set -/
  setAt : Nat
  /-- when the session was played, if it plays -/
  playingSince : Option Nat
  /-- the intervals in which it played before, each with its beginning and its end -/
  ended : List (Nat × Nat)

namespace Logbook

/-- The logbook of a session that is made at an instant. -/
def start (now : Nat) (time : UInt64) : Logbook := ⟨now, time, now, none, []⟩

def note (b : Logbook) : Control → Logbook
  | .play => { b with playingSince := b.playingSince.or (some b.now) }
  | .pause =>
    { b with playingSince := none, ended := (b.playingSince.map (·, b.now)).toList ++ b.ended }
  | .seek time => { b with value := time, setAt := b.now }
  | .wait ms => { b with now := b.now + ms }

/-- The intervals in which the session played; the last of them may still go on. -/
def intervals (b : Logbook) : List (Nat × Nat) := (b.playingSince.map (·, b.now)).toList ++ b.ended

/-- The full periods of an interval that have ended since an instant. -/
def periodsSince (instant period : Nat) : Nat × Nat → Nat
  | (first, last) => (max last instant - first) / period - (max first instant - first) / period

/-- The full periods that have ended since the position was set. -/
def periods (b : Logbook) (period : Nat) : Nat :=
  ((b.intervals.filter fun i => b.setAt ≤ i.2).map (periodsSince b.setAt period)).sum

/-- The position that the logbook accounts for. -/
def position (b : Logbook) (period : Nat) : Nat :=
  min Session.lastPosition (b.value.toNat + period * b.periods period)

/-- Nothing in the logbook is later than now. -/
structure Kept (b : Logbook) : Prop where
  setAt : b.setAt ≤ b.now
  since : ∀ a, b.playingSince = some a → a ≤ b.now
  ended : ∀ i ∈ b.ended, i.1 ≤ i.2 ∧ i.2 ≤ b.now

variable {b : Logbook} {period : Nat}

theorem kept_start (now : Nat) (time : UInt64) : (start now time).Kept :=
  ⟨Nat.le_refl _, nofun, nofun⟩

theorem Kept.note (h : b.Kept) (x : Control) : (b.note x).Kept := by
  cases x with
  | play =>
    refine ⟨h.setAt, fun a ha => ?_, h.ended⟩
    cases hb : b.playingSince with
    | none =>
      simp only [Logbook.note, hb, Option.none_or, Option.some.injEq] at ha
      exact Nat.le_of_eq ha.symm
    | some first =>
      simp only [Logbook.note, hb, Option.some_or, Option.some.injEq] at ha
      rw [← ha]
      exact h.since first hb
  | pause =>
    refine ⟨h.setAt, nofun, fun i hi => ?_⟩
    rcases List.mem_append.1 hi with hi | hi
    · obtain ⟨first, hfirst, rfl⟩ := Option.map_eq_some_iff.1 (Option.mem_toList.1 hi)
      exact ⟨h.since first hfirst, Nat.le_refl _⟩
    · exact h.ended i hi
  | seek time => exact ⟨Nat.le_refl _, h.since, h.ended⟩
  | wait ms =>
    have hlater : b.now ≤ b.now + ms := Nat.le_add_right _ _
    exact ⟨Nat.le_trans h.setAt hlater, fun a ha => Nat.le_trans (h.since a ha) hlater,
      fun i hi => ⟨(h.ended i hi).1, Nat.le_trans (h.ended i hi).2 hlater⟩⟩

/-! ## Periods -/

/-- An interval that begins now has no period yet. -/
theorem periods_play (h : b.Kept) (period : Nat) : (b.note .play).periods period = b.periods period := by
  cases hb : b.playingSince with
  | some first => simp [periods, intervals, note, hb]
  | none => simp [periods, intervals, note, hb, periodsSince, h.setAt]

/-- No period has ended since a position was set just now. -/
theorem periods_seek (h : b.Kept) (time : UInt64) (period : Nat) :
    (b.note (.seek time)).periods period = 0 := by
  unfold periods
  rw [List.sum_eq_zero_iff_forall_eq_nat]
  intro k hk
  obtain ⟨⟨first, last⟩, hi, rfl⟩ := List.mem_map.1 hk
  have hlast : first ≤ b.now ∧ last ≤ b.now := by
    rcases List.mem_append.1 (List.mem_filter.1 hi).1 with hi | hi
    · obtain ⟨since, hsince, heq⟩ := Option.map_eq_some_iff.1 (Option.mem_toList.1 hi)
      cases heq
      exact ⟨h.since _ hsince, Nat.le_refl _⟩
    · obtain ⟨hle, hnow⟩ := h.ended _ hi
      exact ⟨Nat.le_trans hle hnow, hnow⟩
  change (max last b.now - first) / period - (max first b.now - first) / period = 0
  rw [Nat.max_eq_right hlast.2, Nat.max_eq_right hlast.1, Nat.sub_self]

theorem periods_wait_paused (hb : b.playingSince = none) (ms period : Nat) :
    (b.note (.wait ms)).periods period = b.periods period := by
  simp [periods, intervals, note, hb]

/-- While the session plays, the periods are those that end at full distances from where it began. -/
theorem periods_wait_playing (h : b.Kept) {first : Nat} (hb : b.playingSince = some first) (ms period : Nat) :
    (b.note (.wait ms)).periods period + (b.now - first) / period =
      b.periods period + (b.now + ms - first) / period := by
  have hset := h.setAt
  have hfirst := h.since first hb
  have hlater : b.setAt ≤ b.now + ms := Nat.le_trans hset (Nat.le_add_right _ _)
  have hstart : (max first b.setAt - first) / period ≤ (b.now - first) / period :=
    Nat.div_le_div_right (by omega)
  have hmore : (b.now - first) / period ≤ (b.now + ms - first) / period :=
    Nat.div_le_div_right (by omega)
  -- the interval that goes on comes first, and the others count as before
  simp only [periods, intervals, note, hb, Option.map_some, Option.toList_some, List.singleton_append,
    List.filter_cons, hset, hlater, decide_true, if_true, List.map_cons, List.sum_cons, periodsSince,
    Nat.max_eq_left hset, Nat.max_eq_left hlater]
  omega

/-! ## Positions -/

theorem position_play (h : b.Kept) (period : Nat) :
    (b.note .play).position period = b.position period := by
  unfold position
  rw [periods_play h]
  rfl

/-- The interval that ends counts as it did while it went on. -/
theorem position_pause (b : Logbook) (period : Nat) :
    (b.note .pause).position period = b.position period := rfl

theorem position_seek (h : b.Kept) (time : UInt64) (period : Nat) :
    (b.note (.seek time)).position period = min Session.lastPosition time.toNat := by
  unfold position
  rw [periods_seek h, Nat.mul_zero, Nat.add_zero]
  rfl

theorem position_wait_paused (hb : b.playingSince = none) (ms period : Nat) :
    (b.note (.wait ms)).position period = b.position period := by
  unfold position
  rw [periods_wait_paused hb]
  rfl

/-! ## Phases -/

/-- When the period ends that has begun in a session which has played since an instant. -/
def nextPeriod (b : Logbook) (period first : Nat) : Nat :=
  first + ((b.now - first) / period + 1) * period

/-- The phase of a clock that has settled. -/
def phase (b : Logbook) (period : Nat) : Phase :=
  match b.playingSince with
  | none => .dormant
  | some first => .active (b.nextPeriod period first)

theorem phase_of_paused (hb : b.playingSince = none) (period : Nat) : b.phase period = .dormant := by
  unfold phase
  rw [hb]

theorem phase_of_playing {first : Nat} (hb : b.playingSince = some first) (period : Nat) :
    b.phase period = .active (b.nextPeriod period first) := by
  unfold phase
  rw [hb]

end Logbook

/-! ## Sessions that keep to a logbook -/

/-- What becomes of a session when it is controlled at an instant. -/
def Control.change (now : Nat) : Control → Session.Change
  | .play => .play
  | .pause => .pause
  | .seek time => .moveTo time
  | .wait ms => .settle (now + ms)

namespace Session

/-- A session whose clock has settled is where the logbook says, and the clock is due when the period
ends that has begun. -/
structure Follows (b : Logbook) (period : Nat) (s : Session) : Prop where
  kept : b.Kept
  closed : s.closed = false
  paused : s.paused = b.playingSince.isNone
  step : s.clock.period = period
  cancelled : s.clock.cancelled = false
  changed : s.clock.changed = false
  phase : s.clock.phase = b.phase period
  time : s.time.toNat = b.position period

variable {s : Session} {b : Logbook} {period : Nat}

theorem follows_new (settings : Settings) (id : SessionId) (videoId time : UInt64) (now : Nat) :
    ((new settings id videoId time).settle now).Follows (.start now time)
      (max settings.tickMs.toNat 1) := by
  refine ⟨Logbook.kept_start now time, rfl, rfl, rfl, rfl, rfl, rfl, ?_⟩
  have hlast := (new settings id videoId time).time_le_lastPosition
  change time.toNat = min lastPosition (time.toNat + _ * 0)
  rw [Nat.mul_zero, Nat.add_zero]
  exact (Nat.min_eq_right hlast).symm

/-- The clock has made up for every deadline that it has reached. -/
theorem Follows.due_eq_zero (h : s.Follows b period) {first : Nat} (hb : b.playingSince = some first) :
    s.clock.due b.now (.active (b.nextPeriod period first)) = 0 := by
  have hdue := s.clock.due_of_resumed (h.kept.since first hb) (Nat.le_refl b.now)
  rw [h.step] at hdue
  exact Nat.add_eq_left.1 hdue

/-- A session whose clock takes up the phase that the logbook tells, and does not tick. -/
theorem follows_of_no_tick (hkept : b.Kept) (hclosed : s.closed = false)
    (hpaused : s.paused = b.playingSince.isNone) (hcancelled : s.clock.cancelled = false)
    (htakes : s.clock.takeUp b.now = b.phase s.clock.period)
    (hdue : s.clock.due b.now (b.phase s.clock.period) = 0)
    (htime : s.time.toNat = b.position s.clock.period) :
    (s.settle b.now).Follows b s.clock.period := by
  have hsettle := Clock.settle_of_no_tick htakes hdue
  refine ⟨hkept, hclosed, hpaused, rfl, hcancelled, rfl, congrArg (fun ran => ran.1.phase) hsettle, ?_⟩
  cases hfrozen : s.paused || s.closed with
  | true =>
    rw [time_settle_of_frozen hfrozen]
    exact htime
  | false =>
    rw [time_settle_of_playing hfrozen, hsettle, advance_zero]
    exact htime

/-- A tick for each period that ends takes the session along. -/
theorem Follows.wait (h : s.Follows b period) (ms : Nat) :
    (s.settle (b.now + ms)).Follows (b.note (.wait ms)) period := by
  obtain rfl := h.step
  cases hb : b.playingSince with
  | none =>
    have hlater : (b.note (.wait ms)).playingSince = none := hb
    have htakes : s.clock.takeUp (b.now + ms) = .dormant := by
      simp [Clock.takeUp, h.cancelled, h.changed, h.phase, Logbook.phase_of_paused hb]
    have hpaused : s.paused = true := by simp [h.paused, hb]
    refine ⟨h.kept.note _, h.closed, h.paused, rfl, h.cancelled, rfl, ?_, ?_⟩
    · rw [Logbook.phase_of_paused hlater]
      exact congrArg (fun ran => ran.1.phase) (Clock.settle_of_no_tick htakes rfl)
    · rw [time_settle_of_frozen (by simp [hpaused]), Logbook.position_wait_paused hb]
      exact h.time
  | some first =>
    have hlater : (b.note (.wait ms)).playingSince = some first := hb
    have htakes : s.clock.takeUp (b.now + ms) = .active (b.nextPeriod s.clock.period first) := by
      simp [Clock.takeUp, h.cancelled, h.changed, h.phase, Logbook.phase_of_playing hb]
    have hsettle := Clock.settle_of_active htakes
    have hpaused : s.paused = false := by simp [h.paused, hb]
    have hperiods := Logbook.periods_wait_playing h.kept hb ms s.clock.period
    have hdue : (b.now - first) / s.clock.period +
        s.clock.due (b.now + ms) (.active (b.nextPeriod s.clock.period first)) =
        (b.now + ms - first) / s.clock.period :=
      s.clock.due_of_resumed (h.kept.since first hb) (Nat.le_add_right b.now ms)
    -- from here on only the number of ticks matters, and that it makes up for the periods
    generalize s.clock.due (b.now + ms) (.active (b.nextPeriod s.clock.period first)) = ticks at hsettle hdue
    refine ⟨h.kept.note _, h.closed, h.paused, rfl, h.cancelled, rfl, ?_, ?_⟩
    · have hphase : (s.settle (b.now + ms)).clock.phase =
          .active (b.nextPeriod s.clock.period first + ticks * s.clock.period) :=
        congrArg (fun ran => ran.1.phase) hsettle
      rw [hphase, Logbook.phase_of_playing hlater, Phase.active.injEq]
      change first + ((b.now - first) / s.clock.period + 1) * s.clock.period + ticks * s.clock.period =
        first + ((b.now + ms - first) / s.clock.period + 1) * s.clock.period
      rw [← hdue, Nat.add_assoc, ← Nat.add_mul, Nat.add_right_comm]
    · have hmore : (b.note (.wait ms)).periods s.clock.period = b.periods s.clock.period + ticks := by
        omega
      rw [time_settle_of_playing (by simp [hpaused, h.closed]), toNat_advance, hsettle, h.time]
      unfold Logbook.position
      rw [hmore, Nat.mul_add, Nat.mul_comm ticks]
      change _ = min lastPosition
        (b.value.toNat + (s.clock.period * b.periods s.clock.period + s.clock.period * ticks))
      omega

/-- A clock that is resumed has its next deadline ahead: where it was if the session plays, and a period
from now otherwise. -/
theorem Follows.resumed (h : s.Follows b period) :
    s.clock.resume.takeUp b.now = (b.note .play).phase period ∧
      s.clock.due b.now ((b.note .play).phase period) = 0 := by
  obtain rfl := h.step
  cases hb : b.playingSince with
  | none =>
    have hnow : (b.note .play).playingSince = some b.now := by simp [Logbook.note, hb]
    have hphase : (b.note .play).phase s.clock.period = .active (b.now + s.clock.period) := by
      rw [Logbook.phase_of_playing hnow, Phase.active.injEq]
      change b.now + ((b.now - b.now) / s.clock.period + 1) * s.clock.period = _
      rw [Nat.sub_self, Nat.zero_div, Nat.zero_add, Nat.one_mul]
    have hpos := s.clock.period_pos
    rw [hphase]
    constructor
    · simp [Clock.takeUp, Clock.resume, Clock.setRunning, h.cancelled, h.phase,
        Logbook.phase_of_paused hb]
    · exact s.clock.due_of_lt (by omega)
  | some first =>
    have hfirst : (b.note .play).playingSince = some first := by simp [Logbook.note, hb]
    have hphase : (b.note .play).phase s.clock.period = b.phase s.clock.period := by
      rw [Logbook.phase_of_playing hfirst, Logbook.phase_of_playing hb]
      rfl
    rw [hphase]
    constructor
    · simp [Clock.takeUp, Clock.resume, Clock.setRunning, h.cancelled, h.phase,
        Logbook.phase_of_playing hb]
    · rw [Logbook.phase_of_playing hb]
      exact h.due_eq_zero hb

/-- A session that is played while it plays keeps its phase. -/
theorem Follows.play (h : s.Follows b period) :
    ((s.after .play).settle b.now).Follows (b.note .play) period := by
  obtain ⟨htakes, hdue⟩ := h.resumed
  obtain rfl := h.step
  have hpaused : (b.note .play).playingSince.isNone = false := by
    cases hb : b.playingSince with
    | none => simp [Logbook.note, hb]
    | some first => simp [Logbook.note, hb]
  rw [after_play_open h.closed]
  exact follows_of_no_tick (s := { s with paused := false, clock := s.clock.resume })
    (b := b.note .play) (h.kept.note _) h.closed hpaused.symm h.cancelled htakes hdue
    (h.time.trans (Logbook.position_play h.kept _).symm)

/-- A session that is paused drops the period that has begun. -/
theorem Follows.pause (h : s.Follows b period) :
    ((s.after .pause).settle b.now).Follows (b.note .pause) period := by
  obtain rfl := h.step
  have htakes : s.clock.stop.takeUp b.now = .dormant := by
    cases hb : b.playingSince with
    | none =>
      simp [Clock.takeUp, Clock.stop, Clock.setRunning, h.cancelled, h.phase, Logbook.phase_of_paused hb]
    | some first =>
      simp [Clock.takeUp, Clock.stop, Clock.setRunning, h.cancelled, h.phase, Logbook.phase_of_playing hb]
  exact follows_of_no_tick (s := s.after .pause) (b := b.note .pause) (h.kept.note _) h.closed rfl
    h.cancelled htakes rfl (h.time.trans (b.position_pause _).symm)

theorem Follows.seek (h : s.Follows b period) (time : UInt64) :
    (s.after (.moveTo time)).Follows (b.note (.seek time)) period := by
  refine ⟨h.kept.note _, h.closed, h.paused, h.step, h.cancelled, h.changed, h.phase, ?_⟩
  have hlast := (s.after (.moveTo time)).time_le_lastPosition
  rw [Logbook.position_seek h.kept]
  exact (Nat.min_eq_right hlast).symm

/-- Whatever is done to a session that keeps to a logbook, it keeps to it once its clock has settled. -/
theorem Follows.control (h : s.Follows b period) (x : Control) :
    ((s.after (x.change b.now)).settle (b.note x).now).Follows (b.note x) period := by
  cases x with
  | play => exact h.play
  | pause => exact h.pause
  | seek time => exact (h.seek time).wait 0
  | wait ms => exact (h.wait ms).wait 0

end Session

/-! ## Runs -/

namespace Server

variable {sv : Server} {n : Nat} {s : Session}

theorem perform_control (hs : sv.sessions[n]? = some s) (x : Control) :
    (sv.perform (x.operation n)).sessions[n]? = some (s.after (x.change sv.now)) := by
  cases x with
  | play =>
    rw [Control.operation, perform_onSession hs, Control.change, ← Session.after_play s sv.network]
    exact getElem?_onSession hs _
  | pause =>
    rw [Control.operation, perform_onSession hs]
    exact getElem?_onSession hs _
  | seek time =>
    rw [Control.operation, perform_onSession hs]
    exact getElem?_onSession hs _
  | wait ms => exact (getElem?_elapse sv ms n).trans (by rw [hs]; rfl)

theorem now_perform_control (hs : sv.sessions[n]? = some s) {b : Logbook} (hb : b.now = sv.now)
    (x : Control) : (sv.perform (x.operation n)).now = (b.note x).now := by
  cases x with
  | wait ms => exact congrArg (· + ms) hb.symm
  | _ =>
    rw [Control.operation, perform_onSession hs]
    exact hb.symm

/-- A run of controls, each of which the clocks settle after, takes a session that keeps to a logbook to
one that keeps to it still. -/
theorem follows_performAll {b : Logbook} {period : Nat} (hs : sv.sessions[n]? = some s)
    (h : s.Follows b period) (hb : b.now = sv.now) (controls : List Control) :
    ∃ t : Session, (sv.performAll (Control.operations n controls)).sessions[n]? = some t ∧
      t.Follows (controls.foldl Logbook.note b) period := by
  induction controls generalizing sv s b with
  | nil => exact ⟨s, hs, h⟩
  | cons x rest ih =>
    have hnow := now_perform_control hs hb x
    have hx := perform_control hs x
    rw [← hb] at hx
    have hsettled : (sv.perform (x.operation n)).settle.sessions[n]? =
        some ((s.after (x.change b.now)).settle (b.note x).now) := by
      rw [settle_eq_elapse, getElem?_elapse, hx, hnow]
      rfl
    exact ih hsettled (h.control x) hnow.symm

/-- A session that was just made is always where its history says. The clocks settle, and after that it is
played, paused, moved and left alone in any order, with the clocks settling after each step: then it
plays if its logbook says so, and is at the position that the logbook accounts for. -/
theorem time_eq_position {id : SessionId} {videoId time : UInt64}
    (hs : sv.sessions[n]? = some (Session.new sv.settings id videoId time)) (controls : List Control) :
    let b := controls.foldl Logbook.note (.start sv.now time)
    let sv' := sv.performAll (.input (.around .settle) :: Control.operations n controls)
    ∃ t : Session, sv'.sessions[n]? = some t ∧ t.closed = false ∧ t.paused = b.playingSince.isNone ∧
      t.time.toNat = b.position (max sv.settings.tickMs.toNat 1) := by
  intro b sv'
  have hsettled : sv.settle.sessions[n]? = some ((Session.new sv.settings id videoId time).settle sv.now) := by
    rw [settle_eq_elapse, getElem?_elapse, hs]
    rfl
  have hnew := Session.follows_new sv.settings id videoId time sv.now
  obtain ⟨t, ht, hfollows⟩ := follows_performAll hsettled hnew rfl controls
  exact ⟨t, ht, hfollows.closed, hfollows.paused, hfollows.time⟩

/-- A period of three milliseconds: the session is played, played again, moved after seven of them and
paused after nine, by when one more period has ended; the next two milliseconds are too few. -/
theorem position_of_played_session :
    let sv := (start { tickMs := 3 }).perform (.create 1 5)
    let controls : List Control :=
      [.play, .wait 4, .play, .wait 3, .seek 100, .wait 2, .pause, .pause, .wait 9, .play, .wait 2]
    sv.sessions[0]? = some (Session.new sv.settings (.generated 1) 1 5) ∧
      ∃ t : Session, (sv.performAll (.input (.around .settle) :: Control.operations 0 controls)).sessions[0]? =
        some t ∧ t.closed = false ∧ t.paused = false ∧ t.time.toNat = 103 := by
  intro sv controls
  have hnew : sv.sessions[0]? = some (Session.new sv.settings (.generated 1) 1 5) := rfl
  obtain ⟨t, ht, hopen, hpaused, htime⟩ := time_eq_position hnew controls
  have hposition : (controls.foldl Logbook.note (.start 0 5)).position 3 = 103 := by decide
  exact ⟨hnew, t, ht, hopen, hpaused, htime.trans hposition⟩

end Server

end WatchParty
