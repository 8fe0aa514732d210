/-
How the clock of a session stands to the session once it has settled. The flag of the clock, the mark that it
was set, the phase and the deadline change at different times and in different hands, any number of times
between two settlings; `Session.Attuned` is what they keep to all along, and `Session.InPhase` what a settling
makes of it. A clock makes up for its deadlines one by one, and `Clock.CatchesUp` follows it on the way: it
comes to an end, since a period is never zero.
-/
import WatchParty.Proofs.Script
import WatchParty.Proofs.Settling

namespace WatchParty

/-! ## Catching up -/

namespace Clock

/-- Deadlines made up for one by one: while the next one has been reached there is a tick, and the one after
it comes a period later. In the end so many ticks have been made, and the last deadline lies ahead. -/
inductive CatchesUp (period now : Nat) : Nat → Nat → Nat → Prop
  | done {next : Nat} : now < next → CatchesUp period now next 0 next
  | tick {next ticks last : Nat} : next ≤ now → CatchesUp period now (next + period) ticks last →
    CatchesUp period now next (ticks + 1) last

variable {period now next ticks last : Nat}

theorem exists_catchesUp (hpos : 0 < period) (now next : Nat) :
    ∃ ticks last, CatchesUp period now next ticks last := by
  -- the distance from the deadline to now gets smaller with every tick
  induction hdistance : now + 1 - next using Nat.strongRecOn generalizing next with
  | ind distance ih =>
    by_cases hnext : next ≤ now
    · obtain ⟨ticks, last, hrest⟩ := ih (now + 1 - (next + period)) (by omega) (next + period) rfl
      exact ⟨ticks + 1, last, .tick hnext hrest⟩
    · exact ⟨0, next, .done (by omega)⟩

theorem not_catchesUp_zero (hnext : next ≤ now) : ¬ CatchesUp 0 now next ticks last := by
  intro h
  induction h with
  | done hlt => omega
  | tick _ _ ih => exact ih hnext

/-- Catching up always comes to an end, exactly if the period is not zero: a period of zero would keep a clock
for ever at a deadline that it has reached. -/
theorem catchesUp_ends_iff :
    (∀ now next, ∃ ticks last, CatchesUp period now next ticks last) ↔ 0 < period := by
  constructor
  · intro hends
    by_contra hzero
    obtain rfl : period = 0 := by omega
    obtain ⟨ticks, last, hcatch⟩ := hends 0 0
    exact not_catchesUp_zero (Nat.le_refl 0) hcatch
  · exact exists_catchesUp

/-- The deadline that is left is the next one after now. -/
theorem CatchesUp.bounds (h : CatchesUp period now next ticks last) (hnext : next ≤ now + period) :
    now < last ∧ last ≤ now + period := by
  induction h with
  | done hlt => exact ⟨hlt, hnext⟩
  | tick hle _ ih => exact ih (by omega)

theorem due_tick (c : Clock) (hnext : next ≤ now) :
    c.due now (.active next) = c.due now (.active (next + c.period)) + 1 := by
  have hpos := c.period_pos
  rw [c.due_of_le hnext]
  by_cases hlater : next + c.period ≤ now
  · rw [c.due_of_le hlater, Nat.div_eq_sub_div hpos (by omega), Nat.sub_add_eq]
  · rw [c.due_of_lt (by omega), Nat.div_eq_of_lt (by omega)]

/-- All deadlines together are as many as one by one. -/
theorem CatchesUp.due {c : Clock} (h : CatchesUp c.period now next ticks last) :
    ticks = c.due now (.active next) ∧ last = next + c.due now (.active next) * c.period := by
  induction h with
  | done hlt =>
    rw [c.due_of_lt hlt]
    constructor
    · rfl
    · omega
  | tick hle _ ih =>
    obtain ⟨hticks, hlast⟩ := ih
    rw [c.due_tick hle, Nat.add_mul, Nat.one_mul]
    omega

/-- A clock that is active when it settles catches up. -/
theorem settle_catchesUp {c : Clock} (h : c.takeUp now = .active next) : ∃ ticks last,
    CatchesUp c.period now next ticks last ∧
      c.settle now = ({ c with changed := false, phase := .active last }, ticks) := by
  obtain ⟨ticks, last, hcatch⟩ := catchesUp_ends_iff.2 c.period_pos now next
  obtain ⟨hticks, hlast⟩ := hcatch.due
  refine ⟨ticks, last, hcatch, ?_⟩
  rw [settle_of_active h, hticks, hlast]

end Clock

/-! ## Sessions -/

namespace Session

variable {step now : Nat} {s : Session}

/-- At any time: unless the clock has been cancelled, its flag says whether the session plays, and the clock
runs accordingly if it has settled since the flag was set. A deadline is at most a period away. -/
structure Attuned (step now : Nat) (s : Session) : Prop where
  period : s.clock.period = step
  running : s.clock.cancelled = false → s.clock.running = !s.paused
  obeys : s.clock.cancelled = false → s.clock.changed = false → s.clock.phase ≠ .unstarted →
    ((∃ next, s.clock.phase = .active next) ↔ s.clock.running = true)
  ahead : ∀ next, s.clock.phase = .active next → next ≤ now + step
  ended : s.clock.phase = .finished → s.clock.cancelled = true

/-- Once the clock has settled: it has taken up every change, and it is active exactly if the session plays,
with a deadline that lies ahead by a period at most, unless it has been cancelled; then it is finished. -/
structure InPhase (step now : Nat) (s : Session) : Prop where
  running : s.clock.cancelled = false → s.clock.running = !s.paused
  unchanged : s.clock.changed = false
  started : s.clock.phase ≠ .unstarted
  active : s.clock.cancelled = false → ((∃ next, s.clock.phase = .active next) ↔ s.paused = false)
  ahead : ∀ next, s.clock.phase = .active next → now < next ∧ next ≤ now + step
  ended : s.clock.cancelled = true ↔ s.clock.phase = .finished

theorem attuned_new (settings : Settings) (id : SessionId) (videoId time : UInt64) (now : Nat) :
    (new settings id videoId time).Attuned (max settings.tickMs.toNat 1) now where
  period := rfl
  running _ := rfl
  obeys _ _ hstarted := absurd rfl hstarted
  ahead _ := nofun
  ended := nofun

/-- What has settled is attuned. -/
theorem InPhase.attuned (h : s.InPhase step now) (hperiod : s.clock.period = step) : s.Attuned step now where
  period := hperiod
  running := h.running
  obeys hcancelled _ _ := by
    rw [h.active hcancelled, h.running hcancelled]
    simp
  ahead next hnext := (h.ahead next hnext).2
  ended := h.ended.2

/-- Whatever happens between two settlings keeps a session attuned. -/
theorem Attuned.after (h : s.Attuned step now) {x : Change} (hx : ∀ t, x ≠ .settle t) :
    (s.after x).Attuned step now := by
  have hkeeps := s.keepsPhase_after hx
  have hphase := hkeeps.phase
  refine ⟨(s.retains_after x).period.trans h.period, hkeeps.running h.running, ?_, ?_, ?_⟩
  · intro hc hch
    obtain ⟨hch, hrunning⟩ := hkeeps.unchanged hc hch
    rw [hphase, hrunning]
    exact h.obeys (hkeeps.uncancelled hc) hch
  · rw [hphase]
    exact h.ahead
  · rw [hphase]
    exact fun hfinished => hkeeps.cancelled (h.ended hfinished)

/-! ## Settling -/

/-- A clock that is to run is active once it has taken this up. -/
theorem Attuned.takeUp_running (h : s.Attuned step now) (hc : s.clock.cancelled = false)
    (hr : s.clock.running = true) : ∃ next, s.clock.takeUp now = .active next ∧ next ≤ now + step := by
  have hperiod := h.period
  unfold Clock.takeUp
  cases hphase : s.clock.phase with
  | unstarted => exact ⟨now, by simp [hc, hr], by omega⟩
  | dormant =>
    have hch : s.clock.changed = true := by
      by_contra hch
      have hch : s.clock.changed = false := by simpa using hch
      obtain ⟨next, hnext⟩ := (h.obeys hc hch (by simp [hphase])).2 hr
      rw [hphase] at hnext
      cases hnext
    exact ⟨now + s.clock.period, by simp [hc, hr, hch], by omega⟩
  | active next => exact ⟨next, by simp [hc, hr], h.ahead next hphase⟩
  | finished => exact absurd (h.ended hphase) (by simp [hc])

/-- A clock that is not to run is dormant then. -/
theorem Attuned.takeUp_stopped (h : s.Attuned step now) (hc : s.clock.cancelled = false)
    (hr : s.clock.running = false) : s.clock.takeUp now = .dormant := by
  unfold Clock.takeUp
  cases hphase : s.clock.phase with
  | unstarted => simp [hc, hr]
  | dormant => simp [hc, hr]
  | active next =>
    have hch : s.clock.changed = true := by
      by_contra hch
      have hch : s.clock.changed = false := by simpa using hch
      have hrunning := (h.obeys hc hch (by simp [hphase])).1 ⟨next, hphase⟩
      rw [hr] at hrunning
      cases hrunning
    simp [hc, hr, hch]
  | finished => exact absurd (h.ended hphase) (by simp [hc])

/-- Time that passes takes no deadline further away. -/
theorem Attuned.later (h : s.Attuned step now) (ms : Nat) : s.Attuned step (now + ms) where
  period := h.period
  running := h.running
  obeys := h.obeys
  ahead next hnext := by
    have hahead := h.ahead next hnext
    omega
  ended := h.ended

/-- A session that is attuned when it settles is in phase then. -/
theorem Attuned.inPhase_settle (h : s.Attuned step now) : (s.settle now).InPhase step now := by
  have hpaused : (s.settle now).paused = s.paused := rfl
  cases hc : s.clock.cancelled with
  | true =>
    have hclock : (s.settle now).clock = { s.clock with changed := false, phase := .finished } :=
      congrArg Prod.fst (Clock.settle_of_cancelled hc now)
    constructor
    all_goals rw [hclock]
    all_goals simp [hc]
  | false =>
    have hflag := h.running hc
    rw [← hpaused] at hflag
    cases hr : s.clock.running with
    | true =>
      -- the clock runs: its deadlines up to now are made up for, and one is left
      obtain ⟨next, htakes, hnext⟩ := h.takeUp_running hc hr
      obtain ⟨ticks, last, hcatch, hsettle⟩ := Clock.settle_catchesUp htakes
      rw [← h.period] at hnext
      obtain ⟨hlast, hnear⟩ := hcatch.bounds hnext
      have hclock : (s.settle now).clock = { s.clock with changed := false, phase := .active last } :=
        congrArg Prod.fst hsettle
      have hplays : (s.settle now).paused = false := by simpa [hr] using hflag.symm
      rw [h.period] at hnear
      constructor
      all_goals rw [hclock]
      · simp [hr, hplays]
      · simp
      · simp [hplays]
      · rintro later hlater
        cases hlater
        exact ⟨hlast, hnear⟩
      · simp [hc]
    | false =>
      have hclock : (s.settle now).clock = { s.clock with changed := false, phase := .dormant } :=
        congrArg Prod.fst (Clock.settle_of_inactive (h.takeUp_stopped hc hr) nofun)
      have hrests : (s.settle now).paused = true := by simpa [hr] using hflag.symm
      constructor
      all_goals rw [hclock]
      · simp [hr, hrests]
      · simp
      · simp [hrests]
      · exact nofun
      · simp [hc]

theorem Attuned.settle (h : s.Attuned step now) (ms : Nat) : (s.settle (now + ms)).Attuned step (now + ms) :=
  (h.later ms).inPhase_settle.attuned h.period

theorem lasts_attuned (settings : Settings) :
    Server.Lasts (fun now s => s.Attuned (max settings.tickMs.toNat 1) now) settings where
  new now id videoId time := attuned_new settings id videoId time now
  after _ _ _ hx h := h.after hx
  settle _ ms _ h := h.settle ms

end Session

/-! ## Every run -/

namespace Server

open Scenario (Step Run)

/-- Whatever has been done to a server, every session is attuned. -/
theorem attuned_performAll (settings : Settings) (operations : List Operation) :
    ((start settings).performAll operations).EveryAt
      (fun now s => s.Attuned (max settings.tickMs.toNat 1) now) settings :=
  (everyAt_start _ settings).performAll (Session.lasts_attuned settings) operations

/-- Once the clocks settle, all sessions are in phase. -/
theorem inPhase_elapse (settings : Settings) (operations : List Operation) (ms : Nat) :
    let sv := ((start settings).performAll operations).elapse ms
    ∀ s ∈ sv.sessions, s.InPhase (max settings.tickMs.toNat 1) sv.now := by
  intro sv t ht
  obtain ⟨s, hs, rfl⟩ := List.mem_map.1 ht
  obtain ⟨n, hn⟩ := List.mem_iff_getElem?.1 hs
  have hattuned := (attuned_performAll settings operations).session n s hn
  exact (hattuned.later ms).inPhase_settle

/-- The clocks of a script have settled after each of its steps. -/
theorem settled_stepAll (settings : Settings) (steps : List (UInt64 × Step)) :
    ((Run.start settings).stepAll steps).Settled := by
  have hstart : (Run.start settings).Settled := by
    rfl
  have hsteps : ∀ run : Run, run.Settled → (run.stepAll steps).Settled := by
    induction steps with
    | nil => exact fun _ h => h
    | cons p rest ih => exact fun run _ => ih _ (run.settled_step p.1 p.2)
  exact hsteps _ hstart

/-- Every time the clocks have settled, in whatever run and in whatever script, all sessions are in phase.
On the way a clock that takes up that it is active catches up with its deadlines, which comes to an end
whatever the length of a tick is, and is left with the last of them. -/
theorem settled_in_phase (settings : Settings) :
    let step := max settings.tickMs.toNat 1
    (∀ operations ms, let sv := ((start settings).performAll operations).elapse ms
      ∀ s ∈ sv.sessions, s.InPhase step sv.now) ∧
    (∀ steps, let sv := ((Run.start settings).stepAll steps).server
      ∀ s ∈ sv.sessions, s.InPhase step sv.now) ∧
    ∀ operations ms, let sv := (start settings).performAll operations
      ∀ s ∈ sv.sessions, ∀ next, s.clock.takeUp (sv.now + ms) = .active next →
        ∃ ticks last, Clock.CatchesUp step (sv.now + ms) next ticks last ∧
          s.clock.settle (sv.now + ms) = ({ s.clock with changed := false, phase := .active last }, ticks) := by
  intro step
  refine ⟨inPhase_elapse settings, ?_, ?_⟩
  · intro steps sv
    obtain ⟨operations, hserver⟩ := Run.stepAll_performAll settings steps
    have hsettled : sv = ((start settings).performAll operations).elapse 0 := by
      rw [← hserver]
      exact (settled_stepAll settings steps).server.symm
    rw [hsettled]
    exact inPhase_elapse settings operations 0
  · intro operations ms sv s hs next hnext
    obtain ⟨n, hn⟩ := List.mem_iff_getElem?.1 hs
    have hperiod := ((attuned_performAll settings operations).session n s hn).period
    obtain ⟨ticks, last, hcatch, hsettle⟩ := Clock.settle_catchesUp hnext
    rw [hperiod] at hcatch
    exact ⟨ticks, last, hcatch, hsettle⟩

/-- With a tick length of zero, seven milliseconds after three sessions were made and played at once: one
plays on, one has been paused again, and one has been shut down. -/
theorem three_sessions_in_phase :
    let operations : List Operation := [.create 1 0, .onSession 0 .play, .create 2 0, .onSession 1 .play,
      .onSession 1 .pause, .create 3 0, .onSession 2 .play, .onSession 2 .shutdown]
    let sv := ((start { tickMs := 0 }).performAll operations).elapse 7
    sv.sessions.map (·.clock.phase) = [.active 8, .dormant, .finished] ∧
      ∀ s ∈ sv.sessions, s.InPhase 1 sv.now := by
  intro operations sv
  exact ⟨by decide, (settled_in_phase { tickMs := 0 }).1 operations 7⟩

end Server

end WatchParty
