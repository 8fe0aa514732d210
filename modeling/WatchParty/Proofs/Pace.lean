/-
How far its clock takes a session, against how long it has been playing. A clock is never ahead of the
time that has passed, but for one occasion: if a session plays already when its clock settles for the
first time, the clock ticks at once, and the session is ahead by up to a period from then on.

The account of a session is kept from its first settling on: what it has gained, and the time from now
to its next deadline, add up to no more than it has played and a period.
-/
import Mathlib.Data.List.Infix
import WatchParty.Proofs.Clock
import WatchParty.Proofs.Movement

namespace WatchParty

/-! ## The account of one session -/

namespace Session

variable {s : Session} {now ms : Nat}

/-- What the clock of a session has done with it. By the instant `now` it has gained so much, having
played for so long; it may be ahead by the lead. -/
structure Paced (step now gained played lead : Nat) (s : Session) : Prop where
  period : s.clock.period = step
  running : s.clock.cancelled = false → s.clock.running = !s.paused
  fresh : s.clock.phase = .unstarted → gained = 0 ∧ played = 0
  within : gained ≤ played + lead
  ahead : ∀ next, s.clock.phase = .active next →
    next ≤ now + step ∧ gained + now + step ≤ played + lead + next
  steady : ∀ next, s.clock.phase = .active next → s.clock.cancelled = false →
    s.clock.changed = false → s.clock.running = true

variable {step gained played lead : Nat}

theorem paced_new (settings : Settings) (id : SessionId) (videoId time : UInt64) (now lead : Nat) :
    (new settings id videoId time).Paced (max settings.tickMs.toNat 1) now 0 0 lead where
  period := rfl
  running _ := rfl
  fresh _ := ⟨rfl, rfl⟩
  within := Nat.zero_le _
  ahead _ := nofun
  steady _ := nofun

theorem Paced.after (h : s.Paced step now gained played lead) {x : Change}
    (hx : ∀ t, x ≠ .settle t) : (s.after x).Paced step now gained played lead := by
  have hkeeps := s.keepsPhase_after hx
  have hphase := hkeeps.phase
  refine ⟨(s.retains_after x).period.trans h.period, hkeeps.running h.running, ?_, h.within, ?_, ?_⟩
  · rw [hphase]
    exact h.fresh
  · rw [hphase]
    exact h.ahead
  · intro next hnext hc hch
    obtain ⟨hch, hrunning⟩ := hkeeps.unchanged hc hch
    rw [hphase] at hnext
    rw [hrunning]
    exact h.steady next hnext (hkeeps.uncancelled hc) hch

/-! ## Settling -/

/-- How long a session plays while some time passes. -/
def playedFor (s : Session) (ms : Nat) : Nat := if s.paused then 0 else ms

/-- How far a session gets when its clock settles at an instant. -/
def gainAt (s : Session) (now : Nat) : Nat := (s.settle now).time.toNat - s.time.toNat

theorem gainAt_of_frozen (h : (s.paused || s.closed) = true) (now : Nat) : s.gainAt now = 0 := by
  unfold gainAt
  rw [time_settle_of_frozen h, Nat.sub_self]

theorem gainAt_of_playing (h : (s.paused || s.closed) = false) (now : Nat) :
    s.gainAt now = min ((s.clock.settle now).2 * s.clock.period) (lastPosition - s.time.toNat) := by
  have hlast := s.time_le_lastPosition
  unfold gainAt
  rw [time_settle_of_playing h, toNat_advance]
  omega

/-- The ticks of its clock take a session no further than a period each. -/
theorem gainAt_le (s : Session) (now : Nat) :
    s.gainAt now ≤ (s.clock.settle now).2 * s.clock.period := by
  cases h : s.paused || s.closed with
  | true =>
    rw [gainAt_of_frozen h]
    exact Nat.zero_le _
  | false =>
    rw [gainAt_of_playing h]
    exact Nat.min_le_left _ _

/-- A clock that is not active after it has settled has not ticked. -/
theorem Paced.settle_inactive (h : s.Paced step now gained played lead) {phase : Phase}
    (htakes : s.clock.takeUp (now + ms) = phase) (hphase : phase = .dormant ∨ phase = .finished) :
    (s.settle (now + ms)).Paced step (now + ms) (gained + s.gainAt (now + ms))
      (played + s.playedFor ms) lead := by
  have hnext : ∀ next, phase ≠ .active next := by
    rintro next rfl
    exact hphase.elim nofun nofun
  have hsettle := Clock.settle_of_inactive htakes hnext
  have hclock : (s.settle (now + ms)).clock = { s.clock with changed := false, phase } :=
    congrArg Prod.fst hsettle
  have hgain := s.gainAt_le (now + ms)
  rw [hsettle] at hgain
  have hwithin := h.within
  refine ⟨?_, ?_, ?_, by omega, ?_, ?_⟩
  · rw [hclock]
    exact h.period
  · rw [hclock]
    exact h.running
  · rw [hclock]
    rintro rfl
    exact hphase.elim nofun nofun
  · rw [hclock]
    exact fun next hactive => absurd hactive (hnext next)
  · rw [hclock]
    exact fun next hactive => absurd hactive (hnext next)

/-- A clock that is active after it has settled has made up for its deadlines, and the next one is no
more than a period away. -/
theorem Paced.settle_active (h : s.Paced step now gained played lead) {next : Nat}
    (htakes : s.clock.takeUp (now + ms) = .active next) (hrunning : s.clock.running = true)
    (hnext : next ≤ now + ms + step)
    (hahead : gained + s.gainAt (now + ms) + (now + ms) + step ≤ played + s.playedFor ms + lead +
      (next + s.clock.due (now + ms) (.active next) * step)) :
    (s.settle (now + ms)).Paced step (now + ms) (gained + s.gainAt (now + ms))
      (played + s.playedFor ms) lead := by
  have hclock : (s.settle (now + ms)).clock = { s.clock with
      changed := false
      phase := .active (next + s.clock.due (now + ms) (.active next) * step) } := by
    rw [← h.period]
    exact congrArg Prod.fst (Clock.settle_of_active htakes)
  have hlast : next + s.clock.due (now + ms) (.active next) * step ≤ now + ms + step := by
    rw [← h.period] at hnext ⊢
    exact s.clock.next_le hnext
  refine ⟨?_, ?_, ?_, by omega, ?_, ?_⟩
  · rw [hclock]
    exact h.period
  · rw [hclock]
    exact h.running
  · rw [hclock]
    exact nofun
  · rw [hclock]
    intro later hlater
    cases hlater
    exact ⟨hlast, hahead⟩
  · rw [hclock]
    exact fun _ _ _ _ => hrunning

/-- If the clock of a playing session has not settled before, its first tick takes the session no further
than the time that passes and the lead. -/
def StartsWithin (lead ms : Nat) (s : Session) : Prop :=
  s.clock.phase = .unstarted → s.clock.cancelled = false → s.paused = false → s.closed = false →
    min s.clock.period (lastPosition - s.time.toNat) ≤ ms + lead

/-- The first tick of a clock that settles for the first time while its session plays is due at once. -/
theorem StartsWithin.gainAt_le (h : s.StartsWithin lead ms) (hphase : s.clock.phase = .unstarted)
    (hcancelled : s.clock.cancelled = false) (hpaused : s.paused = false)
    (htakes : s.clock.takeUp now = .active now) : s.gainAt now ≤ ms + lead := by
  cases hclosed : s.closed with
  | true =>
    rw [gainAt_of_frozen (by simp [hclosed])]
    exact Nat.zero_le _
  | false =>
    have hstart := h hphase hcancelled hpaused hclosed
    rw [gainAt_of_playing (by simp [hpaused, hclosed]), Clock.settle_of_active htakes,
      s.clock.due_self, Nat.one_mul]
    exact hstart

/-- A clock that runs is that of a session that plays. -/
theorem Paced.paused_eq_false (h : s.Paced step now gained played lead)
    (hcancelled : s.clock.cancelled = false) (hrunning : s.clock.running = true) : s.paused = false := by
  have hflags := h.running hcancelled
  rw [hrunning] at hflags
  simpa using hflags.symm

/-- A clock that settles for the first time and runs: it ticks at once, and then once a period. -/
theorem Paced.settle_starting (h : s.Paced step now gained played lead) (hstart : s.StartsWithin lead ms)
    (hcancelled : s.clock.cancelled = false) (hphase : s.clock.phase = .unstarted)
    (hrunning : s.clock.running = true) :
    (s.settle (now + ms)).Paced step (now + ms) (gained + s.gainAt (now + ms))
      (played + s.playedFor ms) lead := by
  have hpaused := h.paused_eq_false hcancelled hrunning
  have htakes : s.clock.takeUp (now + ms) = .active (now + ms) := by
    simp [Clock.takeUp, hcancelled, hphase, hrunning]
  -- nothing has been gained yet, so the first tick is all there is to account for
  obtain ⟨hgained, hplayed⟩ := h.fresh hphase
  have hfirst := hstart.gainAt_le hphase hcancelled hpaused htakes
  refine h.settle_active htakes hrunning (by omega) ?_
  rw [s.clock.due_self]
  simp only [playedFor, hpaused, Bool.false_eq_true, if_false]
  omega

/-- A clock that wakes waits for a whole period before it ticks. -/
theorem Paced.settle_waking (h : s.Paced step now gained played lead)
    (hrunning : s.clock.running = true)
    (htakes : s.clock.takeUp (now + ms) = .active (now + ms + s.clock.period)) :
    (s.settle (now + ms)).Paced step (now + ms) (gained + s.gainAt (now + ms))
      (played + s.playedFor ms) lead := by
  have hperiod := h.period
  have hpos := s.clock.period_pos
  have hwithin := h.within
  have hgain := s.gainAt_le (now + ms)
  rw [Clock.settle_of_active htakes, s.clock.due_of_lt (by omega)] at hgain
  refine h.settle_active htakes hrunning (by omega) ?_
  rw [s.clock.due_of_lt (by omega)]
  omega

/-- A clock that runs on ticks once for each period that ends, and its session plays all the time. -/
theorem Paced.settle_running (h : s.Paced step now gained played lead) {next : Nat}
    (hcancelled : s.clock.cancelled = false) (hphase : s.clock.phase = .active next)
    (hrunning : s.clock.running = true) (htakes : s.clock.takeUp (now + ms) = .active next) :
    (s.settle (now + ms)).Paced step (now + ms) (gained + s.gainAt (now + ms))
      (played + s.playedFor ms) lead := by
  have hpaused := h.paused_eq_false hcancelled hrunning
  obtain ⟨hnext, hahead⟩ := h.ahead next hphase
  have hgain : s.gainAt (now + ms) ≤ s.clock.due (now + ms) (.active next) * step := by
    have hticks := s.gainAt_le (now + ms)
    rw [Clock.settle_of_active htakes] at hticks
    rw [← h.period]
    exact hticks
  refine h.settle_active htakes hrunning (by omega) ?_
  simp only [playedFor, hpaused, Bool.false_eq_true, if_false]
  omega

theorem Paced.settle (h : s.Paced step now gained played lead) (hstart : s.StartsWithin lead ms) :
    (s.settle (now + ms)).Paced step (now + ms) (gained + s.gainAt (now + ms))
      (played + s.playedFor ms) lead := by
  cases hc : s.clock.cancelled with
  | true =>
    have htakes : s.clock.takeUp (now + ms) = .finished := by simp [Clock.takeUp, hc]
    exact h.settle_inactive htakes (.inr rfl)
  | false =>
    cases hphase : s.clock.phase with
    | unstarted =>
      cases hr : s.clock.running with
      | false =>
        have htakes : s.clock.takeUp (now + ms) = .dormant := by
          simp [Clock.takeUp, hc, hphase, hr]
        exact h.settle_inactive htakes (.inl rfl)
      | true => exact h.settle_starting hstart hc hphase hr
    | dormant =>
      cases hwakes : s.clock.changed && s.clock.running with
      | false =>
        have htakes : s.clock.takeUp (now + ms) = .dormant := by
          simp [Clock.takeUp, hc, hphase, hwakes]
        exact h.settle_inactive htakes (.inl rfl)
      | true =>
        have htakes : s.clock.takeUp (now + ms) = .active (now + ms + s.clock.period) := by
          simp [Clock.takeUp, hc, hphase, hwakes]
        rw [Bool.and_eq_true] at hwakes
        exact h.settle_waking hwakes.2 htakes
    | active next =>
      cases hstops : s.clock.changed && !s.clock.running with
      | true =>
        have htakes : s.clock.takeUp (now + ms) = .dormant := by
          simp [Clock.takeUp, hc, hphase, hstops]
        exact h.settle_inactive htakes (.inl rfl)
      | false =>
        have htakes : s.clock.takeUp (now + ms) = .active next := by
          simp [Clock.takeUp, hc, hphase, hstops]
        have hr : s.clock.running = true := by
          cases hch : s.clock.changed with
          | true => simpa [hch] using hstops
          | false => exact h.steady next hphase hc hch
        exact h.settle_running hc hphase hr htakes
    | finished =>
      have htakes : s.clock.takeUp (now + ms) = .finished := by
        simp [Clock.takeUp, hc, hphase]
      exact h.settle_inactive htakes (.inr rfl)

end Session

namespace Server

open Session (Change)

variable {sv : Server} {n step gained played lead : Nat}

/-! ## The account of a run -/

/-- Adds up what each operation of a run counts for in the state that it finds. -/
def total (count : Server → Operation → Nat) (sv : Server) : List Operation → Nat
  | [] => 0
  | o :: rest => count sv o + (sv.perform o).total count rest

/-- How far the clock of the session of the number takes it in an operation. -/
def clockGain (n : Nat) (sv : Server) (o : Operation) : Nat :=
  match o.elapses?, sv.sessions[n]? with
  | some ms, some s => s.gainAt (sv.now + ms)
  | _, _ => 0

/-- How long the session of the number plays in an operation. -/
def timePlayed (n : Nat) (sv : Server) (o : Operation) : Nat :=
  match o.elapses?, sv.sessions[n]? with
  | some ms, some s => s.playedFor ms
  | _, _ => 0

/-- If the clock of the session of the number settles for the first time in the operation and the session
plays, the clock takes it no further than the time that passes and the lead. -/
def StartsWithin (lead n : Nat) (sv : Server) (o : Operation) : Prop :=
  ∀ (s : Session) ms, sv.sessions[n]? = some s → o.elapses? = some ms → s.StartsWithin lead ms

/-- The account of the session of a number: by now it has gained so much, having played for so long. -/
structure Paced (n step gained played lead : Nat) (sv : Server) : Prop where
  period : step = max sv.settings.tickMs.toNat 1
  session : ∀ s : Session, sv.sessions[n]? = some s → s.Paced step sv.now gained played lead
  absent : sv.sessions[n]? = none → gained = 0 ∧ played = 0

theorem total_append (count : Server → Operation → Nat) (first rest : List Operation) :
    sv.total count (first ++ rest) = sv.total count first + (sv.performAll first).total count rest := by
  induction first generalizing sv with
  | nil => exact (Nat.zero_add _).symm
  | cons o first ih =>
    change count sv o + (sv.perform o).total count (first ++ rest) = _
    rw [ih, ← Nat.add_assoc]
    rfl

theorem paced_start (settings : Settings) (n lead : Nat) :
    (start settings).Paced n (max settings.tickMs.toNat 1) 0 0 lead where
  period := rfl
  session s hs := by simp [start] at hs
  absent _ := ⟨rfl, rfl⟩

/-- Whatever happens while no time passes keeps the account. -/
theorem Paced.evolves (h : sv.Paced n step gained played lead) {sv' : Server}
    {K : Nat → Change → Prop} (hsv : sv.Evolves K sv') (hK : ∀ x, K n x → ∀ now, x ≠ .settle now) :
    sv'.Paced n step gained played lead where
  period := by rw [hsv.settings]; exact h.period
  session t ht := by
    obtain ⟨s, changes, hbegins, hchanges, rfl⟩ := hsv.origin n t ht
    rw [hsv.now]
    refine Session.afterAll_keeps (K := K n) (fun s x hx hs => hs.after (hK x hx)) ?_ hchanges
    rcases hbegins with hs | ⟨hnone, id, videoId, time, rfl⟩
    · exact h.session s hs
    · obtain ⟨rfl, rfl⟩ := h.absent hnone
      rw [h.period]
      exact Session.paced_new sv.settings id videoId time sv.now lead
  absent hnone := by
    have hlength := List.getElem?_eq_none_iff.1 hnone
    exact h.absent (List.getElem?_eq_none_iff.2 (Nat.le_trans hsv.length hlength))

/-- Letting time pass and the clocks settle keeps the account. -/
theorem Paced.elapse (h : sv.Paced n step gained played lead) {o : Operation} {ms : Nat}
    (ho : o.elapses? = some ms) (hstart : sv.StartsWithin lead n o) :
    (sv.elapse ms).Paced n step (gained + sv.clockGain n o) (played + sv.timePlayed n o) lead := by
  unfold clockGain timePlayed
  rw [ho]
  cases hs : sv.sessions[n]? with
  | none =>
    refine ⟨h.period, fun t ht => ?_, fun _ => h.absent hs⟩
    rw [getElem?_elapse, hs] at ht
    cases ht
  | some s =>
    refine ⟨h.period, fun t ht => ?_, fun hnone => ?_⟩
    · rw [getElem?_elapse, hs] at ht
      cases ht
      exact (h.session s hs).settle (hstart s ms hs ho)
    · rw [getElem?_elapse, hs] at hnone
      cases hnone

theorem Paced.perform (h : sv.Paced n step gained played lead) {o : Operation}
    (hstart : sv.StartsWithin lead n o) :
    (sv.perform o).Paced n step (gained + sv.clockGain n o) (played + sv.timePlayed n o) lead := by
  rcases sv.perform_cases o with ⟨ms, hms, heq⟩ | ⟨hnone, hevolves⟩
  · rw [heq]
    exact h.elapse hms hstart
  · simp only [clockGain, timePlayed, hnone, Nat.add_zero]
    refine h.evolves hevolves ?_
    rintro x hx now rfl
    obtain ⟨ms, hms, -⟩ := hx
    rw [hnone] at hms
    cases hms

theorem Paced.performAll (h : sv.Paced n step gained played lead) {operations : List Operation}
    (hstart : ∀ earlier o g p, earlier ++ [o] <+: operations →
      (sv.performAll earlier).Paced n step g p lead → (sv.performAll earlier).StartsWithin lead n o) :
    (sv.performAll operations).Paced n step (gained + sv.total (clockGain n) operations)
      (played + sv.total (timePlayed n) operations) lead := by
  induction operations generalizing sv gained played with
  | nil => exact h
  | cons o rest ih =>
    have hfirst := hstart [] o _ _ (List.cons_prefix_cons.2 ⟨rfl, List.nil_prefix⟩) h
    have hrest := ih (h.perform hfirst) fun earlier o' g p hp =>
      hstart (o :: earlier) o' g p (List.cons_prefix_cons.2 ⟨rfl, hp⟩)
    rw [Nat.add_assoc, Nat.add_assoc] at hrest
    exact hrest

theorem Paced.within (h : sv.Paced n step gained played lead) : gained ≤ played + lead := by
  cases hs : sv.sessions[n]? with
  | none =>
    obtain ⟨rfl, rfl⟩ := h.absent hs
    exact Nat.zero_le _
  | some s => exact (h.session s hs).within

/-- No tick takes a session further than a period. -/
theorem Paced.startsWithin (h : sv.Paced n step gained played lead) (o : Operation) :
    sv.StartsWithin step n o := by
  intro s ms hs _ _ _ _ _
  have hperiod := (h.session s hs).period
  omega

/-- A clock that starts ahead of time can be told from the account. -/
theorem Paced.startsWithin_zero (h : sv.Paced n step gained played lead) {o : Operation}
    (hbound : gained + sv.clockGain n o ≤ played + sv.timePlayed n o) : sv.StartsWithin 0 n o := by
  intro s ms hs hms hphase hcancelled hpaused hclosed
  have hpaced := h.session s hs
  obtain ⟨rfl, rfl⟩ := hpaced.fresh hphase
  have hrunning : s.clock.running = true := by rw [hpaced.running hcancelled, hpaused]; rfl
  have htakes : s.clock.takeUp (sv.now + ms) = .active (sv.now + ms) := by
    simp [Clock.takeUp, hcancelled, hphase, hrunning]
  simp only [clockGain, timePlayed, hms, hs, Session.playedFor, hpaused, Bool.false_eq_true, if_false]
    at hbound
  rw [Session.gainAt_of_playing (by simp [hpaused, hclosed]), Clock.settle_of_active htakes,
    s.clock.due_self, Nat.one_mul] at hbound
  omega

/-! ## Every run -/

/-- Whatever is done to a server: at no point has a clock taken its session further than the session has
been playing, exactly if no clock settles for the first time while its session plays and takes it
further by this than the time that passes. No clock is ever ahead by more than a period. -/
theorem keeps_pace_iff (settings : Settings) (operations : List Operation) (n : Nat) :
    let sv := start settings
    ((∀ earlier, earlier <+: operations →
        sv.total (clockGain n) earlier ≤ sv.total (timePlayed n) earlier) ↔
      ∀ earlier o, earlier ++ [o] <+: operations → (sv.performAll earlier).StartsWithin 0 n o) ∧
    sv.total (clockGain n) operations ≤
      sv.total (timePlayed n) operations + max settings.tickMs.toNat 1 := by
  intro sv
  -- the account is within a period in any case
  have hperiod : ∀ operations : List Operation, (sv.performAll operations).Paced n
      (max settings.tickMs.toNat 1) (0 + sv.total (clockGain n) operations)
      (0 + sv.total (timePlayed n) operations) (max settings.tickMs.toNat 1) := fun operations =>
    (paced_start settings n _).performAll fun _ o _ _ _ hpaced => hpaced.startsWithin o
  refine ⟨⟨fun hbound earlier o hprefix => ?_, fun hstart earlier hprefix => ?_⟩, ?_⟩
  · have hthen := hbound _ hprefix
    rw [total_append, total_append] at hthen
    refine (hperiod earlier).startsWithin_zero ?_
    simp only [total] at hthen
    omega
  · have hpaced : (sv.performAll earlier).Paced n _ (0 + sv.total (clockGain n) earlier)
        (0 + sv.total (timePlayed n) earlier) 0 :=
      (paced_start settings n 0).performAll fun first o _ _ hfirst _ =>
        hstart first o (hfirst.trans hprefix)
    have hwithin := hpaced.within
    omega
  · have hwithin := (hperiod operations).within
    omega

/-- A session that is made and played before its clock has settled advances while no time passes. -/
theorem played_at_once_is_ahead :
    let operations : List Operation := [.create 1 0, .onSession 0 .play, .input (.around .settle)]
    let sv := (start {}).performAll operations
    sv.now = 0 ∧ (sv.session ⟨0, .generated 1⟩).time = 1 ∧
      ¬ (start {}).total (clockGain 0) operations ≤ (start {}).total (timePlayed 0) operations := by
  decide

end Server

end WatchParty
