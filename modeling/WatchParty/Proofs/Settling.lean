/-
Time that passes in parts. A clock that has taken up what was asked of it makes up for the deadlines of
two stretches as it does for those of both at once, whether they end at a deadline or between two. So
nothing depends on the instants at which clocks settle, as long as nothing is asked of them in between:
`tick_then_tick`.
-/
import WatchParty.Proofs.Position
import WatchParty.Scenario.Run

namespace WatchParty

/-! ## Clocks -/

namespace Clock

variable {c : Clock} {x y : Nat}

/-- The clock has taken up all that was asked of it. -/
structure Abreast (c : Clock) : Prop where
  started : c.phase ≠ .unstarted
  unchanged : c.changed = false
  ended : c.cancelled = true → c.phase = .finished

theorem Abreast.takeUp (h : c.Abreast) (now : Nat) : c.takeUp now = c.phase := by
  unfold Clock.takeUp
  split
  · rename_i hcancelled
    exact (h.ended hcancelled).symm
  · cases hphase : c.phase with
    | unstarted => exact absurd hphase h.started
    | dormant => simp [h.unchanged]
    | active next => simp [h.unchanged]
    | finished => rfl

theorem takeUp_ne_unstarted (c : Clock) (now : Nat) : c.takeUp now ≠ .unstarted := by
  unfold Clock.takeUp
  split
  · exact nofun
  · split
    · split <;> exact nofun
    · split <;> exact nofun
    · split <;> exact nofun
    · exact nofun

/-- Whatever was asked of a clock before, it has taken it up once it has settled. -/
theorem abreast_settle (c : Clock) (now : Nat) : (c.settle now).1.Abreast where
  started := by
    have hstarted := c.takeUp_ne_unstarted now
    show c.afterTicks _ (c.takeUp now) ≠ .unstarted
    cases hphase : c.takeUp now with
    | unstarted => exact absurd hphase hstarted
    | _ => simp [afterTicks]
  unchanged := rfl
  ended hcancelled := by
    have hcancelled : c.cancelled = true := hcancelled
    rw [settle_of_cancelled hcancelled]

theorem afterTicks_add (c : Clock) (j k : Nat) (p : Phase) :
    c.afterTicks k (c.afterTicks j p) = c.afterTicks (j + k) p := by
  cases p with
  | active next => simp only [afterTicks, Nat.add_mul, Nat.add_assoc]
  | _ => rfl

/-- The deadlines up to a later instant are those up to an earlier one and those that come after. -/
theorem due_add (c : Clock) (hxy : x ≤ y) (p : Phase) :
    c.due x p + c.due y (c.afterTicks (c.due x p) p) = c.due y p := by
  cases p with
  | active next =>
    simp only [afterTicks]
    -- a clock that is not due at the earlier instant has not moved on the way to the later one
    by_cases hnext : next ≤ x
    · have hresumed := c.due_of_resumed hnext hxy
      rw [c.due_of_le hnext, c.due_of_le (Nat.le_trans hnext hxy)]
      omega
    · rw [c.due_of_lt (by omega), Nat.zero_mul, Nat.add_zero, Nat.zero_add]
  | _ => rfl

theorem Abreast.settle_eq (h : c.Abreast) (now : Nat) :
    c.settle now =
      ({ c with phase := c.afterTicks (c.due now c.phase) c.phase }, c.due now c.phase) := by
  unfold Clock.settle
  rw [h.takeUp now, ← h.unchanged]

/-- A clock that settles on the way comes to the same, and has ticked as often in all. -/
theorem Abreast.settle_settle (h : c.Abreast) (hxy : x ≤ y) :
    ((c.settle x).1.settle y).1 = (c.settle y).1 ∧
      (c.settle x).2 + ((c.settle x).1.settle y).2 = (c.settle y).2 := by
  have hway := c.abreast_settle x
  have hdue := c.due_add hxy c.phase
  rw [h.settle_eq x] at hway ⊢
  rw [hway.settle_eq y, h.settle_eq y]
  refine ⟨congrArg (fun phase => { c with phase }) ?_, hdue⟩
  show c.afterTicks _ (c.afterTicks _ c.phase) = _
  rw [c.afterTicks_add]
  exact congrArg (c.afterTicks · c.phase) hdue

/-- At the instant at which it has settled, a clock has nothing left to do. -/
theorem settle_again (c : Clock) (now : Nat) :
    (c.settle now).1.settle now = ((c.settle now).1, 0) := by
  have hnone : (c.settle now).1.due now (c.settle now).1.phase = 0 := by
    have hadd := c.due_add (Nat.le_refl now) (c.takeUp now)
    show c.due now (c.afterTicks (c.due now (c.takeUp now)) (c.takeUp now)) = 0
    omega
  exact settle_of_no_tick ((c.abreast_settle now).takeUp now) hnone

end Clock

/-! ## Sessions -/

namespace Session

variable {s : Session} {now x y : Nat}

/-- Sessions that differ in their clocks and positions only settle alike if these do. -/
theorem settle_congr {t : Session}
    (h : t = { s with clock := t.clock, time := t.time })
    (hclock : (t.settle y).clock = (s.settle x).clock) (htime : (t.settle y).time = (s.settle x).time) :
    t.settle y = s.settle x := by
  have heq : t.settle y = { s with clock := (t.settle y).clock, time := (t.settle y).time } := by
    rw [h]
    rfl
  rw [heq, hclock, htime]
  rfl

/-- A session that settles on the way is at the same position in the end, also if this is the last. -/
theorem settle_settle (h : s.clock.Abreast) (hxy : x ≤ y) : (s.settle x).settle y = s.settle y := by
  obtain ⟨hclock, hticks⟩ := h.settle_settle hxy
  have hplayed : s.playedTicks x + (s.settle x).playedTicks y = s.playedTicks y := by
    unfold playedTicks
    change (if s.paused || s.closed then 0 else (s.clock.settle x).2) +
      (if s.paused || s.closed then 0 else ((s.clock.settle x).1.settle y).2) = _
    split
    · rfl
    · exact hticks
  refine settle_congr rfl hclock (UInt64.toNat_inj.1 ?_)
  rw [toNat_time_settle, toNat_time_settle, toNat_time_settle, ← hplayed, Nat.add_mul]
  exact min_lastPosition_add _ _ _

/-- At the instant at which it has settled, a session stays where it is. -/
theorem settle_again (s : Session) (now : Nat) : (s.settle now).settle now = s.settle now := by
  have hclock := s.clock.settle_again now
  have htime : ((s.settle now).settle now).time = (s.settle now).time := by
    have hplayed : (s.settle now).playedTicks now = 0 := by
      unfold playedTicks
      rw [show (s.settle now).clock.settle now = _ from hclock]
      split
      · rfl
      · rfl
    have hlast := (s.settle now).time_le_lastPosition
    apply UInt64.toNat_inj.1
    rw [toNat_time_settle, hplayed, Nat.zero_mul, Nat.add_zero, Nat.min_eq_right hlast]
  exact settle_congr rfl (congrArg Prod.fst hclock) htime

theorem abreast_of_settled (h : s.settle now = s) : s.clock.Abreast := by
  rw [← h]
  exact s.clock.abreast_settle now

end Session

/-! ## Servers -/

namespace Server

variable {sv : Server}

theorem settle_again (sv : Server) : sv.settle.settle = sv.settle := by
  have hsessions : sv.settle.settle.sessions = sv.settle.sessions := by
    show (sv.sessions.map fun s : Session => s.settle sv.now).map (fun s => s.settle sv.now) = _
    rw [List.map_map]
    exact List.map_congr_left fun s _ => s.settle_again sv.now
  exact congrArg (fun sessions => { sv with sessions }) hsessions

theorem session_of_settled (h : sv.settle = sv) : ∀ s ∈ sv.sessions, s.settle sv.now = s := by
  have hsessions : (sv.sessions.map fun s : Session => s.settle sv.now) = sv.sessions.map fun s => s := by
    rw [List.map_id']
    exact congrArg Server.sessions h
  exact List.map_inj_left.1 hsessions

theorem getElem?_settle_eq_some {n : Nat} {s : Session} : sv.settle.sessions[n]? = some s ↔
    ∃ t : Session, sv.sessions[n]? = some t ∧ t.settle sv.now = s := by
  unfold settle
  rw [List.getElem?_map, Option.map_eq_some_iff]

/-- Sessions that are settled are the same after one stretch and another as after both. -/
theorem elapse_elapse (h : sv.settle = sv) (a b : Nat) : (sv.elapse a).elapse b = sv.elapse (a + b) := by
  have hnow : ((sv.elapse a).elapse b).now = (sv.elapse (a + b)).now := Nat.add_assoc _ a b
  have hsessions : ((sv.elapse a).elapse b).sessions = (sv.elapse (a + b)).sessions := by
    show (sv.sessions.map fun s : Session => s.settle (sv.now + a)).map
      (fun s => s.settle (sv.now + a + b)) = sv.sessions.map fun s => s.settle (sv.now + (a + b))
    rw [List.map_map, Nat.add_assoc]
    refine List.map_congr_left fun s hs => ?_
    exact Session.settle_settle (Session.abreast_of_settled (session_of_settled h s hs)) (by omega)
  calc (sv.elapse a).elapse b = { sv with
        now := ((sv.elapse a).elapse b).now
        sessions := ((sv.elapse a).elapse b).sessions } := rfl
    _ = sv.elapse (a + b) := by
      rw [hnow, hsessions]
      rfl

end Server

/-! ## Runs -/

namespace Scenario

namespace Ticker

variable {t : Ticker} {now x y : Nat}

theorem settle_settle (h : t.clock.Abreast) (hxy : x ≤ y) : (t.settle x).settle y = t.settle y := by
  obtain ⟨hclock, hticks⟩ := h.settle_settle hxy
  unfold settle
  simp only [hclock, Nat.add_assoc, hticks]

theorem settle_again (t : Ticker) (now : Nat) : (t.settle now).settle now = t.settle now := by
  unfold settle
  simp only [t.clock.settle_again now, Nat.add_zero]

theorem abreast_of_settled (h : t.settle now = t) : t.clock.Abreast := by
  rw [← h]
  exact t.clock.abreast_settle now

end Ticker

namespace Run

variable {run : Run}

/-- All clocks have taken up what was asked of them and have ticked for every deadline up to now. -/
def Settled (run : Run) : Prop := run.settle = run

theorem settled_settle (run : Run) : run.settle.Settled := by
  have hclocks : run.settle.settle.clocks = run.settle.clocks := by
    refine Std.ExtTreeMap.ext_getElem? fun name => ?_
    show ((run.clocks.map fun _ (t : Ticker) => t.settle run.server.now).map
      (fun _ t => t.settle run.server.now))[name]? =
        (run.clocks.map fun _ (t : Ticker) => t.settle run.server.now)[name]?
    rw [Std.ExtTreeMap.getElem?_map, Std.ExtTreeMap.getElem?_map, Option.map_map]
    exact Option.map_congr fun t _ => t.settle_again run.server.now
  calc run.settle.settle = { run with
        server := run.server.settle.settle
        clocks := run.settle.settle.clocks } := rfl
    _ = run.settle := by
      rw [run.server.settle_again, hclocks]
      rfl

theorem settled_step (run : Run) (timestamp : UInt64) (s : Step) :
    (run.step timestamp s).2.Settled :=
  settled_settle _

theorem Settled.server (h : run.Settled) : run.server.settle = run.server :=
  congrArg Run.server h

theorem Settled.clock (h : run.Settled) {name : Name} {t : Ticker} (ht : run.clocks[name]? = some t) :
    t.settle run.server.now = t := by
  have hclocks : run.clocks.map (fun _ t => t.settle run.server.now) = run.clocks :=
    congrArg Run.clocks h
  have hname := congrArg (·[name]?) hclocks
  simp only [Std.ExtTreeMap.getElem?_map, ht, Option.map_some, Option.some.injEq] at hname
  exact hname

theorem elapse_elapse (h : run.Settled) (a b : Nat) : (run.elapse a).elapse b = run.elapse (a + b) := by
  have hclocks : ((run.elapse a).elapse b).clocks = (run.elapse (a + b)).clocks := by
    refine Std.ExtTreeMap.ext_getElem? fun name => ?_
    show ((run.clocks.map fun _ (t : Ticker) => t.settle (run.server.now + a)).map
      (fun _ t => t.settle (run.server.now + a + b)))[name]? =
        (run.clocks.map fun _ (t : Ticker) => t.settle (run.server.now + (a + b)))[name]?
    rw [Std.ExtTreeMap.getElem?_map, Std.ExtTreeMap.getElem?_map, Std.ExtTreeMap.getElem?_map,
      Option.map_map, Nat.add_assoc]
    refine Option.map_congr fun t ht => ?_
    exact Ticker.settle_settle (Ticker.abreast_of_settled (h.clock ht)) (by omega)
  calc (run.elapse a).elapse b = { run with
        server := (run.server.elapse a).elapse b
        clocks := ((run.elapse a).elapse b).clocks } := rfl
    _ = run.elapse (a + b) := by
      rw [run.server.elapse_elapse h.server, hclocks]
      rfl

/-- A step that lets time pass settles once only. -/
theorem step_tick (run : Run) (timestamp : UInt64) (ms : Nat) :
    (run.step timestamp (.tick ms)).2 = run.elapse ms :=
  settled_settle _

/-- Nobody is told that time passes. -/
theorem seen_tick (run : Run) (timestamp : UInt64) (ms : Nat) :
    (run.stepReport timestamp (.tick ms)).1.seen = [] := by
  have hnone : (run.elapse ms).deliveredSince run = [] := by
    show (run.server.network.log.take (run.server.network.log.length - _)).reverse = []
    rw [Nat.sub_self, List.take_zero, List.reverse_nil]
  show ((run.step timestamp (.tick ms)).2.deliveredSince run).map _ = []
  rw [step_tick, hnone, List.map_nil]

/-- From whatever settled state, with any sessions and clocks: if time passes, and then passes again, all
is as it would be had as much time passed at once. Nobody is told anything either way. -/
theorem tick_then_tick (run : Run) (hsettled : run.Settled) (a b : Nat) (first second once : UInt64) :
    let half := (run.step first (.tick a)).2
    let whole := (run.step once (.tick (a + b))).2
    (half.step second (.tick b)).2 = whole ∧ whole.Settled ∧
      (run.stepReport first (.tick a)).1.seen = [] ∧ (half.stepReport second (.tick b)).1.seen = [] ∧
      (run.stepReport once (.tick (a + b))).1.seen = [] := by
  intro half whole
  refine ⟨?_, settled_step _ _ _, seen_tick _ _ _, seen_tick _ _ _, seen_tick _ _ _⟩
  show (half.step second (.tick b)).2 = (run.step once (.tick (a + b))).2
  rw [step_tick, step_tick, show half = run.elapse a from step_tick run first a]
  exact elapse_elapse hsettled a b

/-- Alice watches from twenty milliseconds before the last position on, beside a clock that ticks at the
start and then every seven. Thirty-five milliseconds may be cut at a tick of this clock or between two. -/
theorem alice_watches_in_parts :
    let alice : ConnectionId := ⟨"alice"⟩
    let late : Json := .natural (UInt64.ofNat (Session.lastPosition - 20))
    let watched : Json := .object [("session_id", .string (SessionId.generated 1).text)]
    let run := ((Run.start {}).step 0 (.batch [
      .dispatch alice "flixy new" (.object [("time", late), ("video_id", .natural 1)]),
      .dispatch alice "flixy play" watched, .newClock "k" 7, .resumeClock "k"])).2
    let whole := (run.step 0 (.tick 35)).2
    ((run.step 0 (.tick 14)).2.step 0 (.tick 21)).2 = whole ∧
      ((run.step 0 (.tick 16)).2.step 0 (.tick 19)).2 = whole ∧
      whole.clocks["k"]?.map (·.ticks) = some 6 ∧
      whole.server.sessions[0]?.map (·.time.toNat) = some Session.lastPosition := by
  intro alice late watched run whole
  have hsettled : run.Settled := settled_step _ _ _
  have hticks : whole.clocks["k"]?.map (·.ticks) = some 6 := by decide +kernel
  have htime : whole.server.sessions[0]?.map (·.time.toNat) = some Session.lastPosition := by
    decide +kernel
  have hdeadline := (tick_then_tick run hsettled 14 21 0 0 0).1
  have hbetween := (tick_then_tick run hsettled 16 19 0 0 0).1
  exact ⟨hdeadline, hbetween, hticks, htime⟩

end Run

end Scenario

end WatchParty
