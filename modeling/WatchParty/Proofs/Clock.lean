/-
What a clock does when it settles, by the phase that it takes up. The next deadline of a clock that is
active after it has settled is no more than a period away, and the deadlines of one that runs on come a
period apart, counted from when it was resumed.
-/
import WatchParty.Clock

namespace WatchParty.Clock

variable (c : Clock) {now next : Nat}

/-! ## Settling -/

/-- A clock that has no deadline to make up for only takes up what was asked of it. -/
theorem settle_of_no_tick {c : Clock} {phase : Phase} (h : c.takeUp now = phase)
    (hdue : c.due now phase = 0) : c.settle now = ({ c with changed := false, phase }, 0) := by
  simp only [settle, h, hdue]
  cases phase with
  | active next => simp [afterTicks]
  | _ => rfl

/-- A clock that is not active when it settles does not tick. -/
theorem settle_of_inactive {c : Clock} {phase : Phase} (h : c.takeUp now = phase)
    (hphase : ∀ next, phase ≠ .active next) :
    c.settle now = ({ c with changed := false, phase }, 0) := by
  refine settle_of_no_tick h ?_
  cases phase with
  | active next => exact absurd rfl (hphase next)
  | _ => rfl

theorem settle_of_cancelled {c : Clock} (h : c.cancelled = true) (now : Nat) :
    c.settle now = ({ c with changed := false, phase := .finished }, 0) :=
  settle_of_inactive (by simp [takeUp, h]) nofun

/-- Nothing that is asked of a clock undoes that it is at its end. -/
theorem cancelled_setRunning (c : Clock) (flags : List Bool) :
    (flags.foldl setRunning c).cancelled = c.cancelled := by
  induction flags generalizing c with
  | nil => rfl
  | cons flag rest ih => exact ih (c.setRunning flag)

theorem settle_of_active {c : Clock} (h : c.takeUp now = .active next) :
    c.settle now = ({ c with changed := false, phase := .active (next + c.due now (.active next) * c.period) },
      c.due now (.active next)) := by
  simp [settle, h, afterTicks]

/-! ## Deadlines -/

theorem due_of_lt (h : now < next) : c.due now (.active next) = 0 := by
  simp only [due]
  rw [if_neg (by omega)]

/-- A deadline that is reached at this very moment is the only one that is due. -/
theorem due_self (now : Nat) : c.due now (.active now) = 1 := by
  simp [due]

theorem due_of_le (h : next ≤ now) : c.due now (.active next) = (now - next) / c.period + 1 := by
  simp only [due]
  rw [if_pos h]

/-- No deadline is made up for before it is reached. -/
theorem next_le (h : next ≤ now + c.period) :
    next + c.due now (.active next) * c.period ≤ now + c.period := by
  by_cases hle : next ≤ now
  · have hmul : (now - next) / c.period * c.period ≤ now - next := Nat.div_mul_le_self _ _
    rw [c.due_of_le hle, Nat.add_mul, Nat.one_mul]
    omega
  · rw [c.due_of_lt (by omega)]
    omega

/-- The deadlines of a clock that was resumed at an instant come one period after the other. -/
theorem due_of_resumed {start before : Nat} (hstart : start ≤ before) (hbefore : before ≤ now) :
    (before - start) / c.period + c.due now (.active (start + ((before - start) / c.period + 1) * c.period)) =
      (now - start) / c.period := by
  have hpos := c.period_pos
  generalize hq : (before - start) / c.period = q
  by_cases hle : start + (q + 1) * c.period ≤ now
  · rw [c.due_of_le hle]
    have hsub : now - (start + (q + 1) * c.period) = now - start - c.period * (q + 1) := by
      rw [Nat.mul_comm c.period]
      omega
    have hle' : q + 1 ≤ (now - start) / c.period := by
      rw [Nat.le_div_iff_mul_le hpos]
      omega
    rw [hsub, Nat.sub_mul_div]
    omega
  · rw [c.due_of_lt (by omega)]
    have hge : q ≤ (now - start) / c.period := by
      rw [← hq]
      exact Nat.div_le_div_right (by omega)
    have hlt : (now - start) / c.period < q + 1 := by
      rw [Nat.div_lt_iff_lt_mul hpos]
      omega
    omega

end WatchParty.Clock
