/-
A clock that ticks once a period while it runs. Its owner sets a flag and marks that the flag was
set; the clock itself acts on this only when it settles, and until then any number of changes pile up.
`Clock.settle` is all that a clock does at one instant: it takes up the change and then makes up for
every deadline that has passed, with one tick for each.
-/

namespace WatchParty

inductive Phase
  /-- it has not settled since it was made -/
  | unstarted
  /-- it waits to be resumed -/
  | dormant
  /-- it runs, and its next tick is due at the instant `next` -/
  | active (next : Nat)
  /-- it has ended for good -/
  | finished
  deriving DecidableEq

structure Clock where
  /-- milliseconds from one tick to the next -/
  period : Nat
  running : Bool
  /-- the flag was set since the clock settled last -/
  changed : Bool
  cancelled : Bool
  phase : Phase
  period_pos : 0 < period
  deriving DecidableEq

namespace Clock

/-- A stopped clock. There is none of a period of zero. -/
def new (period : Nat) (period_pos : 0 < period) : Clock where
  period := period
  running := false
  changed := false
  cancelled := false
  phase := .unstarted
  period_pos := period_pos

def setRunning (c : Clock) (running : Bool) : Clock := { c with running, changed := true }

def resume (c : Clock) : Clock := c.setRunning true

def stop (c : Clock) : Clock := c.setRunning false

/-- Ends the clock. Nothing undoes this. -/
def cancel (c : Clock) : Clock := { c with cancelled := true }

/-- The clock will never tick again. -/
def isFinished (c : Clock) : Bool := c.phase == .finished

/-- The phase after the clock has taken up what was asked of it. A clock that has never settled starts
with a tick that is due at once; one that was dormant waits a whole period; one that ran all along
keeps its deadline, whatever was asked in between. -/
def takeUp (c : Clock) (now : Nat) : Phase :=
  if c.cancelled then .finished
  else match c.phase with
    | .unstarted => if c.running then .active now else .dormant
    | .dormant => if c.changed && c.running then .active (now + c.period) else .dormant
    | .active next => if c.changed && !c.running then .dormant else .active next
    | .finished => .finished

/-- The number of deadlines up to now. -/
def due (c : Clock) (now : Nat) : Phase → Nat
  | .active next => if next ≤ now then (now - next) / c.period + 1 else 0
  | _ => 0

def afterTicks (c : Clock) (ticks : Nat) : Phase → Phase
  | .active next => .active (next + ticks * c.period)
  | p => p

/-- Settles at an instant: the clock as it then is, and how often it ticked. -/
def settle (c : Clock) (now : Nat) : Clock × Nat :=
  let phase := c.takeUp now
  let ticks := c.due now phase
  ({ c with changed := false, phase := c.afterTicks ticks phase }, ticks)

end Clock

end WatchParty
