/-!
# Scheduling

When a machine with a period is due, by a clock of milliseconds that wraps around after 2³² of them.
-/

namespace Brickwork

/-- Whether at least `period` milliseconds have passed between two readings of the wrapping
clock. -/
def isDue (lastRun now period : UInt32) : Bool :=
  period ≤ now - lastRun

/-- A machine on the clock: how often it runs and when it last ran. -/
structure Timer where
  period : UInt32
  lastRun : UInt32 := 0
deriving DecidableEq, Inhabited

namespace Timer

/-- Whether the timer is due. -/
def due (timer : Timer) (now : UInt32) : Bool :=
  isDue timer.lastRun now timer.period

/-- The timer after a reading of the clock: a due one has just run. -/
def tick (timer : Timer) (now : UInt32) : Timer :=
  if timer.due now then { timer with lastRun := now } else timer

end Timer

end Brickwork
