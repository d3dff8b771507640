import LapTimer.Reading
import LapTimer.Run

/-! The meter counts running time. It never shows more than the greatest reading, and a clock
that goes back adds nothing. -/

namespace LapTimer

structure Meter where
  running : Bool := false
  openedAt : UInt64 := 0
  banked : UInt64 := 0
  deriving DecidableEq, Repr, Inhabited

namespace Meter

def elapsed (meter : Meter) (now : UInt64) : UInt64 :=
  min Reading.limitNanos
    (if meter.running then
      Saturating.add64 meter.banked (Saturating.sub64 now meter.openedAt)
    else meter.banked)

def reading (meter : Meter) (now : UInt64) : Reading := .ofNanos (meter.elapsed now)

def reachedLimit (meter : Meter) (now : UInt64) : Bool := Reading.limitNanos ≤ meter.elapsed now

/-- Opens a segment; tells whether the meter was stopped. -/
def start (meter : Meter) (now : UInt64) : Meter × Bool :=
  if meter.running then (meter, false)
  else ({ meter with openedAt := now, running := true }, true)

/-- Closes the open segment; tells whether there was one. -/
def stop (meter : Meter) (now : UInt64) : Meter × Bool :=
  if meter.running then
    ({ meter with banked := meter.elapsed now, running := false }, true)
  else (meter, false)

/-- Forgets all segments; refused while the meter runs. -/
def reset (meter : Meter) : Meter × Bool :=
  if meter.running then (meter, false)
  else ({ meter with banked := 0, openedAt := 0 }, true)

/-- Stops a running meter that has reached the limit, at exactly the limit. -/
def stopAtLimit (meter : Meter) (now : UInt64) : Meter × Bool :=
  if meter.running && meter.reachedLimit now then
    ({ meter with banked := Reading.limitNanos, running := false }, true)
  else (meter, false)

end Meter

inductive MeterOp where
  | start
  | stop
  | reset
  | stopAtLimit
  deriving DecidableEq, Repr

def Meter.step (meter : Meter) (now : UInt64) : MeterOp → Meter × Bool
  | .start => meter.start now
  | .stop => meter.stop now
  | .reset => meter.reset
  | .stopAtLimit => meter.stopAtLimit now

/-- Nothing asks the instants of a run to go forward. -/
abbrev Meter.run (meter : Meter) (ops : List (UInt64 × MeterOp)) : Meter :=
  (runBy (timed step) meter ops).1

end LapTimer
