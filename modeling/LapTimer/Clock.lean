import LapTimer.Reading

/-! A clock that is moved by hand. Spans stop at the greatest word, and advancing past it
wraps. -/

namespace LapTimer

inductive ClockMove where
  | setNanos (n : UInt64)
  | setMillis (n : UInt64)
  | advanceNanos (n : UInt64)
  | advanceMillis (n : UInt64)
  | advanceSeconds (n : UInt64)
  deriving DecidableEq, Repr

def ClockMove.apply (now : UInt64) : ClockMove → UInt64
  | .setNanos n => n
  | .setMillis n => Saturating.mul64 n Reading.nanosPerMilli
  | .advanceNanos n => now + n
  | .advanceMillis n => now + Saturating.mul64 n Reading.nanosPerMilli
  | .advanceSeconds n => now + Saturating.mul64 n Reading.nanosPerSecond

end LapTimer
