import LapTimer.Run

/-! The blink of the lap lamp: a countdown that toggles the lamp at each tick and puts it out
at the end. -/

namespace LapTimer

structure Blinker where
  remaining : UInt8 := 0
  lit : Bool := false
  active : Bool := false
  deriving DecidableEq, Repr, Inhabited

inductive BlinkOutcome where
  | toggle (lit : Bool)
  | done
  deriving DecidableEq, Repr

namespace Blinker

/-- Tells whether a blink worker has to be started. -/
def arm (blinker : Blinker) (toggles : UInt8) : Blinker × Bool :=
  ({ blinker with remaining := toggles, active := true }, !blinker.active)

def tick (blinker : Blinker) : Blinker × BlinkOutcome :=
  if 0 < blinker.remaining then
    ({ blinker with remaining := blinker.remaining - 1, lit := !blinker.lit },
      .toggle (!blinker.lit))
  else ({ blinker with lit := false, active := false }, .done)

end Blinker

inductive BlinkOp where
  | arm (toggles : UInt8)
  | tick
  deriving DecidableEq, Repr

inductive BlinkResult where
  | armed (fresh : Bool)
  | ticked (outcome : BlinkOutcome)
  deriving DecidableEq, Repr

def Blinker.step (blinker : Blinker) : BlinkOp → Blinker × BlinkResult
  | .arm toggles =>
      let (next, fresh) := blinker.arm toggles
      (next, .armed fresh)
  | .tick =>
      let (next, outcome) := blinker.tick
      (next, .ticked outcome)

abbrev Blinker.run (blinker : Blinker) (ops : List BlinkOp) : Blinker × List BlinkResult :=
  runBy step blinker ops

end LapTimer
