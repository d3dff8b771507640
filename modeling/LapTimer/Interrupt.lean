import LapTimer.Run

/-! The interrupt queue between the keys and their handler. A raise that finds no room is
coalesced with those that wait. -/

namespace LapTimer

structure Interrupt where
  /-- The room of the queue, at least one. -/
  depth : Nat
  queued : Nat := 0
  /-- Number of lines on which activations can be raised. -/
  lines : Nat := 1
  receiving : Bool := true
  deriving DecidableEq, Repr

inductive Wait where
  | activation
  | ended
  | pending
  deriving DecidableEq, Repr

namespace Interrupt

def ofDepth (depth : Nat) : Interrupt := { depth := max depth 1 }

/-- Tells whether the activation was queued. -/
def raise (line : Interrupt) : Interrupt × Bool :=
  if line.receiving && line.queued < line.depth then
    ({ line with queued := line.queued + 1 }, true)
  else (line, false)

def isClosed (line : Interrupt) : Bool := !line.receiving

def clone (line : Interrupt) : Interrupt := { line with lines := line.lines + 1 }

def dropLine (line : Interrupt) : Interrupt := { line with lines := line.lines - 1 }

/-- Takes one activation, if there is one. -/
def wait (line : Interrupt) : Interrupt × Wait :=
  if 0 < line.queued then ({ line with queued := line.queued - 1 }, .activation)
  else if line.lines = 0 then (line, .ended)
  else (line, .pending)

def dropReceiver (line : Interrupt) : Interrupt :=
  { line with queued := 0, receiving := false }

end Interrupt

inductive InterruptOp where
  | raise
  | clone
  | dropLine
  | dropReceiver
  | wait
  deriving DecidableEq, Repr

inductive InterruptResult where
  | raised (queued : Bool)
  | waited (wait : Wait)
  | done
  deriving DecidableEq, Repr

/-- Without a line nothing can be raised or cloned, and without a receiver nothing is waited
for. -/
def Interrupt.step (line : Interrupt) : InterruptOp → Interrupt × InterruptResult
  | .raise =>
      if line.lines = 0 then (line, .done)
      else
        let (next, queued) := line.raise
        (next, .raised queued)
  | .clone => if line.lines = 0 then (line, .done) else (line.clone, .done)
  | .dropLine => (line.dropLine, .done)
  | .dropReceiver => (line.dropReceiver, .done)
  | .wait =>
      if line.receiving then
        let (next, wait) := line.wait
        (next, .waited wait)
      else (line, .done)

abbrev Interrupt.run (line : Interrupt) (ops : List InterruptOp) :
    Interrupt × List InterruptResult :=
  runBy step line ops

end LapTimer
