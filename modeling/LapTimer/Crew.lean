import LapTimer.Instrument

/-! The workers of an instrument. A worker does rounds for as long as its round says so;
nothing here keeps a second worker of a kind from being started. -/

namespace LapTimer

inductive Worker where
  | renderer
  | stepper (session : UInt32)
  | blinker
  deriving DecidableEq, Repr

namespace Worker

def isRenderer : Worker → Bool
  | renderer => true
  | _ => false

def isStepper : Worker → Bool
  | stepper _ => true
  | _ => false

def isBlinker : Worker → Bool
  | blinker => true
  | _ => false

end Worker

/-- The workers that an operation asks for, in the order of their start. -/
def Orders.starts (orders : Orders) : List Worker :=
  (orders.startStepper.map Worker.stepper).toList ++
    (if orders.startRenderer then [.renderer] else []) ++
    (if orders.startBlinker then [.blinker] else [])

/-- An instrument with the workers that are alive. -/
structure Crew (P L : Type) where
  unit : Instrument P L
  workers : List Worker := []

namespace Crew

variable {P L : Type}

def isLive (crew : Crew P L) (worker : Worker) : Bool := crew.workers.contains worker

def dismiss (crew : Crew P L) (whom : Worker → Bool) : Crew P L :=
  { crew with workers := crew.workers.filter fun worker => !whom worker }

/-- Calls the stepper off where that is asked, then starts workers. -/
def follow (crew : Crew P L) (orders : Orders) : Crew P L :=
  let kept := if orders.dismissStepper then crew.dismiss Worker.isStepper else crew
  { kept with workers := kept.workers ++ orders.starts }

variable [Sink P Display.Write] [Sink L Switch]

def press (crew : Crew P L) (key : Key) : Crew P L × Orders :=
  let (unit, orders) := crew.unit.press key
  (({ crew with unit } : Crew P L).follow orders, orders)

/-- One round of a worker; tells whether it goes on. -/
def work (unit : Instrument P L) : Worker → Instrument P L × Bool
  | .renderer =>
      match unit.renderRound with
      | (next, .go _) => (next, true)
      | (next, .stopped _) => (next, false)
  | .stepper session =>
      match unit.replayRound session with
      | (next, .lap _) => (next, true)
      | (next, .finished _) => (next, false)
      | (next, .stale) => (next, false)
  | .blinker =>
      match unit.blinkRound with
      | (next, .toggle _) => (next, true)
      | (next, .done) => (next, false)

/-- One round of a worker, if it is alive. A worker that does not go on is gone. -/
def round (crew : Crew P L) (worker : Worker) : Crew P L × Bool :=
  if crew.isLive worker then
    let (unit, goesOn) := work crew.unit worker
    ({ unit, workers := if goesOn then crew.workers else crew.workers.erase worker }, goesOn)
  else (crew, false)

end Crew

inductive CrewOp where
  | press (key : Key)
  | round (worker : Worker)
  | moveClock (move : ClockMove)
  deriving DecidableEq, Repr

variable {P L : Type} [Sink P Display.Write] [Sink L Switch]

def Crew.step (crew : Crew P L) : CrewOp → Crew P L
  | .press key => (crew.press key).1
  | .round worker => (crew.round worker).1
  | .moveClock move => { crew with unit := crew.unit.moveClock move }

def Crew.run (crew : Crew P L) (ops : List CrewOp) : Crew P L := ops.foldl Crew.step crew

end LapTimer
