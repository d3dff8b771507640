import LapTimer.Blinker
import LapTimer.Key
import LapTimer.Lamp
import LapTimer.LapMode
import LapTimer.Meter
import LapTimer.Record

/-! The stopwatch itself, without a clock and without devices: every operation is given its
instant and answers with orders. A reset during a replay adds the final time as one more lap
and leaves the clearing to the end of the replay. -/

namespace LapTimer

structure Replay where
  active : Bool := false
  /-- The laps go once the replay is over. -/
  clearAfter : Bool := false
  /-- Counts the replays, so that a step meant for an older one is told apart. -/
  session : UInt32 := 0
  deriving DecidableEq, Repr, Inhabited

/-- What an operation asks of the devices and of the workers. -/
structure Orders where
  render : Option Reading := none
  lamps : List Switch := []
  startRenderer : Bool := false
  startStepper : Option UInt32 := none
  dismissStepper : Bool := false
  startBlinker : Bool := false
  newLap : Option Lap := none
  deriving DecidableEq, Repr

def Orders.none : Orders := {}

def Orders.isEmpty (orders : Orders) : Bool := orders == Orders.none

inductive RenderOutcome where
  | go (render : Option Reading)
  | stopped (orders : Orders)
  deriving DecidableEq, Repr

inductive ReplayOutcome where
  | lap (value : Reading)
  | finished (orders : Orders)
  | stale
  deriving DecidableEq, Repr

structure Status where
  running : Bool
  elapsed : Reading
  replaying : Bool
  clearAfter : Bool
  lapCount : UInt64
  mode : LapMode
  deriving DecidableEq, Repr

structure Stopwatch where
  meter : Meter := {}
  /-- The reading last meant for the face. -/
  face : Reading := .zero
  book : LapBook := {}
  replay : Replay := {}
  blinker : Blinker := {}
  blinks : UInt8 := 10
  mode : LapMode := .absolute
  /-- A render worker has been asked for and has not yet ended. -/
  refreshing : Bool := false
  deriving DecidableEq, Repr

namespace Stopwatch

def reading (watch : Stopwatch) (now : UInt64) : Reading := watch.meter.reading now

def start (watch : Stopwatch) (now : UInt64) : Stopwatch × Orders :=
  ({ watch with meter := (watch.meter.start now).1, refreshing := true },
    { lamps := [(.running, true)], startRenderer := !watch.refreshing })

def stop (watch : Stopwatch) (now : UInt64) : Stopwatch × Orders :=
  let meter := (watch.meter.stop now).1
  let face := meter.reading now
  ({ watch with meter, face },
    { render := if watch.replay.active then none else some face
      lamps := [(.running, false)] })

/-- A full book drops the lap, and the lamp does not blink for it. -/
def addLap (watch : Stopwatch) (time : Reading) : Stopwatch × Orders :=
  match watch.book.capture time with
  | .ok (book, lap) =>
      let (blinker, fresh) := watch.blinker.arm watch.blinks
      ({ watch with book, blinker }, { newLap := some lap, startBlinker := fresh })
  | .error _ => (watch, .none)

def beginReplay (watch : Stopwatch) : Stopwatch × Orders :=
  let session := watch.replay.session + 1
  ({ watch with
      replay := { watch.replay with active := true, session }
      book := watch.book.rewind },
    { startStepper := some session })

def leaveReplay (watch : Stopwatch) (now : UInt64) : Stopwatch × Orders :=
  ({ watch with
      replay := { watch.replay with active := false, clearAfter := false }
      book := if watch.replay.clearAfter then watch.book.clear else watch.book },
    { render := some (watch.reading now), lamps := [(.replay, false)] })

def reset (watch : Stopwatch) (now : UInt64) : Stopwatch × Orders :=
  let last := watch.reading now
  let zeroed := { watch with meter := watch.meter.reset.1, face := .zero }
  if watch.replay.active then
    let (next, orders) := zeroed.addLap last
    ({ next with replay := { next.replay with clearAfter := true } }, orders)
  else ({ zeroed with book := zeroed.book.clear }, { render := some .zero })

def press (watch : Stopwatch) (now : UInt64) : Key → Stopwatch × Orders
  | .run => if watch.meter.running then watch.stop now else watch.start now
  | .lap => if watch.meter.running then watch.addLap (watch.reading now) else (watch, .none)
  | .replay =>
      if watch.replay.active then
        let (next, orders) := watch.leaveReplay now
        (next, { orders with dismissStepper := true })
      else watch.beginReplay
  | .reset => if watch.meter.running then (watch, .none) else watch.reset now

/-- One round of the render worker, which ends once the meter has stopped, and
stops it at the limit. -/
def refresh (watch : Stopwatch) (now : UInt64) : Stopwatch × RenderOutcome :=
  if !watch.meter.running then ({ watch with refreshing := false }, .stopped .none)
  else
    let (meter, forced) := watch.meter.stopAtLimit now
    if forced then
      ({ watch with meter, refreshing := false, face := .greatest },
        .stopped
          { render := if watch.replay.active then none else some .greatest
            lamps := [(.running, false)] })
    else
      let face := watch.reading now
      ({ watch with face }, .go (if watch.replay.active then none else some face))

/-- One step of the replay that was started as `session`. Past the last lap the
replay is over. -/
def stepReplay (watch : Stopwatch) (session : UInt32) (now : UInt64) :
    Stopwatch × ReplayOutcome :=
  if !watch.replay.active || watch.replay.session != session then (watch, .stale)
  else
    match watch.book.replayNext with
    | (book, some (lap, previous)) =>
        ({ watch with book }, .lap (watch.mode.value lap.time (previous.map (·.time))))
    | (_, none) =>
        let (next, orders) := watch.leaveReplay now
        (next, .finished orders)

def blink (watch : Stopwatch) : Stopwatch × BlinkOutcome :=
  let (blinker, outcome) := watch.blinker.tick
  ({ watch with blinker }, outcome)

def readRecord (watch : Stopwatch) (now : UInt64) : Stopwatch × Record :=
  let (book, step) := watch.book.readNext
  ({ watch with book }, .ofStep (watch.reading now) step)

/-- Stops the meter whatever it does; tells whether it ran. -/
def halt (watch : Stopwatch) (now : UInt64) : Stopwatch × Bool :=
  let (meter, stopped) := watch.meter.stop now
  if stopped then ({ watch with meter, face := meter.reading now }, true)
  else (watch, false)

/-- Drops the laps, the replay and the blink, once all workers are gone. -/
def wipe (watch : Stopwatch) : Stopwatch :=
  { watch with
    book := watch.book.clear
    replay := { watch.replay with active := false, clearAfter := false }
    blinker := {}
    refreshing := false }

def setMode (watch : Stopwatch) (mode : LapMode) : Stopwatch := { watch with mode }

def status (watch : Stopwatch) (now : UInt64) : Status where
  running := watch.meter.running
  elapsed := watch.reading now
  replaying := watch.replay.active
  clearAfter := watch.replay.clearAfter
  lapCount := .ofNat watch.book.count
  mode := watch.mode

end Stopwatch

inductive WatchOp where
  | press (key : Key)
  | refresh
  | stepReplay (session : UInt32)
  | blink
  | readRecord
  | halt
  | wipe
  | setMode (mode : LapMode)
  deriving DecidableEq, Repr

inductive WatchResult where
  | orders (orders : Orders)
  | render (outcome : RenderOutcome)
  | replay (outcome : ReplayOutcome)
  | blink (outcome : BlinkOutcome)
  | record (record : Record)
  | stopped (ran : Bool)
  | done
  deriving DecidableEq, Repr

def Stopwatch.step (watch : Stopwatch) (now : UInt64) : WatchOp → Stopwatch × WatchResult
  | .press key =>
      let (next, orders) := watch.press now key
      (next, .orders orders)
  | .refresh =>
      let (next, outcome) := watch.refresh now
      (next, .render outcome)
  | .stepReplay session =>
      let (next, outcome) := watch.stepReplay session now
      (next, .replay outcome)
  | .blink =>
      let (next, outcome) := watch.blink
      (next, .blink outcome)
  | .readRecord =>
      let (next, record) := watch.readRecord now
      (next, .record record)
  | .halt =>
      let (next, ran) := watch.halt now
      (next, .stopped ran)
  | .wipe => (watch.wipe, .done)
  | .setMode mode => (watch.setMode mode, .done)

abbrev Stopwatch.stepAt : Stopwatch → UInt64 × WatchOp → Stopwatch × WatchResult := timed step

abbrev Stopwatch.run (watch : Stopwatch) (ops : List (UInt64 × WatchOp)) :
    Stopwatch × List WatchResult :=
  runBy stepAt watch ops

end LapTimer
