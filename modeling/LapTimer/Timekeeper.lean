import LapTimer.Crew
import LapTimer.Interrupt
import LapTimer.Settings

/-! A timekeeper: an instrument whose workers run by the clock, with keys that reach it through
an interrupt handler. Time moves only while the caller sleeps, and due tasks run first come,
first served, only while the caller sleeps or waits. -/

namespace LapTimer

inductive Task where
  | handler
  | worker (worker : Worker)
  deriving DecidableEq, Repr

structure Timekeeper (P L : Type) where
  settings : TimerSettings
  crew : Crew P L
  millis : Nat := 0
  /-- The tasks that are due, in the order in which they will run. -/
  ready : List Task := []
  /-- The workers between two rounds, each with the instant of its next one. -/
  asleep : List (Nat × Worker) := []
  line : Interrupt
  /-- No handler has been attached so far. -/
  attachable : Bool := true
  /-- A handler is attached and serves the line. -/
  handling : Bool := false
  keys : EdgeRegister := {}

namespace Timekeeper

variable {P L : Type}

def period (settings : TimerSettings) : Worker → Nat
  | .renderer => settings.renderMillis.toNat
  | .stepper _ => settings.replayMillis.toNat
  | .blinker => settings.blinkMillis.toNat

def updateUnit (keeper : Timekeeper P L) (unit : Instrument P L) : Timekeeper P L :=
  { keeper with crew := { keeper.crew with unit } }

/-- Takes the rounds of some workers off the agenda. -/
def forget (keeper : Timekeeper P L) (whom : Worker → Bool) : Timekeeper P L :=
  { keeper with
    ready := keeper.ready.filter fun
      | .handler => true
      | .worker worker => !whom worker
    asleep := keeper.asleep.filter fun entry => !whom entry.2 }

/-- Makes an instant the present: the workers that wake by then become due. -/
def wakeAt (keeper : Timekeeper P L) (instant : Nat) : Timekeeper P L :=
  { keeper with
    millis := instant
    crew := { keeper.crew with
      unit := { keeper.crew.unit with now := UInt64.ofNat (instant * 1000000) } }
    ready := keeper.ready ++
      (keeper.asleep.filter (·.1 ≤ instant)).map fun entry => .worker entry.2
    asleep := keeper.asleep.filter (instant < ·.1) }

/-- The instant at which the next worker wakes. -/
def nextWake (keeper : Timekeeper P L) : Option Nat := (keeper.asleep.map (·.1)).min?

def latch (keeper : Timekeeper P L) (bits : UInt32) : Timekeeper P L :=
  { keeper with keys := keeper.keys.latch bits }

/-- Raises the interrupt line; an activation that is queued wakes the handler. -/
def raise (keeper : Timekeeper P L) : Timekeeper P L × Bool :=
  let (line, queued) := keeper.line.raise
  let wakes := queued && keeper.handling && !keeper.ready.contains .handler
  ({ keeper with
      line
      ready := if wakes then keeper.ready ++ [.handler] else keeper.ready }, queued)

/-- Attaches the handler. There is only ever one. -/
def attach (keeper : Timekeeper P L) : Except Error (Timekeeper P L) :=
  if keeper.attachable then
    .ok { keeper with
      attachable := false
      handling := true
      ready := keeper.ready ++ [.handler] }
  else .error .handlerAttached

variable [Sink P Display.Write] [Sink L Switch]

/-- A stopped stopwatch with a dark face and all lamps off. -/
def start (settings : TimerSettings) (panel : P) (lamps : L) : Timekeeper P L :=
  let unit : Instrument P L := { watch := settings.watch, panel, lamps }
  { settings
    crew := { unit := unit.darken.lampsOff }
    line := .ofDepth settings.queueDepth.toNat }

def press (keeper : Timekeeper P L) (key : Key) : Timekeeper P L × Orders :=
  let (crew, orders) := keeper.crew.press key
  let pressed := { keeper with crew }
  let kept := if orders.dismissStepper then pressed.forget Worker.isStepper else pressed
  ({ kept with ready := kept.ready ++ orders.starts.map .worker }, orders)

/-- Reads the edge register, presses the key it means, and acknowledges it
whatever it held. -/
def readKeys (keeper : Timekeeper P L) : Timekeeper P L × Option Key :=
  let key := Key.ofEdges? keeper.keys.edges
  let pressed := match key with
    | some key => (keeper.press key).1
    | none => keeper
  ({ pressed with keys := pressed.keys.acknowledge }, key)

/-- One turn of the handler: takes an activation, if there is one, and reads the
keys. -/
def activate (keeper : Timekeeper P L) : Timekeeper P L :=
  match keeper.line.wait with
  | (line, .activation) => (({ keeper with line } : Timekeeper P L).readKeys).1
  | _ => keeper

def serve : Nat → Timekeeper P L → Timekeeper P L
  | 0, keeper => keeper
  | turns + 1, keeper => serve turns keeper.activate

def runTask (keeper : Timekeeper P L) : Task → Timekeeper P L
  | .handler => if keeper.handling then serve keeper.line.queued keeper else keeper
  | .worker worker =>
      let (crew, goesOn) := keeper.crew.round worker
      let entry := (keeper.millis + period keeper.settings worker, worker)
      { keeper with
        crew
        asleep := if goesOn then keeper.asleep ++ [entry] else keeper.asleep }

/-- Runs the tasks that are due, at most `limit` of them. -/
def runReady : Nat → Timekeeper P L → Timekeeper P L
  | 0, keeper => keeper
  | limit + 1, keeper =>
      match keeper.ready with
      | [] => keeper
      | task :: rest =>
          runReady limit (({ keeper with ready := rest } : Timekeeper P L).runTask task)

-- One activation starts at most three workers, and the round of a worker makes
-- nothing due at once, so the limit is never what ends the run.
/-- Runs all tasks that are due, with those that they make due. -/
def settle (keeper : Timekeeper P L) : Timekeeper P L :=
  runReady (keeper.ready.length + 3 * keeper.line.queued) keeper

/-- Goes from wake to wake up to an instant, over at most `limit` of them. What
wakes at that instant itself is due but has not run. -/
def advanceTo (target : Nat) : Nat → Timekeeper P L → Timekeeper P L
  | 0, keeper => keeper
  | limit + 1, keeper =>
      match keeper.nextWake with
      | none => keeper.wakeAt target
      | some instant =>
          if instant < target then advanceTo target limit (keeper.wakeAt instant).settle
          else keeper.wakeAt target

-- A worker with a period wakes at whole milliseconds after the present one. One without
-- a period wakes again at once: a blinker is soon through with its toggles then, and a
-- stepper with its laps, but a renderer lets no more time pass while the meter runs.
/-- Lets the tasks run for a while. A pause of no length is over at once and lets
none of them run. A pause in which no more time passes never ends, and leaves the
time where it has come to. -/
def sleep (keeper : Timekeeper P L) (millis : Nat) : Timekeeper P L :=
  if millis = 0 then keeper
  else
    advanceTo (keeper.millis + millis) (millis + UInt8.size + LapBook.capacity) keeper.settle

/-- The stages of a shutdown. Where a task has to be gone before the next stage, the caller
waits for it, and all else that is due runs meanwhile. -/
inductive Closing where
  | detachHandler
  | haltWatch
  | endRenderer
  | endStepper
  | endBlinker
  | wipeWatch
  | darken
  deriving DecidableEq, Repr

def Closing.all : List Closing :=
  [.detachHandler, .haltWatch, .endRenderer, .endStepper, .endBlinker, .wipeWatch, .darken]

/-- Calls workers off and waits until they are gone. Where there are none,
nothing is waited for. -/
def callOff (keeper : Timekeeper P L) (whom : Worker → Bool) : Timekeeper P L :=
  if keeper.crew.workers.any whom then
    let cleared := keeper.forget whom
    ({ cleared with crew := cleared.crew.dismiss whom } : Timekeeper P L).settle
  else keeper

def close (keeper : Timekeeper P L) : Closing → Timekeeper P L
  | .detachHandler =>
      if keeper.handling then
        ({ keeper with
          handling := false
          line := keeper.line.dropReceiver
          ready := keeper.ready.filter (· != .handler) } : Timekeeper P L).settle
      else keeper
  | .haltWatch =>
      let unit := keeper.crew.unit
      keeper.updateUnit { unit with watch := (unit.watch.halt unit.now).1 }
  | .endRenderer => keeper.callOff Worker.isRenderer
  | .endStepper => keeper.callOff Worker.isStepper
  | .endBlinker => keeper.callOff Worker.isBlinker
  | .wipeWatch =>
      let unit := keeper.crew.unit
      keeper.updateUnit { unit with watch := unit.watch.wipe }
  | .darken => keeper.updateUnit keeper.crew.unit.darken.lampsOff

def shutDown (keeper : Timekeeper P L) : Timekeeper P L := Closing.all.foldl close keeper

end Timekeeper

inductive TimekeeperOp where
  | press (key : Key)
  | sleep (millis : Nat)
  | attach
  | latch (bits : UInt32)
  | raise
  | readKeys
  | shutDown
  /-- Anything done to the instrument itself. -/
  | consult (op : InstrumentOp)

inductive TimekeeperResult where
  | orders (orders : Orders)
  | attached (outcome : Except Error Unit)
  | raised (queued : Bool)
  | keys (key : Option Key)
  | consulted (result : InstrumentResult)
  | done

variable {P L : Type} [Sink P Display.Write] [Sink L Switch]

def Timekeeper.step (keeper : Timekeeper P L) :
    TimekeeperOp → Timekeeper P L × TimekeeperResult
  | .press key =>
      let (next, orders) := keeper.press key
      (next, .orders orders)
  | .sleep millis => (keeper.sleep millis, .done)
  | .attach =>
      match keeper.attach with
      | .ok next => (next, .attached (.ok ()))
      | .error error => (keeper, .attached (.error error))
  | .latch bits => (keeper.latch bits, .done)
  | .raise =>
      let (next, queued) := keeper.raise
      (next, .raised queued)
  | .readKeys =>
      let (next, key) := keeper.readKeys
      (next, .keys key)
  | .shutDown => (keeper.shutDown, .done)
  | .consult op =>
      let (unit, result) := keeper.crew.unit.step op
      (keeper.updateUnit unit, .consulted result)

abbrev Timekeeper.run (keeper : Timekeeper P L) (ops : List TimekeeperOp) :
    Timekeeper P L × List TimekeeperResult :=
  runBy step keeper ops

end LapTimer
