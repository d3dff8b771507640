import LapTimer.Clock
import LapTimer.Display.Segments
import LapTimer.Pass

/-! A stopwatch with its clock and its two output devices. The stopwatch decides and the
devices follow: a write that a device refuses is dropped, and nothing comes back. -/

namespace LapTimer

structure Instrument (P L : Type) where
  watch : Stopwatch
  now : UInt64 := 0
  panel : P
  lamps : L

/-- The face follows the running time. -/
def Stopwatch.isLive (watch : Stopwatch) : Bool := watch.meter.running && !watch.replay.active

namespace Instrument

variable {P L : Type}

def reading (unit : Instrument P L) : Reading := unit.watch.reading unit.now

def status (unit : Instrument P L) : Status := unit.watch.status unit.now

def moveClock (unit : Instrument P L) (move : ClockMove) : Instrument P L :=
  { unit with now := move.apply unit.now }

def setMode (unit : Instrument P L) (mode : LapMode) : Instrument P L :=
  { unit with watch := unit.watch.setMode mode }

/-- A text that is no mode leaves the mode as it was. -/
def storeMode (unit : Instrument P L) (text : String) :
    Instrument P L × Except Error Nat :=
  match LapMode.parse text with
  | .ok mode => (unit.setMode mode, .ok text.utf8ByteSize)
  | .error error => (unit, .error error)

def readRecord (unit : Instrument P L) : Instrument P L × Record :=
  let (watch, record) := unit.watch.readRecord unit.now
  ({ unit with watch }, record)

/-- Reads one record into a buffer. A buffer of the wrong size reads nothing. -/
def readInto (unit : Instrument P L) (buffer : List UInt8) :
    Instrument P L × List UInt8 × Except Error Nat :=
  match Record.requireSize buffer.length with
  | .error error => (unit, buffer, .error error)
  | .ok () =>
      let (next, record) := unit.readRecord
      (next, record.encodeInto buffer)

def readPass (unit : Instrument P L) : Instrument P L × Pass :=
  let (watch, pass) := unit.watch.readPass unit.now
  ({ unit with watch }, pass)

def runningText (unit : Instrument P L) : String :=
  if unit.watch.meter.running then "1\n" else "0\n"

def currentTimeText (unit : Instrument P L) : String := unit.reading.text ++ "\n"

def lapsText (unit : Instrument P L) : String :=
  String.join (unit.watch.book.laps.map fun lap => lap.time.text ++ "\n")

def lapCountText (unit : Instrument P L) : String := toString unit.watch.book.count ++ "\n"

def modeText (unit : Instrument P L) : String :=
  toString unit.watch.mode.number.toNat ++ "\n"

variable [Sink P Display.Write] [Sink L Switch]

def render (unit : Instrument P L) (r : Reading) : Instrument P L :=
  { unit with panel := (Display.render unit.panel r).1 }

def renderWhen (unit : Instrument P L) (wanted : Stopwatch → Bool) (r : Reading) :
    Instrument P L × Bool :=
  if wanted unit.watch then (unit.render r, true) else (unit, false)

def setLamp (unit : Instrument P L) (lamp : Lamp) (on : Bool) : Instrument P L :=
  { unit with lamps := (Sink.put unit.lamps (lamp, on)).1 }

/-- Shows a lap of a replay and lights the replay lamp, unless that replay is over. -/
def showLap (unit : Instrument P L) (session : UInt32) (r : Reading) :
    Instrument P L × Bool :=
  if unit.watch.replay.active && unit.watch.replay.session == session then
    ((unit.render r).setLamp .replay true, true)
  else (unit, false)

def darken (unit : Instrument P L) : Instrument P L :=
  { unit with panel := (Display.blank unit.panel).1 }

def lampsOff (unit : Instrument P L) : Instrument P L :=
  { unit with lamps := (Sink.putAll unit.lamps Lamp.allOff).1 }

/-- The face first, then the lamps one by one. -/
def carryOut (unit : Instrument P L) (orders : Orders) : Instrument P L :=
  let shown := match orders.render with
    | some r => unit.render r
    | none => unit
  orders.lamps.foldl (fun unit switch => unit.setLamp switch.1 switch.2) shown

def press (unit : Instrument P L) (key : Key) : Instrument P L × Orders :=
  let (watch, orders) := unit.watch.press unit.now key
  (({ unit with watch } : Instrument P L).carryOut orders, orders)

/-- One round of the render worker, with what it shows. -/
def renderRound (unit : Instrument P L) : Instrument P L × RenderOutcome :=
  let (watch, outcome) := unit.watch.refresh unit.now
  let next : Instrument P L := { unit with watch }
  match outcome with
  | .go (some r) => ((next.renderWhen Stopwatch.isLive r).1, outcome)
  | .go none => (next, outcome)
  | .stopped orders => (next.carryOut orders, outcome)

/-- One round of the stepper of a replay, with what it shows. -/
def replayRound (unit : Instrument P L) (session : UInt32) : Instrument P L × ReplayOutcome :=
  let (watch, outcome) := unit.watch.stepReplay session unit.now
  let next : Instrument P L := { unit with watch }
  match outcome with
  | .lap r => ((next.showLap session r).1, outcome)
  | .finished orders => (next.carryOut orders, outcome)
  | .stale => (next, outcome)

/-- One round of the blink worker. -/
def blinkRound (unit : Instrument P L) : Instrument P L × BlinkOutcome :=
  let (watch, outcome) := unit.watch.blink
  let next : Instrument P L := { unit with watch }
  match outcome with
  | .toggle lit => (next.setLamp .lap lit, outcome)
  | .done => (next.setLamp .lap false, outcome)

end Instrument

inductive InstrumentOp where
  | press (key : Key)
  | renderRound
  | replayRound (session : UInt32)
  | blinkRound
  | readRecord
  | readInto (buffer : List UInt8)
  | readPass
  | setMode (mode : LapMode)
  | storeMode (text : String)
  | moveClock (move : ClockMove)
  | render (r : Reading)
  | renderWhen (wanted : Stopwatch → Bool) (r : Reading)
  | showLap (session : UInt32) (r : Reading)
  | darken
  | setLamp (lamp : Lamp) (on : Bool)
  | lampsOff

inductive InstrumentResult where
  | orders (orders : Orders)
  | render (outcome : RenderOutcome)
  | replay (outcome : ReplayOutcome)
  | blink (outcome : BlinkOutcome)
  | record (record : Record)
  | buffer (bytes : List UInt8) (outcome : Except Error Nat)
  | pass (pass : Pass)
  | stored (outcome : Except Error Nat)
  | clock (now : UInt64)
  | shown (written : Bool)
  | done

variable {P L : Type} [Sink P Display.Write] [Sink L Switch]

def Instrument.step (unit : Instrument P L) : InstrumentOp → Instrument P L × InstrumentResult
  | .press key =>
      let (next, orders) := unit.press key
      (next, .orders orders)
  | .renderRound =>
      let (next, outcome) := unit.renderRound
      (next, .render outcome)
  | .replayRound session =>
      let (next, outcome) := unit.replayRound session
      (next, .replay outcome)
  | .blinkRound =>
      let (next, outcome) := unit.blinkRound
      (next, .blink outcome)
  | .readRecord =>
      let (next, record) := unit.readRecord
      (next, .record record)
  | .readInto buffer =>
      let (next, bytes, outcome) := unit.readInto buffer
      (next, .buffer bytes outcome)
  | .readPass =>
      let (next, pass) := unit.readPass
      (next, .pass pass)
  | .setMode mode => (unit.setMode mode, .done)
  | .storeMode text =>
      let (next, outcome) := unit.storeMode text
      (next, .stored outcome)
  | .moveClock move =>
      let next := unit.moveClock move
      (next, .clock next.now)
  | .render r => (unit.render r, .done)
  | .renderWhen wanted r =>
      let (next, written) := unit.renderWhen wanted r
      (next, .shown written)
  | .showLap session r =>
      let (next, written) := unit.showLap session r
      (next, .shown written)
  | .darken => (unit.darken, .done)
  | .setLamp lamp on => (unit.setLamp lamp on, .done)
  | .lampsOff => (unit.lampsOff, .done)

abbrev Instrument.run (unit : Instrument P L) (ops : List InstrumentOp) :
    Instrument P L × List InstrumentResult :=
  runBy step unit ops

end LapTimer
