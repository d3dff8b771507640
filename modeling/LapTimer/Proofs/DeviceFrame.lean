import LapTimer.Proofs.Devices
import LapTimer.Proofs.Turns

/-! What the devices leave alone. Carrying out orders writes to the panel and to the lamps and
to nothing else. -/

namespace LapTimer.Instrument

variable {P L : Type} [Sink L Switch]

theorem foldl_setLamp (switches : List Switch) (unit : Instrument P L) :
    ∃ lamps, switches.foldl (fun unit switch => unit.setLamp switch.1 switch.2) unit =
      { unit with lamps } := by
  induction switches generalizing unit with
  | nil => exact ⟨unit.lamps, rfl⟩
  | cons switch rest ih => exact ih (unit.setLamp switch.1 switch.2)

theorem blinkRound_frame (unit : Instrument P L) :
    unit.blinkRound.1.watch = unit.watch.blink.1 ∧
      unit.blinkRound.2 = unit.watch.blink.2 ∧ unit.blinkRound.1.now = unit.now := by
  unfold blinkRound
  cases unit.watch.blink with
  | mk watch outcome => cases outcome <;> simp [setLamp]

variable [Sink P Display.Write]

theorem carryOut_devices (unit : Instrument P L) (orders : Orders) :
    ∃ panel lamps, unit.carryOut orders = { unit with panel, lamps } := by
  unfold carryOut
  cases orders.render with
  | none =>
      obtain ⟨lamps, switched⟩ := foldl_setLamp orders.lamps unit
      exact ⟨unit.panel, lamps, switched⟩
  | some r =>
      obtain ⟨lamps, switched⟩ := foldl_setLamp orders.lamps (unit.render r)
      exact ⟨(Display.render unit.panel r).1, lamps, switched⟩

@[simp] theorem watch_carryOut (unit : Instrument P L) (orders : Orders) :
    (unit.carryOut orders).watch = unit.watch := by
  obtain ⟨panel, lamps, carried⟩ := carryOut_devices unit orders
  rw [carried]

@[simp] theorem now_carryOut (unit : Instrument P L) (orders : Orders) :
    (unit.carryOut orders).now = unit.now := by
  obtain ⟨panel, lamps, carried⟩ := carryOut_devices unit orders
  rw [carried]

@[simp] theorem watch_press (unit : Instrument P L) (key : Key) :
    (unit.press key).1.watch = (unit.watch.press unit.now key).1 := by
  simp [press]

@[simp] theorem orders_press (unit : Instrument P L) (key : Key) :
    (unit.press key).2 = (unit.watch.press unit.now key).2 := rfl

theorem renderRound_frame (unit : Instrument P L) :
    unit.renderRound.1.watch = (unit.watch.refresh unit.now).1 ∧
      unit.renderRound.2 = (unit.watch.refresh unit.now).2 ∧
      unit.renderRound.1.now = unit.now := by
  unfold renderRound
  cases unit.watch.refresh unit.now with
  | mk watch outcome =>
      cases outcome with
      | stopped orders => simp
      | go shown =>
          cases shown with
          | none => simp
          | some r =>
              simp only [renderWhen]
              split <;> simp [render]

theorem replayRound_frame (unit : Instrument P L) (session : UInt32) :
    (unit.replayRound session).1.watch = (unit.watch.stepReplay session unit.now).1 ∧
      (unit.replayRound session).2 = (unit.watch.stepReplay session unit.now).2 ∧
      (unit.replayRound session).1.now = unit.now := by
  unfold replayRound
  cases unit.watch.stepReplay session unit.now with
  | mk watch outcome =>
      cases outcome with
      | stale => simp
      | finished orders => simp
      | lap value =>
          simp only [showLap]
          split <;> simp [render, setLamp]

/-- Both devices work. -/
structure Working (faces : Registers P Display.Position UInt8) (lights : Registers L Lamp Bool)
    (unit : Instrument P L) : Prop where
  panel : faces.Works unit.panel
  lamps : lights.Works unit.lamps

namespace Working

variable {faces : Registers P Display.Position UInt8} {lights : Registers L Lamp Bool}
  {unit : Instrument P L}

theorem render (working : unit.Working faces lights) (r : Reading) :
    (unit.render r).Working faces lights :=
  ⟨Display.works_render faces unit.panel working.panel r, working.lamps⟩

theorem setLamp (working : unit.Working faces lights) (lamp : Lamp) (on : Bool) :
    (unit.setLamp lamp on).Working faces lights :=
  ⟨working.panel, lights.works_put unit.lamps (lamp, on) working.lamps⟩

theorem darken (working : unit.Working faces lights) : unit.darken.Working faces lights :=
  ⟨faces.works_putAll unit.panel working.panel Display.dark, working.lamps⟩

theorem lampsOff (working : unit.Working faces lights) : unit.lampsOff.Working faces lights :=
  ⟨working.panel, lights.works_putAll unit.lamps working.lamps Lamp.allOff⟩

theorem foldl_setLamp (working : unit.Working faces lights) (switches : List Switch) :
    (switches.foldl (fun unit switch => unit.setLamp switch.1 switch.2) unit).Working
      faces lights :=
  List.foldlRecOn switches _ working fun _ working switch _ =>
    working.setLamp switch.1 switch.2

theorem carryOut (working : unit.Working faces lights) (orders : Orders) :
    (unit.carryOut orders).Working faces lights := by
  unfold Instrument.carryOut
  cases orders.render with
  | none => exact working.foldl_setLamp orders.lamps
  | some r => exact (working.render r).foldl_setLamp orders.lamps

theorem renderWhen (working : unit.Working faces lights) (wanted : Stopwatch → Bool)
    (r : Reading) : (unit.renderWhen wanted r).1.Working faces lights := by
  unfold Instrument.renderWhen
  split
  · exact working.render r
  · exact working

theorem showLap (working : unit.Working faces lights) (session : UInt32) (r : Reading) :
    (unit.showLap session r).1.Working faces lights := by
  unfold Instrument.showLap
  split
  · exact (working.render r).setLamp .replay true
  · exact working

theorem withWatch (working : unit.Working faces lights) (watch : Stopwatch) (now : UInt64) :
    Working faces lights { unit with watch, now } :=
  ⟨working.panel, working.lamps⟩

theorem renderRound (working : unit.Working faces lights) :
    unit.renderRound.1.Working faces lights := by
  have after := fun watch => working.withWatch watch unit.now
  unfold Instrument.renderRound
  cases unit.watch.refresh unit.now with
  | mk watch outcome =>
      cases outcome with
      | stopped orders => exact (after watch).carryOut orders
      | go shown =>
          cases shown with
          | none => exact after watch
          | some r => exact (after watch).renderWhen Stopwatch.isLive r

theorem replayRound (working : unit.Working faces lights) (session : UInt32) :
    (unit.replayRound session).1.Working faces lights := by
  have after := fun watch => working.withWatch watch unit.now
  unfold Instrument.replayRound
  cases unit.watch.stepReplay session unit.now with
  | mk watch outcome =>
      cases outcome with
      | lap value => exact (after watch).showLap session value
      | finished orders => exact (after watch).carryOut orders
      | stale => exact after watch

theorem blinkRound (working : unit.Working faces lights) :
    unit.blinkRound.1.Working faces lights := by
  have after := fun watch => working.withWatch watch unit.now
  unfold Instrument.blinkRound
  cases unit.watch.blink with
  | mk watch outcome =>
      cases outcome with
      | toggle lit => exact (after watch).setLamp .lap lit
      | done => exact (after watch).setLamp .lap false

end Working

theorem working_step (faces : Registers P Display.Position UInt8)
    (lights : Registers L Lamp Bool) (unit : Instrument P L)
    (working : unit.Working faces lights) (op : InstrumentOp) :
    (unit.step op).1.Working faces lights := by
  cases op with
  | press key => exact (working.withWatch _ unit.now).carryOut _
  | renderRound => exact working.renderRound
  | replayRound session => exact working.replayRound session
  | blinkRound => exact working.blinkRound
  | readRecord => exact working.withWatch _ unit.now
  | readInto buffer =>
      simp only [step, readInto]
      split
      · exact working
      · exact working.withWatch _ unit.now
  | readPass => exact working.withWatch _ unit.now
  | setMode mode => exact working.withWatch _ unit.now
  | storeMode text =>
      simp only [step, storeMode]
      split
      · exact working.withWatch _ unit.now
      · exact working
  | moveClock move => exact working.withWatch unit.watch _
  | render r => exact working.render r
  | renderWhen wanted r => exact working.renderWhen wanted r
  | showLap session r => exact working.showLap session r
  | darken => exact working.darken
  | setLamp lamp on => exact working.setLamp lamp on
  | lampsOff => exact working.lampsOff

end LapTimer.Instrument
