import LapTimer.Proofs.DeviceFrame
import LapTimer.Proofs.LapHistory
import LapTimer.Proofs.ReadingOrder
import LapTimer.Settings

/-! What instruments can be brought to. Their operations come down to operations on the
stopwatch, which keep the laps to readings that a face can show. -/

namespace LapTimer

/-- Every lap in the book is one that a face can show. -/
def Stopwatch.LapsFit (watch : Stopwatch) : Prop :=
  ∀ lap ∈ watch.book.laps, lap.time.inRange = true

namespace Stopwatch

theorem reading_fits (watch : Stopwatch) (now : UInt64) : (watch.reading now).inRange = true :=
  Reading.inRange_ofNanos _

theorem lapsFit_step (watch : Stopwatch) (now : UInt64) (op : WatchOp) (fit : watch.LapsFit) :
    (watch.step now op).1.LapsFit := by
  intro lap inside
  rcases step_change watch now op with
    ⟨added, -, -, -, time, grown, -⟩ | ⟨-, -, emptied, -⟩ | ⟨-, -, same, -⟩
  · rw [grown] at inside
    rcases List.mem_append.mp inside with held | fresh
    · exact fit lap held
    · rw [List.mem_singleton.mp fresh, time]
      exact watch.reading_fits now
  · rw [emptied] at inside
    exact absurd inside List.not_mem_nil
  · rw [same] at inside
    exact fit lap inside

theorem kept_readPass (Kept : Stopwatch → Prop)
    (step : ∀ watch now op, Kept watch → Kept (watch.step now op).1) (watch : Stopwatch)
    (now : UInt64) (kept : Kept watch) : Kept (watch.readPass now).1 := by
  induction watch using readPass.induct now with
  | case1 watch read ends =>
      rw [readPass, dif_pos ends]
      exact step watch now .readRecord kept
  | case2 watch read goes final pass rest ih =>
      rw [readPass, dif_neg goes]
      exact ih (step watch now .readRecord kept)

end Stopwatch

/-- The operation reads one record, plainly or into a buffer of the right size. -/
def InstrumentOp.ReadsRecord : InstrumentOp → Prop
  | .readRecord => True
  | .readInto buffer => buffer.length = Record.size
  | _ => False

namespace Instrument

variable {P L : Type} [Sink P Display.Write] [Sink L Switch]

/-- An operation but a pass comes down to one on the stopwatch or to none, and it reads
there only if it reads a record. -/
theorem watch_step (unit : Instrument P L) (op : InstrumentOp) :
    op = .readPass ∨ (unit.step op).1.watch = unit.watch ∨
      ∃ inner : WatchOp, (inner = .readRecord → op.ReadsRecord) ∧
        (unit.step op).1.watch = (unit.watch.step unit.now inner).1 := by
  cases op with
  | press key => exact .inr (.inr ⟨.press key, by simp, watch_press unit key⟩)
  | renderRound => exact .inr (.inr ⟨.refresh, by simp, (renderRound_frame unit).1⟩)
  | replayRound session =>
      exact .inr (.inr ⟨.stepReplay session, by simp, (replayRound_frame unit session).1⟩)
  | blinkRound => exact .inr (.inr ⟨.blink, by simp, (blinkRound_frame unit).1⟩)
  | readRecord => exact .inr (.inr ⟨.readRecord, fun _ => trivial, rfl⟩)
  | readInto buffer =>
      simp only [Instrument.step, readInto, Record.requireSize]
      split
      · exact .inr (.inl rfl)
      next sized =>
          split at sized
          next same => exact .inr (.inr ⟨.readRecord, fun _ => same, rfl⟩)
          next => simp at sized
  | readPass => exact .inl rfl
  | setMode mode => exact .inr (.inr ⟨.setMode mode, by simp, rfl⟩)
  | storeMode text =>
      simp only [Instrument.step, storeMode]
      split
      next mode _ => exact .inr (.inr ⟨.setMode mode, by simp, rfl⟩)
      · exact .inr (.inl rfl)
  | renderWhen wanted r =>
      simp only [Instrument.step, renderWhen]
      split <;> exact .inr (.inl rfl)
  | showLap session r =>
      simp only [Instrument.step, showLap]
      split <;> exact .inr (.inl rfl)
  | _ => exact .inr (.inl rfl)

/-- What no operation on the stopwatch breaks, no operation on the instrument does. -/
theorem step_keeps (Kept : Stopwatch → Prop)
    (step : ∀ watch now op, Kept watch → Kept (watch.step now op).1) (unit : Instrument P L)
    (op : InstrumentOp) (kept : Kept unit.watch) : Kept (unit.step op).1.watch := by
  rcases watch_step unit op with rfl | same | ⟨inner, -, moved⟩
  · exact Stopwatch.kept_readPass Kept step unit.watch unit.now kept
  · rwa [same]
  · rw [moved]
    exact step unit.watch unit.now inner kept

/-- The instrument was new once, with any settings, and since then only operations have
changed it. -/
inductive Reached : Instrument P L → Prop
  | new (settings : TimerSettings) (now : UInt64) (panel : P) (lamps : L) :
      Reached { watch := settings.watch, now, panel, lamps }
  | operated {unit : Instrument P L} (reached : Reached unit) (op : InstrumentOp) :
      Reached (unit.step op).1
  | inside {unit : Instrument P L} (reached : Reached unit) (now : UInt64) (op : WatchOp) :
      Reached { unit with watch := (unit.watch.step now op).1 }

theorem Reached.keeps (Kept : Stopwatch → Prop)
    (step : ∀ watch now op, Kept watch → Kept (watch.step now op).1)
    (first : ∀ settings : TimerSettings, Kept settings.watch) {unit : Instrument P L}
    (reached : unit.Reached) : Kept unit.watch := by
  induction reached with
  | new settings now panel lamps => exact first settings
  | operated reached op ih => exact step_keeps Kept step _ op ih
  | inside reached now op ih => exact step _ now op ih

theorem Reached.run {unit : Instrument P L} (reached : unit.Reached) (ops : List InstrumentOp) :
    (unit.run ops).1.Reached :=
  runBy_keeps Reached (fun _ op reached => reached.operated op) unit reached ops

theorem Reached.lapsFit {unit : Instrument P L} (reached : unit.Reached) :
    unit.watch.LapsFit :=
  reached.keeps Stopwatch.LapsFit Stopwatch.lapsFit_step fun _ _ inside =>
    absurd inside List.not_mem_nil

end Instrument

end LapTimer
