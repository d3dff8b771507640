import LapTimer.Instrument
import LapTimer.Proofs.Transitions
import Mathlib.Data.List.Induction

/-! The turns of an instrument: what keys, workers, readers and the clock do to it, each as one
step. The table of all turns follows the last lap that the present replay has shown. -/

namespace LapTimer

inductive Turn where
  | press (key : Key)
  | renderRound
  | replayRound (session : UInt32)
  | blinkRound
  | readRecord
  | readInto (buffer : List UInt8)
  | readPass
  | setMode (mode : LapMode)
  | storeMode (text : String)
  | moveClock (move : ClockMove)

def Turn.op : Turn → InstrumentOp
  | press key => .press key
  | renderRound => .renderRound
  | replayRound session => .replayRound session
  | blinkRound => .blinkRound
  | readRecord => .readRecord
  | readInto buffer => .readInto buffer
  | readPass => .readPass
  | setMode mode => .setMode mode
  | storeMode text => .storeMode text
  | moveClock move => .moveClock move

-- A replay begins with nothing on show. Only its own steps show laps: a step that
-- is meant for another replay answers that it is stale.
def lapOnShow (shown : Option Reading) : InstrumentResult → Option Reading
  | .orders given => if given.startStepper.isSome then none else shown
  | .replay (.lap value) => some value
  | _ => shown

/-- The last lap shown by the replay that began last, if it has shown one. -/
def lastShown (results : List InstrumentResult) : Option Reading :=
  results.foldl lapOnShow none

/-- Left alone, or armed anew. -/
def Blinker.Armed (before after : Blinker) : Prop :=
  after = before ∨ ∃ toggles, after = (before.arm toggles).1

namespace Stopwatch

theorem readPass_keeps (watch : Stopwatch) (now : UInt64) :
    (watch.readPass now).1 = { watch with book := (watch.readPass now).1.book } := by
  induction watch using readPass.induct now with
  | case1 watch read ends =>
      rw [readPass, dif_pos ends]
      rfl
  | case2 watch read goes final pass rest ih =>
      rw [readPass, dif_neg goes]
      exact ih

end Stopwatch

namespace Instrument

variable {P L : Type} [Sink P Display.Write] [Sink L Switch]

inductive Turned (unit : Instrument P L) (shown : Option Reading) :
    Instrument P L → Option Reading → Prop
  | quiet {next : Instrument P L} (panel : next.panel = unit.panel)
      (lamps : next.lamps = unit.lamps) (meter : next.watch.meter = unit.watch.meter)
      (replay : next.watch.replay.active = unit.watch.replay.active)
      (blinker : unit.watch.blinker.Armed next.watch.blinker) :
      Turned unit shown next shown
  | started (rests : unit.watch.meter.running = false) :
      Turned unit shown
        { unit with
          watch := { unit.watch with
            meter := (unit.watch.meter.start unit.now).1, refreshing := true }
          lamps := (Sink.put unit.lamps (.running, true)).1 } shown
  | stopped (runs : unit.watch.meter.running = true) :
      Turned unit shown
        { unit with
          watch := { unit.watch with
            meter := (unit.watch.meter.stop unit.now).1, face := unit.reading }
          panel := if unit.watch.replay.active then unit.panel
            else (Display.render unit.panel unit.reading).1
          lamps := (Sink.put unit.lamps (.running, false)).1 } shown
  | forced (reached : (unit.watch.meter.stopAtLimit unit.now).2 = true) :
      Turned unit shown
        { unit with
          watch := { unit.watch with
            meter := (unit.watch.meter.stopAtLimit unit.now).1
            refreshing := false, face := .greatest }
          panel := if unit.watch.replay.active then unit.panel
            else (Display.render unit.panel .greatest).1
          lamps := (Sink.put unit.lamps (.running, false)).1 } shown
  | refreshed (runs : unit.watch.meter.running = true)
      (live : unit.watch.replay.active = false) :
      Turned unit shown
        { unit with
          watch := { unit.watch with face := unit.reading }
          panel := (Display.render unit.panel unit.reading).1 } shown
  | replayBegun (live : unit.watch.replay.active = false) :
      Turned unit shown { unit with watch := unit.watch.beginReplay.1 } none
  | lapShown {book : LapBook} (replays : unit.watch.replay.active = true) (value : Reading) :
      Turned unit shown
        { unit with
          watch := { unit.watch with book }
          panel := (Display.render unit.panel value).1
          lamps := (Sink.put unit.lamps (.replay, true)).1 } (some value)
  | replayLeft (replays : unit.watch.replay.active = true) :
      Turned unit shown
        { unit with
          watch := (unit.watch.leaveReplay unit.now).1
          panel := (Display.render unit.panel unit.reading).1
          lamps := (Sink.put unit.lamps (.replay, false)).1 } shown
  | resetCleared (rests : unit.watch.meter.running = false)
      (live : unit.watch.replay.active = false) :
      Turned unit shown
        { unit with
          watch := { unit.watch with
            meter := unit.watch.meter.reset.1, face := .zero, book := unit.watch.book.clear }
          panel := (Display.render unit.panel .zero).1 } shown
  | resetHeld {watch : Stopwatch} (rests : unit.watch.meter.running = false)
      (replays : watch.replay.active = true) (replay : unit.watch.replay.active = true)
      (meter : watch.meter = unit.watch.meter.reset.1)
      (blinker : unit.watch.blinker.Armed watch.blinker) :
      Turned unit shown { unit with watch } shown
  | blinked :
      Turned unit shown
        { unit with
          watch := unit.watch.blink.1
          lamps := (Sink.put unit.lamps (.lap, unit.watch.blink.1.blinker.lit)).1 } shown

-- How a halt is carried out: the time is left out where a replay hides it.
theorem carryOut_halt (unit : Instrument P L) (hidden : Bool) (r : Reading)
    (switch : Switch) :
    unit.carryOut { render := if hidden then none else some r, lamps := [switch] } =
      { unit with
        panel := if hidden then unit.panel else (Display.render unit.panel r).1
        lamps := (Sink.put unit.lamps switch).1 } := by
  cases hidden with
  | false => rfl
  | true => rfl

theorem press_turned (unit : Instrument P L) (shown : Option Reading) (key : Key) :
    Turned unit shown (unit.press key).1 (lapOnShow shown (.orders (unit.press key).2)) := by
  have row := Stopwatch.press_row unit.watch unit.now key
  unfold press
  generalize unit.watch.press unit.now key = pressed at row ⊢
  obtain ⟨watch, orders⟩ := pressed
  simp only at row
  cases row with
  | started rests => exact .started rests
  | stopped runs =>
      simp only [carryOut_halt]
      exact .stopped runs
  | lapIgnored rests => exact .quiet rfl rfl rfl rfl (.inl rfl)
  | lapAdded runs captured => exact .quiet rfl rfl rfl rfl (.inr ⟨_, rfl⟩)
  | lapDropped runs refused => exact .quiet rfl rfl rfl rfl (.inl rfl)
  | replayBegun live => exact .replayBegun live
  | replayLeft replays => exact .replayLeft replays
  | resetIgnored runs => exact .quiet rfl rfl rfl rfl (.inl rfl)
  | resetCleared rests live => exact .resetCleared rests live
  | resetAdded rests replays captured => exact .resetHeld rests replays replays rfl (.inr ⟨_, rfl⟩)
  | resetDropped rests replays refused => exact .resetHeld rests replays replays rfl (.inl rfl)

theorem renderRound_turned (unit : Instrument P L) (shown : Option Reading) :
    Turned unit shown unit.renderRound.1 (lapOnShow shown (.render unit.renderRound.2)) := by
  have row := Stopwatch.refresh_row unit.watch unit.now
  unfold renderRound
  generalize unit.watch.refresh unit.now = refreshed at row ⊢
  obtain ⟨watch, outcome⟩ := refreshed
  simp only at row
  cases row with
  | ended rests => exact .quiet rfl rfl rfl rfl (.inl rfl)
  | forced runs reached =>
      simp only [carryOut_halt]
      exact .forced reached
  | shown runs below =>
      by_cases replays : unit.watch.replay.active = true
      · simp only [replays, ↓reduceIte]
        exact .quiet rfl rfl rfl rfl (.inl rfl)
      · have live := eq_false_of_ne_true replays
        have row : Turned unit shown _ _ := .refreshed runs live
        simp only [live, Bool.false_eq_true, ↓reduceIte, renderWhen, Stopwatch.isLive, runs,
          Bool.not_false, Bool.and_self]
        exact row

theorem replayRound_turned (unit : Instrument P L) (shown : Option Reading)
    (session : UInt32) :
    Turned unit shown (unit.replayRound session).1
      (lapOnShow shown (.replay (unit.replayRound session).2)) := by
  have row := Stopwatch.stepReplay_row unit.watch session unit.now
  unfold replayRound
  generalize unit.watch.stepReplay session unit.now = stepped at row ⊢
  obtain ⟨watch, outcome⟩ := stepped
  simp only at row
  cases row with
  | stale other => exact .quiet rfl rfl rfl rfl (.inl rfl)
  | @shown book lap previous replays current next =>
      -- The step has left the replay as it was, so the write is still wanted.
      simp only [showLap, replays, current, beq_self_eq_true, Bool.and_self, ↓reduceIte]
      exact .lapShown replays _
  | ended replays current past => exact .replayLeft replays

theorem blinkRound_turned (unit : Instrument P L) (shown : Option Reading) :
    Turned unit shown unit.blinkRound.1 (lapOnShow shown (.blink unit.blinkRound.2)) := by
  have row : Turned unit shown _ _ := .blinked
  by_cases left : 0 < unit.watch.blinker.remaining
  · simp only [blinkRound, Stopwatch.blink, Blinker.tick, if_pos left] at row ⊢
    exact row
  · simp only [blinkRound, Stopwatch.blink, Blinker.tick, if_neg left] at row ⊢
    exact row

theorem same_turned (unit : Instrument P L) (shown : Option Reading) (watch : Stopwatch)
    (now : UInt64) (meter : watch.meter = unit.watch.meter)
    (replay : watch.replay = unit.watch.replay) (blinker : watch.blinker = unit.watch.blinker) :
    Turned unit shown { unit with watch, now } shown :=
  .quiet rfl rfl meter (by rw [replay]) (.inl blinker)

theorem step_turned (unit : Instrument P L) (shown : Option Reading) (turn : Turn) :
    Turned unit shown (unit.step turn.op).1 (lapOnShow shown (unit.step turn.op).2) := by
  cases turn with
  | press key => exact press_turned unit shown key
  | renderRound => exact renderRound_turned unit shown
  | replayRound session => exact replayRound_turned unit shown session
  | blinkRound => exact blinkRound_turned unit shown
  | readRecord => exact same_turned unit shown _ _ rfl rfl rfl
  | readInto buffer =>
      simp only [Turn.op, step, readInto]
      cases Record.requireSize buffer.length with
      | error error => exact same_turned unit shown _ _ rfl rfl rfl
      | ok => exact same_turned unit shown _ _ rfl rfl rfl
  | readPass =>
      have kept := Stopwatch.readPass_keeps unit.watch unit.now
      exact same_turned unit shown _ _ (by rw [kept]) (by rw [kept]) (by rw [kept])
  | setMode mode => exact same_turned unit shown _ _ rfl rfl rfl
  | storeMode text =>
      simp only [Turn.op, step, storeMode]
      cases LapMode.parse text with
      | error error => exact same_turned unit shown _ _ rfl rfl rfl
      | ok mode => exact same_turned unit shown _ _ rfl rfl rfl
  | moveClock move => exact same_turned unit shown _ _ rfl rfl rfl

def after (start : Instrument P L) (turns : List Turn) : Instrument P L :=
  (start.run (turns.map Turn.op)).1

/-- The lap on show after a run. -/
def shownAfter (start : Instrument P L) (turns : List Turn) : Option Reading :=
  lastShown (start.run (turns.map Turn.op)).2

/-- No turn of the run moves the clock back. -/
def ClockForward (start : Instrument P L) (turns : List Turn) : Prop :=
  Throughout step (fun unit op => unit.now ≤ (unit.step op).1.now) start (turns.map Turn.op)

theorem after_append (start : Instrument P L) (turns later : List Turn) :
    start.after (turns ++ later) = (start.after turns).after later := by
  simp only [after, List.map_append, runBy_append]

theorem after_snoc (start : Instrument P L) (turns : List Turn) (turn : Turn) :
    start.after (turns ++ [turn]) = ((start.after turns).step turn.op).1 :=
  start.after_append turns [turn]

theorem shownAfter_snoc (start : Instrument P L) (turns : List Turn) (turn : Turn) :
    start.shownAfter (turns ++ [turn]) =
      lapOnShow (start.shownAfter turns) ((start.after turns).step turn.op).2 := by
  simp only [shownAfter, lastShown, List.map_append, runBy_append, List.foldl_append]
  rfl

theorem clockForward_snoc (start : Instrument P L) (turns : List Turn) (turn : Turn)
    (forward : ClockForward start (turns ++ [turn])) :
    ClockForward start turns ∧
      (start.after turns).now ≤ (start.after (turns ++ [turn])).now := by
  rw [ClockForward, List.map_append, throughout_append] at forward
  refine ⟨forward.1, ?_⟩
  rw [after_snoc]
  exact forward.2.1

theorem snoc_turned (start : Instrument P L) (turns : List Turn) (turn : Turn) :
    Turned (start.after turns) (start.shownAfter turns) (start.after (turns ++ [turn]))
      (start.shownAfter (turns ++ [turn])) := by
  rw [after_snoc, shownAfter_snoc]
  exact step_turned (start.after turns) (start.shownAfter turns) turn

/-- What every row of the table keeps holds after every run. -/
theorem turns_keep (Kept : Instrument P L → Option Reading → Prop)
    (row : ∀ unit next shown shown',
      Turned unit shown next shown' → Kept unit shown → Kept next shown')
    (start : Instrument P L) (first : Kept start none) (turns : List Turn) :
    Kept (start.after turns) (start.shownAfter turns) := by
  induction turns using List.reverseRecOn with
  | nil => exact first
  | append_singleton turns turn ih => exact row _ _ _ _ (snoc_turned start turns turn) ih

end Instrument

end LapTimer
