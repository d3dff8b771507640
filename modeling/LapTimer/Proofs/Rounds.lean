import LapTimer.Proofs.ReplayCourse
import LapTimer.Proofs.WorkerProtocol

/-! What the rounds of the workers do to an instrument: to the stopwatch, to the face and to
the lamps. -/

namespace LapTimer

variable {P L : Type}

namespace Instrument

variable [Sink L Switch]

theorem blinkRound_eq (unit : Instrument P L) :
    unit.blinkRound.1 = { unit with
      watch := unit.watch.blink.1
      lamps := (Sink.put unit.lamps (.lap, unit.watch.blink.1.blinker.lit)).1 } := by
  by_cases left : 0 < unit.watch.blinker.remaining
  · simp only [blinkRound, Stopwatch.blink, Blinker.tick, if_pos left]
    rfl
  · simp only [blinkRound, Stopwatch.blink, Blinker.tick, if_neg left]
    rfl

variable [Sink P Display.Write]

/-- The rounds of the render worker. -/
inductive Rendered (unit : Instrument P L) : Instrument P L → Bool → Prop
  | ended (rests : unit.watch.meter.running = false) :
      Rendered unit { unit with watch := { unit.watch with refreshing := false } } false
  | forced (reached : (unit.watch.meter.stopAtLimit unit.now).2 = true) :
      Rendered unit
        { unit with
          watch := { unit.watch with
            meter := (unit.watch.meter.stopAtLimit unit.now).1
            refreshing := false, face := .greatest }
          panel := if unit.watch.replay.active then unit.panel
            else (Display.render unit.panel .greatest).1
          lamps := (Sink.put unit.lamps (.running, false)).1 } false
  | shown (runs : unit.watch.meter.running = true) :
      Rendered unit
        { unit with
          watch := { unit.watch with face := unit.reading }
          panel := if unit.watch.replay.active then unit.panel
            else (Display.render unit.panel unit.reading).1 } true

theorem renderRound_row (unit : Instrument P L) :
    Rendered unit unit.renderRound.1 unit.renderRound.2.goesOn := by
  have row := Stopwatch.refresh_row unit.watch unit.now
  unfold renderRound
  generalize unit.watch.refresh unit.now = refreshed at row ⊢
  obtain ⟨watch, outcome⟩ := refreshed
  simp only at row
  cases row with
  | ended rests => exact .ended rests
  | forced runs reached =>
      simp only [carryOut_halt]
      exact .forced reached
  | shown runs below =>
      have row : Rendered unit _ _ := .shown runs
      by_cases replays : unit.watch.replay.active = true
      · simp only [replays, ↓reduceIte] at row ⊢
        exact row
      · have live := eq_false_of_ne_true replays
        simp only [live, Bool.false_eq_true, ↓reduceIte, renderWhen, Stopwatch.isLive, runs,
          Bool.not_false, Bool.and_self] at row ⊢
        exact row

theorem replayRound_shows (unit : Instrument P L) {session : UInt32} {first : List Lap}
    {place seen : Nat} (stands : Stopwatch.AtPlace session first place seen unit.watch)
    (inside : place < seen) :
    ∃ lap, unit.watch.book.laps[place]? = some lap ∧
      unit.replayRound session =
        ({ unit with
            watch := { unit.watch with
              book := { unit.watch.book with replayCursor := unit.watch.book.beyond place } }
            panel := (Display.render unit.panel (unit.watch.mode.value lap.time
              (if place = 0 then none else unit.watch.book.laps[place - 1]?.map (·.time)))).1
            lamps := (Sink.put unit.lamps (.replay, true)).1 },
          .lap (unit.watch.mode.value lap.time
            (if place = 0 then none else unit.watch.book.laps[place - 1]?.map (·.time)))) := by
  obtain ⟨lap, found, stepped⟩ := stands.step_lap unit.now inside
  refine ⟨lap, found, ?_⟩
  simp only [replayRound, stepped, showLap, stands.replays, stands.current, beq_self_eq_true,
    Bool.and_self, ↓reduceIte]
  rfl

theorem replayRound_ends (unit : Instrument P L) {session : UInt32} {first : List Lap}
    {place seen : Nat} (stands : Stopwatch.AtPlace session first place seen unit.watch)
    (past : seen ≤ place) :
    unit.replayRound session =
      ({ unit with
          watch := (unit.watch.leaveReplay unit.now).1
          panel := (Display.render unit.panel unit.reading).1
          lamps := (Sink.put unit.lamps (.replay, false)).1 },
        .finished (unit.watch.leaveReplay unit.now).2) := by
  have cursor : unit.watch.book.replayCursor = .tail := by
    rw [stands.cursor, if_neg (Nat.not_lt_of_le past)]
  have stepped := stands.step_eq unit.now
  simp only [LapBook.replayNext, cursor] at stepped
  simp only [replayRound, stepped]
  rfl

theorem press_begins (unit : Instrument P L) (live : unit.watch.replay.active = false) :
    unit.press .replay =
      ({ unit with watch := unit.watch.beginReplay.1 },
        { startStepper := some (unit.watch.replay.session + 1) }) := by
  simp only [press, Stopwatch.press, live, Bool.false_eq_true, ↓reduceIte]
  rfl

end Instrument

end LapTimer
