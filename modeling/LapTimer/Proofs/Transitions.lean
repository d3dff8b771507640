import LapTimer.Stopwatch
import LapTimer.Proofs.Elapsed
import LapTimer.Proofs.Runs

/-! The transitions of a stopwatch. A key, a round of the render worker and a step of a replay
each have a table with one row for each way through the operation. -/

namespace LapTimer

namespace LapBook

theorem capture_ok (book next : LapBook) (time : Reading) (lap : Lap)
    (captured : book.capture time = .ok (next, lap)) :
    book.count < capacity ∧ lap = ⟨.ofNat book.count, time⟩ ∧
      next.laps = book.laps ++ [lap] ∧ next.replayCursor = book.replayCursor ∧
      next.readCursor = if book.readCursor = .tail then .lap 0 else book.readCursor := by
  unfold capture at captured
  split at captured
  next room =>
      simp only [Except.ok.injEq, Prod.mk.injEq] at captured
      obtain ⟨rfl, rfl⟩ := captured
      exact ⟨room, rfl, rfl, rfl, rfl⟩
  next => simp at captured

theorem capture_error (book : LapBook) (time : Reading) (error : Error)
    (refused : book.capture time = .error error) :
    capacity ≤ book.count ∧ error = .bookFull capacity := by
  unfold capture at refused
  split at refused
  next => simp at refused
  next full =>
      simp only [Except.error.injEq] at refused
      exact ⟨Nat.le_of_not_lt full, refused.symm⟩

@[simp] theorem laps_readNext (book : LapBook) : book.readNext.1.laps = book.laps := by
  unfold readNext
  split
  · rfl
  · split
    · split <;> rfl
    · rfl

@[simp] theorem laps_replayNext (book : LapBook) : book.replayNext.1.laps = book.laps := by
  unfold replayNext
  split
  · rfl
  · split <;> rfl

end LapBook

namespace Stopwatch

inductive Pressed (watch : Stopwatch) (now : UInt64) : Key → Stopwatch → Orders → Prop
  | started (rests : watch.meter.running = false) :
      Pressed watch now .run
        { watch with meter := (watch.meter.start now).1, refreshing := true }
        { lamps := [(.running, true)], startRenderer := !watch.refreshing }
  | stopped (runs : watch.meter.running = true) :
      Pressed watch now .run
        { watch with meter := (watch.meter.stop now).1, face := watch.reading now }
        { render := if watch.replay.active then none else some (watch.reading now)
          lamps := [(.running, false)] }
  | lapIgnored (rests : watch.meter.running = false) : Pressed watch now .lap watch .none
  | lapAdded {book : LapBook} {lap : Lap} (runs : watch.meter.running = true)
      (captured : watch.book.capture (watch.reading now) = .ok (book, lap)) :
      Pressed watch now .lap
        { watch with book, blinker := (watch.blinker.arm watch.blinks).1 }
        { newLap := some lap, startBlinker := (watch.blinker.arm watch.blinks).2 }
  | lapDropped {error : Error} (runs : watch.meter.running = true)
      (refused : watch.book.capture (watch.reading now) = .error error) :
      Pressed watch now .lap watch .none
  | replayBegun (live : watch.replay.active = false) :
      Pressed watch now .replay watch.beginReplay.1 watch.beginReplay.2
  | replayLeft (replays : watch.replay.active = true) :
      Pressed watch now .replay (watch.leaveReplay now).1
        { (watch.leaveReplay now).2 with dismissStepper := true }
  | resetIgnored (runs : watch.meter.running = true) : Pressed watch now .reset watch .none
  | resetCleared (rests : watch.meter.running = false) (live : watch.replay.active = false) :
      Pressed watch now .reset
        { watch with meter := watch.meter.reset.1, face := .zero, book := watch.book.clear }
        { render := some .zero }
  | resetAdded {book : LapBook} {lap : Lap} (rests : watch.meter.running = false)
      (replays : watch.replay.active = true)
      (captured : watch.book.capture (watch.reading now) = .ok (book, lap)) :
      Pressed watch now .reset
        { watch with
          meter := watch.meter.reset.1, face := .zero, book
          blinker := (watch.blinker.arm watch.blinks).1
          replay := { watch.replay with clearAfter := true } }
        { newLap := some lap, startBlinker := (watch.blinker.arm watch.blinks).2 }
  | resetDropped {error : Error} (rests : watch.meter.running = false)
      (replays : watch.replay.active = true)
      (refused : watch.book.capture (watch.reading now) = .error error) :
      Pressed watch now .reset
        { watch with
          meter := watch.meter.reset.1, face := .zero
          replay := { watch.replay with clearAfter := true } }
        .none

theorem press_run (watch : Stopwatch) (now : UInt64) :
    Pressed watch now .run (watch.press now .run).1 (watch.press now .run).2 := by
  by_cases runs : watch.meter.running = true
  · have row : Pressed watch now .run _ _ := .stopped runs
    have shown : (watch.meter.stop now).1.reading now = watch.reading now :=
      Meter.reading_stop watch.meter now now
    simpa only [press, runs, ↓reduceIte, stop, shown] using row
  · have row : Pressed watch now .run _ _ := .started (eq_false_of_ne_true runs)
    simpa only [press, if_neg runs, start] using row

theorem press_lap (watch : Stopwatch) (now : UInt64) :
    Pressed watch now .lap (watch.press now .lap).1 (watch.press now .lap).2 := by
  by_cases runs : watch.meter.running = true
  · simp only [press, runs, ↓reduceIte, addLap]
    cases captured : watch.book.capture (watch.reading now) with
    | ok added => exact .lapAdded runs captured
    | error error => exact .lapDropped runs captured
  · simp only [press, if_neg runs]
    exact .lapIgnored (eq_false_of_ne_true runs)

theorem press_replay (watch : Stopwatch) (now : UInt64) :
    Pressed watch now .replay (watch.press now .replay).1 (watch.press now .replay).2 := by
  by_cases replays : watch.replay.active = true
  · simp only [press, replays, ↓reduceIte]
    exact .replayLeft replays
  · simp only [press, if_neg replays]
    exact .replayBegun (eq_false_of_ne_true replays)

theorem press_reset (watch : Stopwatch) (now : UInt64) :
    Pressed watch now .reset (watch.press now .reset).1 (watch.press now .reset).2 := by
  by_cases runs : watch.meter.running = true
  · simp only [press, runs, ↓reduceIte]
    exact .resetIgnored runs
  · have rests := eq_false_of_ne_true runs
    simp only [press, if_neg runs, reset]
    by_cases replays : watch.replay.active = true
    · simp only [replays, ↓reduceIte, addLap]
      cases captured : watch.book.capture (watch.reading now) with
      | ok added => exact .resetAdded rests replays captured
      | error error => exact .resetDropped rests replays captured
    · simp only [if_neg replays]
      exact .resetCleared rests (eq_false_of_ne_true replays)

theorem press_row (watch : Stopwatch) (now : UInt64) (key : Key) :
    Pressed watch now key (watch.press now key).1 (watch.press now key).2 := by
  cases key with
  | run => exact press_run watch now
  | lap => exact press_lap watch now
  | replay => exact press_replay watch now
  | reset => exact press_reset watch now

inductive Refreshed (watch : Stopwatch) (now : UInt64) : Stopwatch → RenderOutcome → Prop
  | ended (rests : watch.meter.running = false) :
      Refreshed watch now { watch with refreshing := false } (.stopped .none)
  | forced (runs : watch.meter.running = true)
      (reached : (watch.meter.stopAtLimit now).2 = true) :
      Refreshed watch now
        { watch with
          meter := (watch.meter.stopAtLimit now).1, refreshing := false, face := .greatest }
        (.stopped
          { render := if watch.replay.active then none else some .greatest
            lamps := [(.running, false)] })
  | shown (runs : watch.meter.running = true)
      (below : (watch.meter.stopAtLimit now).2 = false) :
      Refreshed watch now { watch with face := watch.reading now }
        (.go (if watch.replay.active then none else some (watch.reading now)))

theorem refresh_row (watch : Stopwatch) (now : UInt64) :
    Refreshed watch now (watch.refresh now).1 (watch.refresh now).2 := by
  by_cases runs : watch.meter.running = true
  · by_cases reached : (watch.meter.stopAtLimit now).2 = true
    · simp only [refresh, runs, reached, Bool.not_true, Bool.false_eq_true, ↓reduceIte]
      exact .forced runs reached
    · simp only [refresh, runs, if_neg reached, Bool.not_true, Bool.false_eq_true, ↓reduceIte]
      exact .shown runs (eq_false_of_ne_true reached)
  · have rests := eq_false_of_ne_true runs
    simp only [refresh, rests, Bool.not_false, ↓reduceIte]
    exact .ended rests

inductive ReplayStepped (watch : Stopwatch) (session : UInt32) (now : UInt64) :
    Stopwatch → ReplayOutcome → Prop
  | stale (other : watch.replay.active = false ∨ watch.replay.session ≠ session) :
      ReplayStepped watch session now watch .stale
  | shown {book : LapBook} {lap : Lap} {previous : Option Lap}
      (replays : watch.replay.active = true) (current : watch.replay.session = session)
      (next : watch.book.replayNext = (book, some (lap, previous))) :
      ReplayStepped watch session now { watch with book }
        (.lap (watch.mode.value lap.time (previous.map (·.time))))
  | ended (replays : watch.replay.active = true) (current : watch.replay.session = session)
      (past : watch.book.replayNext.2 = none) :
      ReplayStepped watch session now (watch.leaveReplay now).1
        (.finished (watch.leaveReplay now).2)

theorem stepReplay_row (watch : Stopwatch) (session : UInt32) (now : UInt64) :
    ReplayStepped watch session now (watch.stepReplay session now).1
      (watch.stepReplay session now).2 := by
  unfold stepReplay
  split
  next other =>
      simp only [Bool.or_eq_true, Bool.not_eq_true', bne_iff_ne, ne_eq] at other
      exact .stale other
  next current =>
      simp only [Bool.or_eq_true, Bool.not_eq_true', bne_iff_ne, ne_eq, not_or,
        Bool.not_eq_false, Classical.not_not] at current
      obtain ⟨replays, same⟩ := current
      cases next : watch.book.replayNext with
      | mk book shown =>
          cases shown with
          | none => exact .ended replays same (by rw [next])
          | some pair => exact .shown replays same next

theorem halt_running (watch : Stopwatch) (now : UInt64) (runs : watch.meter.running = true) :
    watch.halt now =
      ({ watch with meter := (watch.meter.stop now).1, face := watch.reading now }, true) := by
  have shown : (watch.meter.stop now).1.reading now = watch.reading now :=
    Meter.reading_stop watch.meter now now
  have stops : (watch.meter.stop now).2 = true := by simp [Meter.stop, runs]
  simp only [halt, stops, ↓reduceIte, shown]

theorem halt_resting (watch : Stopwatch) (now : UInt64) (rests : watch.meter.running = false) :
    watch.halt now = (watch, false) := by
  simp [halt, Meter.stop, rests]

/-- What an operation asks of a meter, by whether it runs. -/
def meterOp (running : Bool) : WatchOp → Option MeterOp
  | .press .run => some (if running then .stop else .start)
  | .press .reset => some .reset
  | .refresh => some .stopAtLimit
  | .halt => some .stop
  | _ => none

theorem meter_press (watch : Stopwatch) (now : UInt64) (key : Key) :
    (watch.press now key).1.meter =
      (meterOp watch.meter.running (.press key)).elim watch.meter
        fun op => (watch.meter.step now op).1 := by
  have row := press_row watch now key
  generalize (watch.press now key).1 = next at row ⊢
  generalize (watch.press now key).2 = orders at row
  cases row with
  | started rests => simp [meterOp, rests, Meter.step]
  | stopped runs => simp [meterOp, runs, Meter.step]
  | resetIgnored runs => simp [meterOp, Meter.step, Meter.reset, runs]
  | _ => rfl

theorem meter_refresh (watch : Stopwatch) (now : UInt64) :
    (watch.refresh now).1.meter = (watch.meter.stopAtLimit now).1 := by
  have row := refresh_row watch now
  generalize (watch.refresh now).1 = next at row ⊢
  generalize (watch.refresh now).2 = outcome at row
  cases row with
  | ended rests => exact (Meter.stopAtLimit_resting watch.meter now rests).symm
  | forced runs reached => rfl
  | shown runs below =>
      unfold Meter.stopAtLimit at below ⊢
      split
      next reached => simp [reached] at below
      next => rfl

theorem meter_stepReplay (watch : Stopwatch) (session : UInt32) (now : UInt64) :
    (watch.stepReplay session now).1.meter = watch.meter := by
  have row := stepReplay_row watch session now
  generalize (watch.stepReplay session now).1 = next at row ⊢
  generalize (watch.stepReplay session now).2 = outcome at row
  cases row <;> rfl

theorem meter_halt (watch : Stopwatch) (now : UInt64) :
    (watch.halt now).1.meter = (watch.meter.stop now).1 := by
  by_cases runs : watch.meter.running = true
  · rw [halt_running watch now runs]
  · rw [halt_resting watch now (eq_false_of_ne_true runs), Meter.stop, if_neg runs]

/-- An operation does to the meter what it asks of it, and nothing else. -/
theorem meter_step (watch : Stopwatch) (now : UInt64) (op : WatchOp) :
    (watch.step now op).1.meter =
      (meterOp watch.meter.running op).elim watch.meter
        fun op => (watch.meter.step now op).1 := by
  cases op with
  | press key => exact meter_press watch now key
  | refresh => exact meter_refresh watch now
  | stepReplay session => exact meter_stepReplay watch session now
  | halt => exact meter_halt watch now
  | _ => rfl

theorem book_leaveReplay (watch : Stopwatch) (now : UInt64) :
    (watch.leaveReplay now).1.book = watch.book ∨
      (watch.leaveReplay now).1.book = (watch.book.step .clear).1 := by
  unfold leaveReplay
  by_cases pending : watch.replay.clearAfter = true
  · exact .inr (if_pos pending)
  · exact .inl (if_neg pending)

/-- An operation does one thing to the book or none, and it reads there only if it is a
read. -/
theorem book_step (watch : Stopwatch) (now : UInt64) (op : WatchOp) :
    (watch.step now op).1.book = watch.book ∨
      ∃ change : BookOp, (change = .readNext → op = .readRecord) ∧
        (watch.step now op).1.book = (watch.book.step change).1 := by
  have left := book_leaveReplay watch now
  have added : ∀ book lap, watch.book.capture (watch.reading now) = .ok (book, lap) →
      book = (watch.book.step (.capture (watch.reading now))).1 :=
    fun book lap captured => by simp only [LapBook.step, captured]
  cases op with
  | press key =>
      have row := press_row watch now key
      simp only [step]
      generalize (watch.press now key).1 = next at row ⊢
      generalize (watch.press now key).2 = orders at row
      cases row with
      | lapAdded runs captured => exact .inr ⟨.capture _, by simp, added _ _ captured⟩
      | resetAdded rests replays captured =>
          exact .inr ⟨.capture _, by simp, added _ _ captured⟩
      | replayBegun live => exact .inr ⟨.rewind, by simp, rfl⟩
      | replayLeft replays => exact left.imp_right fun cleared => ⟨.clear, by simp, cleared⟩
      | resetCleared rests live => exact .inr ⟨.clear, by simp, rfl⟩
      | _ => exact .inl rfl
  | refresh =>
      have row := refresh_row watch now
      simp only [step]
      generalize (watch.refresh now).1 = next at row ⊢
      generalize (watch.refresh now).2 = outcome at row
      cases row <;> exact .inl rfl
  | stepReplay session =>
      have row := stepReplay_row watch session now
      simp only [step]
      generalize (watch.stepReplay session now).1 = next at row ⊢
      generalize (watch.stepReplay session now).2 = outcome at row
      cases row with
      | stale other => exact .inl rfl
      | shown replays current next =>
          exact .inr ⟨.replayNext, by simp, by simp only [LapBook.step, next]⟩
      | ended replays current past =>
          exact left.imp_right fun cleared => ⟨.clear, by simp, cleared⟩
  | readRecord => exact .inr ⟨.readNext, fun _ => rfl, rfl⟩
  | halt =>
      by_cases runs : watch.meter.running = true
      · exact .inl (by rw [step, halt_running watch now runs])
      · exact .inl (by rw [step, halt_resting watch now (eq_false_of_ne_true runs)])
  | wipe => exact .inr ⟨.clear, by simp, rfl⟩
  | _ => exact .inl rfl

/-- No operation of the run is of the kind, each judged in the state that it meets. -/
abbrev Avoids (kind : Stopwatch → UInt64 → WatchOp → Prop) (watch : Stopwatch)
    (ops : List (UInt64 × WatchOp)) : Prop :=
  Throughout stepAt (fun watch entry => ¬ kind watch entry.1 entry.2) watch ops

end Stopwatch

end LapTimer
