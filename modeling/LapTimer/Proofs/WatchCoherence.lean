import LapTimer.Proofs.LampCoherence
import LapTimer.Proofs.ReaderWays

/-! Coherent stopwatches. Each operation keeps them so at any instant but one: a wipe counts
the render worker as gone, so it has to find the meter stopped. -/

namespace LapTimer

def Orders.times (orders : Orders) : List Reading :=
  (orders.newLap.map Lap.time).toList ++ orders.render.toList

/-- All times that an answer tells. -/
def WatchResult.times : WatchResult → List Reading
  | .orders given => given.times
  | .render (.go shown) => shown.toList
  | .render (.stopped given) => given.times
  | .replay (.lap value) => [value]
  | .replay (.finished given) => given.times
  | .record read => [read.current, read.lap]
  | .replay .stale | .blink _ | .stopped _ | .done => []

/-- All of these times fit a face. -/
def AllFit (times : List Reading) : Prop := ∀ time ∈ times, time.inRange = true

theorem allFit_nil : AllFit [] := List.forall_mem_nil _

theorem allFit_one {time : Reading} (fits : time.inRange = true) : AllFit [time] :=
  List.forall_mem_singleton.mpr fits

theorem allFit_unless {time : Reading} (replaying : Bool) (fits : time.inRange = true) :
    AllFit (if replaying then none else some time : Option Reading).toList := by
  cases replaying with
  | true => exact allFit_nil
  | false => exact allFit_one fits

theorem LapMode.value_fits (mode : LapMode) (lap : Reading) (previous : Option Reading)
    (fits : lap.inRange = true) : (mode.value lap previous).inRange = true := by
  cases mode with
  | absolute => exact fits
  | split => exact Reading.inRange_sub _ _

theorem LapBook.replayNext_mem {book next : LapBook} {lap : Lap} {previous : Option Lap}
    (shown : book.replayNext = (next, some (lap, previous))) : lap ∈ book.laps := by
  unfold replayNext at shown
  split at shown
  next => simp at shown
  next place stands =>
      split at shown
      next => simp at shown
      next current found =>
          simp only [Prod.mk.injEq, Option.some.injEq] at shown
          obtain ⟨-, rfl, -⟩ := shown
          exact List.mem_of_getElem? found

namespace Stopwatch

theorem Pressed.allFit {watch next : Stopwatch} {now : UInt64} {key : Key} {orders : Orders}
    (row : Pressed watch now key next orders) : AllFit orders.times := by
  have here := watch.reading_fits now
  cases row with
  | stopped runs => exact allFit_unless _ here
  | lapAdded runs captured =>
      obtain ⟨-, rfl, -⟩ := LapBook.capture_ok _ _ _ _ captured
      exact allFit_one here
  | replayLeft replays => exact allFit_one here
  | resetCleared rests live => exact allFit_one rfl
  | resetAdded rests replays captured =>
      obtain ⟨-, rfl, -⟩ := LapBook.capture_ok _ _ _ _ captured
      exact allFit_one here
  | _ => exact allFit_nil

theorem Refreshed.allFit {watch next : Stopwatch} {now : UInt64} {outcome : RenderOutcome}
    (row : Refreshed watch now next outcome) : AllFit (WatchResult.render outcome).times := by
  cases row with
  | ended rests => exact allFit_nil
  | forced runs reached => exact allFit_unless _ rfl
  | shown runs below => exact allFit_unless _ (watch.reading_fits now)

theorem ReplayStepped.allFit {watch next : Stopwatch} {session : UInt32} {now : UInt64}
    {outcome : ReplayOutcome} (row : ReplayStepped watch session now next outcome)
    (fit : watch.LapsFit) : AllFit (WatchResult.replay outcome).times := by
  cases row with
  | stale other => exact allFit_nil
  | shown replays current next =>
      exact allFit_one (LapMode.value_fits _ _ _ (fit _ (LapBook.replayNext_mem next)))
  | ended replays current past => exact allFit_one (watch.reading_fits now)

theorem allFit_step (watch : Stopwatch) (now : UInt64) (op : WatchOp) (fit : watch.LapsFit) :
    AllFit (watch.step now op).2.times := by
  cases op with
  | press key => exact (press_row watch now key).allFit
  | refresh => exact (refresh_row watch now).allFit
  | stepReplay session => exact (stepReplay_row watch session now).allFit fit
  | readRecord =>
      have readable := (watch.told_readRecord now fit).readable
      exact List.forall_mem_cons.mpr ⟨readable.1, allFit_one readable.2⟩
  | _ => exact allFit_nil

theorem allFit_run (watch : Stopwatch) (ops : List (UInt64 × WatchOp)) (fit : watch.LapsFit) :
    ∀ result ∈ (watch.run ops).2, AllFit result.times := by
  induction ops generalizing watch with
  | nil => exact List.forall_mem_nil _
  | cons entry rest ih =>
      obtain ⟨now, op⟩ := entry
      have tail := ih (watch.step now op).1 (lapsFit_step watch now op fit)
      exact List.forall_mem_cons.mpr ⟨allFit_step watch now op fit, tail⟩

end Stopwatch

theorem Meter.banked_step (meter : Meter) (now : UInt64) (op : MeterOp)
    (within : meter.banked ≤ Reading.limitNanos) :
    (meter.step now op).1.banked ≤ Reading.limitNanos := by
  cases op with
  | start =>
      simp only [step, start]
      split <;> exact within
  | stop =>
      simp only [step, stop]
      split
      · exact meter.elapsed_le now
      · exact within
  | reset =>
      simp only [step, reset]
      split
      · exact within
      · exact UInt64.zero_le
  | stopAtLimit =>
      simp only [step, stopAtLimit]
      split
      · exact UInt64.le_refl _
      · exact within

/-- While the meter runs the render worker is counted on; once it has stopped the face has its
time. -/
structure KeepsUp (meter : Meter) (face : Reading) (refreshing : Bool) : Prop where
  worked : meter.running = true → refreshing = true
  shown : meter.running = false → ∀ now, face = meter.reading now
  banked : meter.banked ≤ Reading.limitNanos
  fits : face.inRange = true

namespace KeepsUp

variable {meter : Meter} {face : Reading} {refreshing : Bool}

theorem started (keeps : KeepsUp meter face refreshing) (now : UInt64) :
    KeepsUp (meter.start now).1 face true where
  worked _ := rfl
  shown rests := absurd (rests.symm.trans (Meter.running_start meter now)) Bool.false_ne_true
  banked := meter.banked_step now .start keeps.banked
  fits := keeps.fits

/-- A stopped meter, with its time on the face. -/
theorem resting (meter : Meter) (refreshing : Bool) (now : UInt64)
    (rests : meter.running = false) (banked : meter.banked ≤ Reading.limitNanos) :
    KeepsUp meter (meter.reading now) refreshing where
  worked runs := absurd (rests.symm.trans runs) Bool.false_ne_true
  shown _ later := meter.reading_resting later now rests
  banked := banked
  fits := Reading.inRange_ofNanos _

theorem stopped (keeps : KeepsUp meter face refreshing) (now : UInt64) :
    KeepsUp (meter.stop now).1 (meter.reading now) refreshing := by
  have banked := meter.banked_step now .stop keeps.banked
  rw [← meter.reading_stop now now]
  exact resting _ refreshing now (meter.running_stop now) banked

theorem zeroed (keeps : KeepsUp meter face refreshing) (rests : meter.running = false) :
    KeepsUp meter.reset.1 .zero refreshing := by
  have banked := meter.banked_step 0 .reset keeps.banked
  rw [← meter.reading_reset 0 rests]
  exact resting _ refreshing 0 (meter.running_reset.trans rests) banked

theorem forced (keeps : KeepsUp meter face refreshing) (now : UInt64)
    (reached : (meter.stopAtLimit now).2 = true) :
    KeepsUp (meter.stopAtLimit now).1 .greatest false := by
  have banked := meter.banked_step now .stopAtLimit keeps.banked
  rw [← meter.reading_forced now now reached]
  exact resting _ false now (meter.running_forced now reached) banked

theorem refreshed (keeps : KeepsUp meter face refreshing) (now : UInt64)
    (runs : meter.running = true) : KeepsUp meter (meter.reading now) refreshing where
  worked := keeps.worked
  shown rests := absurd (rests.symm.trans runs) Bool.false_ne_true
  banked := keeps.banked
  fits := Reading.inRange_ofNanos _

theorem ended (keeps : KeepsUp meter face refreshing) (rests : meter.running = false) :
    KeepsUp meter face false := by
  rw [keeps.shown rests 0]
  exact resting meter false 0 rests keeps.banked

end KeepsUp

namespace Stopwatch

/-- The parts of a stopwatch agree with each other, and its laps fit a face. -/
structure Coherent (watch : Stopwatch) : Prop where
  keepsUp : KeepsUp watch.meter watch.face watch.refreshing
  pending : watch.replay.clearAfter = true → watch.replay.active = true
  settled : watch.blinker.Settled
  laps : watch.LapsFit

theorem coherent_start (settings : TimerSettings) : settings.watch.Coherent where
  keepsUp := .resting {} false 0 rfl (UInt64.zero_le)
  pending marked := absurd marked Bool.false_ne_true
  settled _ := ⟨rfl, rfl⟩
  laps _ inside := absurd inside List.not_mem_nil

variable {watch next : Stopwatch} {now : UInt64}

theorem Coherent.leaveReplay (stands : watch.Coherent)
    (laps : (watch.leaveReplay now).1.LapsFit) : (watch.leaveReplay now).1.Coherent :=
  ⟨stands.keepsUp, fun marked => absurd marked Bool.false_ne_true, stands.settled, laps⟩

-- What the laps become is known of every operation, so each row has the rest to say.
theorem Pressed.coherent {key : Key} {orders : Orders} (row : Pressed watch now key next orders)
    (stands : watch.Coherent) (laps : next.LapsFit) : next.Coherent := by
  have ⟨keepsUp, pending, settled, _⟩ := stands
  have armed := Blinker.settled_armed watch.blinker _ (.inr ⟨watch.blinks, rfl⟩) settled
  cases row with
  | started rests => exact ⟨keepsUp.started now, pending, settled, laps⟩
  | stopped runs => exact ⟨keepsUp.stopped now, pending, settled, laps⟩
  | lapIgnored rests => exact stands
  | lapAdded runs captured => exact ⟨keepsUp, pending, armed, laps⟩
  | lapDropped runs refused => exact stands
  | replayBegun live => exact ⟨keepsUp, fun _ => rfl, settled, laps⟩
  | replayLeft replays => exact stands.leaveReplay laps
  | resetIgnored runs => exact stands
  | resetCleared rests live => exact ⟨keepsUp.zeroed rests, pending, settled, laps⟩
  | resetAdded rests replays captured =>
      exact ⟨keepsUp.zeroed rests, fun _ => replays, armed, laps⟩
  | resetDropped rests replays refused =>
      exact ⟨keepsUp.zeroed rests, fun _ => replays, settled, laps⟩

theorem Refreshed.coherent {outcome : RenderOutcome} (row : Refreshed watch now next outcome)
    (stands : watch.Coherent) : next.Coherent := by
  have ⟨keepsUp, pending, settled, laps⟩ := stands
  cases row with
  | ended rests => exact ⟨keepsUp.ended rests, pending, settled, laps⟩
  | forced runs reached => exact ⟨keepsUp.forced now reached, pending, settled, laps⟩
  | shown runs below => exact ⟨keepsUp.refreshed now runs, pending, settled, laps⟩

theorem ReplayStepped.coherent {session : UInt32} {outcome : ReplayOutcome}
    (row : ReplayStepped watch session now next outcome) (stands : watch.Coherent)
    (laps : next.LapsFit) : next.Coherent := by
  have ⟨keepsUp, pending, settled, _⟩ := stands
  cases row with
  | stale other => exact stands
  | shown replays current next => exact ⟨keepsUp, pending, settled, laps⟩
  | ended replays current past => exact stands.leaveReplay laps

theorem Coherent.halt (stands : watch.Coherent) (now : UInt64) : (watch.halt now).1.Coherent := by
  by_cases runs : watch.meter.running = true
  · rw [halt_running watch now runs]
    exact ⟨stands.keepsUp.stopped now, stands.pending, stands.settled, stands.laps⟩
  · rwa [halt_resting watch now (eq_false_of_ne_true runs)]

/-- The laps, the replay and the workers are dropped while the meter runs. -/
def WipesRunning (watch : Stopwatch) (_ : UInt64) (op : WatchOp) : Prop :=
  op = .wipe ∧ watch.meter.running = true

theorem coherent_step (watch : Stopwatch) (now : UInt64) (op : WatchOp)
    (spares : ¬ WipesRunning watch now op) (stands : watch.Coherent) :
    (watch.step now op).1.Coherent := by
  have laps := lapsFit_step watch now op stands.laps
  have ⟨keepsUp, pending, settled, _⟩ := stands
  cases op with
  | press key => exact (press_row watch now key).coherent stands laps
  | refresh => exact (refresh_row watch now).coherent stands
  | stepReplay session => exact (stepReplay_row watch session now).coherent stands laps
  | blink => exact ⟨keepsUp, pending, watch.blinker.settled_tick settled, laps⟩
  | readRecord => exact ⟨keepsUp, pending, settled, laps⟩
  | halt => exact stands.halt now
  | wipe =>
      have rests := eq_false_of_ne_true fun runs => spares ⟨rfl, runs⟩
      exact ⟨keepsUp.ended rests, fun marked => absurd marked Bool.false_ne_true,
        fun _ => ⟨rfl, rfl⟩, laps⟩
  | setMode mode => exact ⟨keepsUp, pending, settled, laps⟩

/--
Whatever the settings, after any operations at any instants that do not wipe a running
stopwatch: a clear is pending only during a replay; a running meter has its render worker
counted on, and a stopped one has its time on the face; no more than the limit is banked; the
blinker is active as long as toggles are left or its lamp is lit; and the face, the laps and
all that was answered on the way are times that fit a face.
-/
theorem always_coherent (settings : TimerSettings) (ops : List (UInt64 × WatchOp))
    (spares : Avoids WipesRunning settings.watch ops) :
    let watch := (settings.watch.run ops).1
    (watch.replay.clearAfter = true → watch.replay.active = true) ∧
      (watch.meter.running = true → watch.refreshing = true) ∧
      (watch.meter.running = false → ∀ now, watch.face = watch.reading now) ∧
      watch.meter.banked ≤ Reading.limitNanos ∧
      (0 < watch.blinker.remaining ∨ watch.blinker.lit = true → watch.blinker.active = true) ∧
      watch.face.inRange = true ∧ (∀ lap ∈ watch.book.laps, lap.time.inRange = true) ∧
      ∀ result ∈ (settings.watch.run ops).2, ∀ time ∈ result.times, time.inRange = true := by
  intro watch
  have first := coherent_start settings
  have stands : watch.Coherent := by
    apply spares.keeps Coherent ?_ first
    rintro state ⟨now, op⟩
    exact coherent_step state now op
  have ⟨keepsUp, pending, settled, laps⟩ := stands
  exact ⟨pending, keepsUp.worked, keepsUp.shown, keepsUp.banked, settled.active, keepsUp.fits,
    laps, allFit_run settings.watch ops first.laps⟩

/-- A wipe after a forced stop; then a reset during a replay, on a clock that goes back, with
the meter running again at the end and stopped once more. -/
theorem always_coherent_wiped :
    let settings : TimerSettings := { blinks := 3, mode := .split }
    let ops : List (UInt64 × WatchOp) :=
      [(1000000000, .press .run), (6001000000000, .refresh), (6001000000000, .wipe),
        (2000000000, .press .reset), (5000000000, .press .run), (7250000000, .press .lap),
        (6000000000, .refresh), (8600000000, .press .replay), (9000000000, .halt),
        (9000000000, .press .reset), (3000000000, .press .run), (4500000000, .blink),
        (4600000000, .stepReplay 1)]
    let watch := (settings.watch.run ops).1
    let stopped := (settings.watch.run (ops ++ [(5000000000, .press .run)])).1
    Avoids WipesRunning settings.watch ops ∧
      watch.replay.clearAfter = true ∧ watch.replay.active = true ∧
      watch.meter.running = true ∧ watch.refreshing = true ∧
      watch.blinker.lit = true ∧ watch.blinker.active = true ∧
      (∀ result ∈ (settings.watch.run ops).2, ∀ time ∈ result.times, time.inRange = true) ∧
      watch.book.count = 2 ∧
      stopped.face = ⟨0, 2, 0⟩ ∧ ∀ now, stopped.face = stopped.reading now := by
  intro settings ops
  have spares : Avoids WipesRunning settings.watch ops := by
    simp only [ops, Avoids, Throughout, WipesRunning, reduceCtorEq, false_and, not_false_eq_true,
      true_and, and_true]
    decide
  have spares' : Avoids WipesRunning settings.watch (ops ++ [(5000000000, .press .run)]) := by
    simp only [ops, List.cons_append, List.nil_append, Avoids, Throughout, WipesRunning,
      reduceCtorEq, false_and, not_false_eq_true, true_and, and_true]
    decide
  obtain ⟨pending, worked, -, -, blinking, -, -, fits⟩ := always_coherent settings ops spares
  have shown := (always_coherent settings _ spares').2.2.1
  have marked : (settings.watch.run ops).1.replay.clearAfter = true := by decide +kernel
  have runs : (settings.watch.run ops).1.meter.running = true := by decide +kernel
  have lit : (settings.watch.run ops).1.blinker.lit = true := by decide +kernel
  exact ⟨spares, marked, pending marked, runs, worked runs, lit, blinking (.inr lit), fits,
    by decide +kernel, by decide +kernel, shown (by decide +kernel)⟩

end Stopwatch

end LapTimer
