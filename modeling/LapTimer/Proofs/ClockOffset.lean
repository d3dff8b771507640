import LapTimer.Proofs.Transitions
import LapTimer.Settings

/-! Only differences of instants matter. Stopwatches on clocks with a fixed offset differ in
one number, the instant at which the open segment of the meter began. -/

namespace LapTimer

/-- The clock that is ahead does not wrap. -/
def Fits (offset now : UInt64) : Prop := now.toNat + offset.toNat < UInt64.size

instance (offset now : UInt64) : Decidable (Fits offset now) :=
  inferInstanceAs (Decidable (now.toNat + offset.toNat < UInt64.size))

theorem Fits.toNat_add {offset now : UInt64} (fits : Fits offset now) :
    (now + offset).toNat = now.toNat + offset.toNat := by
  rw [UInt64.toNat_add]
  exact Nat.mod_eq_of_lt fits

namespace Meter

/-- The same meter on a clock that is ahead. -/
structure Ahead (offset : UInt64) (early late : Meter) : Prop where
  running : late.running = early.running
  banked : late.banked = early.banked
  opened : early.running = true → late.openedAt.toNat = early.openedAt.toNat + offset.toNat

variable {offset now : UInt64} {early late : Meter}

theorem Ahead.elapsed (ahead : Ahead offset early late) (fits : Fits offset now) :
    late.elapsed (now + offset) = early.elapsed now := by
  apply UInt64.toNat_inj.mp
  rw [toNat_elapsed, toNat_elapsed, ahead.running, ahead.banked, fits.toNat_add]
  by_cases runs : early.running = true
  · rw [if_pos runs, if_pos runs, ahead.opened runs, Nat.add_sub_add_right]
  · rw [if_neg runs, if_neg runs]

theorem Ahead.reachedLimit (ahead : Ahead offset early late) (fits : Fits offset now) :
    late.reachedLimit (now + offset) = early.reachedLimit now := by
  rw [Meter.reachedLimit, Meter.reachedLimit, ahead.elapsed fits]

theorem Ahead.start (ahead : Ahead offset early late) (fits : Fits offset now) :
    (late.start (now + offset)).2 = (early.start now).2 ∧
      Ahead offset (early.start now).1 (late.start (now + offset)).1 := by
  unfold Meter.start
  rw [ahead.running]
  split
  · exact ⟨rfl, ahead⟩
  · exact ⟨rfl, rfl, ahead.banked, fun _ => fits.toNat_add⟩

-- Whichever way a meter comes to rest, nothing is left of the instant.
theorem Ahead.resting (banked : UInt64) (opened opened' : UInt64) :
    Ahead offset ⟨false, opened, banked⟩ ⟨false, opened', banked⟩ :=
  ⟨rfl, rfl, fun runs => absurd runs Bool.false_ne_true⟩

theorem Ahead.stop (ahead : Ahead offset early late) (fits : Fits offset now) :
    (late.stop (now + offset)).2 = (early.stop now).2 ∧
      Ahead offset (early.stop now).1 (late.stop (now + offset)).1 := by
  unfold Meter.stop
  rw [ahead.running, ahead.elapsed fits]
  split
  · exact ⟨rfl, .resting _ _ _⟩
  · exact ⟨rfl, ahead⟩

theorem Ahead.reset (ahead : Ahead offset early late) :
    late.reset.2 = early.reset.2 ∧ Ahead offset early.reset.1 late.reset.1 := by
  unfold Meter.reset
  rw [ahead.running]
  split
  · exact ⟨rfl, ahead⟩
  next rests => exact ⟨rfl, rfl, rfl, fun runs => absurd runs rests⟩

theorem Ahead.stopAtLimit (ahead : Ahead offset early late) (fits : Fits offset now) :
    (late.stopAtLimit (now + offset)).2 = (early.stopAtLimit now).2 ∧
      Ahead offset (early.stopAtLimit now).1 (late.stopAtLimit (now + offset)).1 := by
  unfold Meter.stopAtLimit
  rw [ahead.running, ahead.reachedLimit fits]
  split
  · exact ⟨rfl, .resting _ _ _⟩
  · exact ⟨rfl, ahead⟩

end Meter

namespace Stopwatch

/-- The same stopwatch around another meter. -/
def onMeter (watch : Stopwatch) (meter : Meter) : Stopwatch := { watch with meter }

variable {offset now : UInt64} {early : Stopwatch} {meter : Meter}

theorem reading_ahead (ahead : early.meter.Ahead offset meter) (fits : Fits offset now) :
    (early.onMeter meter).reading (now + offset) = early.reading now := by
  rw [reading, reading, Meter.reading, Meter.reading]
  exact congrArg Reading.ofNanos (ahead.elapsed fits)

theorem face_ahead (ahead : early.meter.Ahead offset meter) (fits : Fits offset now) :
    ((early.onMeter meter).meter.stop (now + offset)).1.reading (now + offset) =
      (early.meter.stop now).1.reading now := by
  rw [Meter.reading_stop, Meter.reading_stop]
  exact reading_ahead ahead fits

theorem status_ahead (ahead : early.meter.Ahead offset meter) (fits : Fits offset now) :
    (early.onMeter meter).status (now + offset) = early.status now := by
  have running : (early.onMeter meter).meter.running = early.meter.running := ahead.running
  rw [status, running, reading_ahead ahead fits]
  rfl

/-- Later on the clock that is ahead, the same comes out, and the stopwatch is again the same
but for its meter. -/
def Echoes {α : Type} (offset : UInt64) (early late : Stopwatch × α) : Prop :=
  ∃ meter, early.1.meter.Ahead offset meter ∧ late = (early.1.onMeter meter, early.2)

theorem addLap_ahead (ahead : early.meter.Ahead offset meter) (time : Reading) :
    Echoes offset (early.addLap time) ((early.onMeter meter).addLap time) := by
  have book : (early.onMeter meter).book = early.book := rfl
  unfold addLap
  rw [book]
  cases early.book.capture time <;> exact ⟨meter, ahead, rfl⟩

theorem leaveReplay_ahead (ahead : early.meter.Ahead offset meter) (fits : Fits offset now) :
    Echoes offset (early.leaveReplay now) ((early.onMeter meter).leaveReplay (now + offset)) := by
  refine ⟨meter, ahead, ?_⟩
  unfold leaveReplay
  rw [reading_ahead ahead fits]
  rfl

theorem stop_ahead (ahead : early.meter.Ahead offset meter) (fits : Fits offset now) :
    Echoes offset (early.stop now) ((early.onMeter meter).stop (now + offset)) := by
  refine ⟨(meter.stop (now + offset)).1, (ahead.stop fits).2, ?_⟩
  simp only [stop, face_ahead ahead fits]
  rfl

theorem reset_ahead (ahead : early.meter.Ahead offset meter) (fits : Fits offset now) :
    Echoes offset (early.reset now) ((early.onMeter meter).reset (now + offset)) := by
  have replay : (early.onMeter meter).replay = early.replay := rfl
  unfold reset
  rw [reading_ahead ahead fits, replay]
  split
  · have zeroed : Echoes offset
        (addLap { early with meter := early.meter.reset.1, face := .zero } (early.reading now))
        (addLap { early.onMeter meter with meter := meter.reset.1, face := .zero }
          (early.reading now)) := addLap_ahead ahead.reset.2 (early.reading now)
    obtain ⟨meter', ahead', added⟩ := zeroed
    refine ⟨meter', ahead', ?_⟩
    simp only [onMeter] at added ⊢
    rw [added]
  · exact ⟨meter.reset.1, ahead.reset.2, rfl⟩

theorem press_ahead (ahead : early.meter.Ahead offset meter) (fits : Fits offset now)
    (key : Key) :
    Echoes offset (early.press now key) ((early.onMeter meter).press (now + offset) key) := by
  have running : (early.onMeter meter).meter.running = early.meter.running := ahead.running
  have replay : (early.onMeter meter).replay = early.replay := rfl
  cases key with
  | run =>
      simp only [press, running]
      split
      · exact stop_ahead ahead fits
      · exact ⟨(meter.start (now + offset)).1, (ahead.start fits).2, rfl⟩
  | lap =>
      simp only [press, running, reading_ahead ahead fits]
      split
      · exact addLap_ahead ahead (early.reading now)
      · exact ⟨meter, ahead, rfl⟩
  | replay =>
      simp only [press, replay]
      split
      · obtain ⟨meter', ahead', left⟩ := leaveReplay_ahead ahead fits
        rw [left]
        exact ⟨meter', ahead', rfl⟩
      · exact ⟨meter, ahead, rfl⟩
  | reset =>
      simp only [press, running]
      split
      · exact ⟨meter, ahead, rfl⟩
      · exact reset_ahead ahead fits

theorem refresh_ahead (ahead : early.meter.Ahead offset meter) (fits : Fits offset now) :
    Echoes offset (early.refresh now) ((early.onMeter meter).refresh (now + offset)) := by
  have running : (early.onMeter meter).meter.running = early.meter.running := ahead.running
  obtain ⟨forced, stopped⟩ := ahead.stopAtLimit fits
  have forced' : ((early.onMeter meter).meter.stopAtLimit (now + offset)).2 =
      (early.meter.stopAtLimit now).2 := forced
  simp only [refresh, running, forced', reading_ahead ahead fits]
  split
  · exact ⟨meter, ahead, rfl⟩
  · split
    · exact ⟨(meter.stopAtLimit (now + offset)).1, stopped, rfl⟩
    · exact ⟨meter, ahead, rfl⟩

theorem stepReplay_ahead (ahead : early.meter.Ahead offset meter) (fits : Fits offset now)
    (session : UInt32) :
    Echoes offset (early.stepReplay session now)
      ((early.onMeter meter).stepReplay session (now + offset)) := by
  have replay : (early.onMeter meter).replay = early.replay := rfl
  have book : (early.onMeter meter).book = early.book := rfl
  simp only [stepReplay, replay, book]
  split
  · exact ⟨meter, ahead, rfl⟩
  · obtain ⟨next, shown⟩ := early.book.replayNext
    cases shown with
    | some pair => exact ⟨meter, ahead, rfl⟩
    | none =>
        obtain ⟨meter', ahead', left⟩ := leaveReplay_ahead ahead fits
        simp only [left]
        exact ⟨meter', ahead', rfl⟩

theorem halt_ahead (ahead : early.meter.Ahead offset meter) (fits : Fits offset now) :
    Echoes offset (early.halt now) ((early.onMeter meter).halt (now + offset)) := by
  obtain ⟨ran, stopped⟩ := ahead.stop fits
  have ran' : ((early.onMeter meter).meter.stop (now + offset)).2 =
      (early.meter.stop now).2 := ran
  simp only [halt, ran', face_ahead ahead fits]
  split
  · exact ⟨(meter.stop (now + offset)).1, stopped, rfl⟩
  · exact ⟨meter, ahead, rfl⟩

theorem readRecord_ahead (ahead : early.meter.Ahead offset meter) (fits : Fits offset now) :
    Echoes offset (early.readRecord now) ((early.onMeter meter).readRecord (now + offset)) := by
  refine ⟨meter, ahead, ?_⟩
  simp only [readRecord, reading_ahead ahead fits]
  rfl

theorem Echoes.map {α β : Type} {early late : Stopwatch × α} (echoes : Echoes offset early late)
    (tell : α → β) : Echoes offset (early.1, tell early.2) (late.1, tell late.2) := by
  obtain ⟨meter, ahead, rfl⟩ := echoes
  exact ⟨meter, ahead, rfl⟩

theorem step_ahead (ahead : early.meter.Ahead offset meter) (fits : Fits offset now)
    (op : WatchOp) :
    Echoes offset (early.step now op) ((early.onMeter meter).step (now + offset) op) := by
  cases op with
  | press key => exact (press_ahead ahead fits key).map WatchResult.orders
  | refresh => exact (refresh_ahead ahead fits).map WatchResult.render
  | stepReplay session => exact (stepReplay_ahead ahead fits session).map WatchResult.replay
  | blink => exact ⟨meter, ahead, rfl⟩
  | readRecord => exact (readRecord_ahead ahead fits).map WatchResult.record
  | halt => exact (halt_ahead ahead fits).map WatchResult.stopped
  | wipe => exact ⟨meter, ahead, rfl⟩
  | setMode mode => exact ⟨meter, ahead, rfl⟩

/-- The same run on the clock that is ahead. -/
def later (offset : UInt64) (ops : List (UInt64 × WatchOp)) : List (UInt64 × WatchOp) :=
  ops.map fun entry => (entry.1 + offset, entry.2)

theorem run_ahead (ahead : early.meter.Ahead offset meter) (ops : List (UInt64 × WatchOp))
    (fits : ∀ entry ∈ ops, Fits offset entry.1) :
    Echoes offset (early.run ops) ((early.onMeter meter).run (later offset ops)) := by
  induction ops generalizing early meter with
  | nil => exact ⟨meter, ahead, rfl⟩
  | cons entry rest ih =>
      obtain ⟨now, op⟩ := entry
      obtain ⟨meter', ahead', stepped⟩ := step_ahead ahead (fits _ List.mem_cons_self) op
      obtain ⟨last, lastAhead, ran⟩ :=
        ih ahead' fun entry member => fits entry (List.mem_cons_of_mem _ member)
      simp only [later] at ran
      simp only [runBy, timed, later, List.map_cons, stepped, ran]
      exact ⟨last, lastAhead, rfl⟩

/-- From a new stopwatch on, a clock that is ahead by a fixed offset makes no difference to
what any operation answers, nor afterwards to what the stopwatch reads and tells of itself,
nor to anything that it holds but its meter. -/
theorem offset_unseen (settings : TimerSettings) (offset : UInt64)
    (ops : List (UInt64 × WatchOp)) (fits : ∀ entry ∈ ops, Fits offset entry.1) :
    let early := settings.watch.run ops
    let late := settings.watch.run (later offset ops)
    late.2 = early.2 ∧
      (∀ now, Fits offset now →
        late.1.reading (now + offset) = early.1.reading now ∧
          late.1.status (now + offset) = early.1.status now) ∧
      late.1 = early.1.onMeter late.1.meter := by
  intro early late
  have fresh : settings.watch.meter.Ahead offset settings.watch.meter := .resting 0 0 0
  obtain ⟨meter, ahead, ran⟩ := run_ahead fresh ops fits
  have same : late = (early.1.onMeter meter, early.2) := ran
  rw [same]
  refine ⟨rfl, ?_, rfl⟩
  intro now fits
  exact ⟨reading_ahead ahead fits, status_ahead ahead fits⟩

/-- The clock goes back twice, and the offset takes the last instant to the greatest word. -/
theorem offset_unseen_back :
    let offset : UInt64 := 18446744064709551615
    let ops : List (UInt64 × WatchOp) :=
      [(5000000000, .press .run), (7000000000, .press .lap), (3000000000, .press .lap),
        (6000000000, .press .replay), (6000000000, .stepReplay 1), (8000000000, .press .run),
        (4000000000, .press .reset), (8000000000, .press .run), (9000000000, .readRecord)]
    let late := ({} : TimerSettings).watch.run (later offset ops)
    (∀ entry ∈ ops, Fits offset entry.1) ∧ late.2 = (({} : TimerSettings).watch.run ops).2 ∧
      9000000000 + offset = Saturating.greatest64 ∧
      late.1.reading (9000000000 + offset) = ⟨0, 1, 0⟩ := by
  intro offset ops late
  have fits : ∀ entry ∈ ops, Fits offset entry.1 := by decide
  obtain ⟨told, tells, -⟩ := offset_unseen {} offset ops fits
  have reads : (({} : TimerSettings).watch.run ops).1.reading 9000000000 = ⟨0, 1, 0⟩ := by decide
  have last : Fits offset 9000000000 := by decide
  exact ⟨fits, told, by decide, (tells 9000000000 last).1.trans reads⟩

end Stopwatch

end LapTimer
