import LapTimer.Proofs.LapHistory
import LapTimer.Proofs.Segments

/-! The limit as a latch. Once a meter has been stopped at the limit, only an accepted reset
lets it show another time. -/

namespace LapTimer

namespace Meter

/-- All of the limit is banked. -/
def Latched (meter : Meter) : Prop := meter.banked = Reading.limitNanos

theorem Latched.elapsed {meter : Meter} (latched : meter.Latched) (now : UInt64) :
    meter.elapsed now = Reading.limitNanos := by
  apply UInt64.toNat_inj.mp
  rw [toNat_elapsed, latched]
  omega

theorem elapsed_reached (meter : Meter) (now : UInt64)
    (reached : Reading.limitNanos ≤ meter.elapsed now) :
    meter.elapsed now = Reading.limitNanos :=
  UInt64.le_antisymm (meter.elapsed_le now) reached

theorem stop_latched (meter : Meter) (now : UInt64) (runs : meter.running = true)
    (reached : Reading.limitNanos ≤ meter.elapsed now) : (meter.stop now).1.Latched := by
  rw [stop, if_pos runs]
  exact elapsed_reached meter now reached

theorem stopAtLimit_reached (meter : Meter) (now : UInt64) (runs : meter.running = true)
    (reached : Reading.limitNanos ≤ meter.elapsed now) :
    meter.stopAtLimit now = meter.stop now := by
  have found : meter.reachedLimit now = true := decide_eq_true reached
  rw [stopAtLimit, stop, runs, found, elapsed_reached meter now reached]
  rfl

theorem stopAtLimit_below (meter : Meter) (now : UInt64)
    (below : ¬ Reading.limitNanos ≤ meter.elapsed now) :
    (meter.stopAtLimit now).1 = meter := by
  have missed : meter.reachedLimit now = false := decide_eq_false below
  rw [stopAtLimit, missed, Bool.and_false]
  rfl

theorem latched_step (meter : Meter) (now : UInt64) (op : MeterOp) (latched : meter.Latched)
    (kept : ¬ (op = .reset ∧ (meter.step now op).2 = true)) :
    (meter.step now op).1.Latched := by
  have reached : Reading.limitNanos ≤ meter.elapsed now := by
    rw [latched.elapsed now]
    exact UInt64.le_refl _
  by_cases runs : meter.running = true
  · cases op with
    | start =>
        rw [step, start, if_pos runs]
        exact latched
    | stop => exact stop_latched meter now runs reached
    | reset =>
        rw [step, reset, if_pos runs]
        exact latched
    | stopAtLimit =>
        rw [step, stopAtLimit_reached meter now runs reached]
        exact stop_latched meter now runs reached
  · by_cases starts : op = .start
    · subst starts
      rw [step, start, if_neg runs]
      exact latched
    · rw [step_resting meter now op (eq_false_of_ne_true runs) starts kept]
      exact latched

end Meter

namespace Stopwatch

theorem meterOp_reset (running : Bool) (op : WatchOp)
    (asks : meterOp running op = some .reset) : op = .press .reset := by
  cases op with
  | press key =>
      cases key with
      | reset => rfl
      | run => cases running <;> simp [meterOp] at asks
      | _ => simp [meterOp] at asks
  | _ => simp [meterOp] at asks

/-- Without an accepted reset an operation leaves the meter alone, or does to it what
keeps its time. -/
theorem meter_kept (watch : Stopwatch) (now : UInt64) (op : WatchOp)
    (kept : ¬ AcceptsReset watch op) :
    (watch.step now op).1.meter = watch.meter ∨
      ∃ asked, ¬ (asked = .reset ∧ (watch.meter.step now asked).2 = true) ∧
        (watch.step now op).1.meter = (watch.meter.step now asked).1 := by
  rw [meter_step]
  cases asks : meterOp watch.meter.running op with
  | none => exact .inl rfl
  | some asked =>
      refine .inr ⟨asked, ?_, rfl⟩
      rintro ⟨rfl, accepted⟩
      refine kept ⟨meterOp_reset _ op asks, eq_false_of_ne_true ?_⟩
      intro runs
      simp [Meter.step, Meter.reset, runs] at accepted

/-- The round of the render worker at this instant stops a running meter. -/
def ForcesStop (watch : Stopwatch) (now : UInt64) : Prop :=
  watch.meter.running = true ∧ (watch.refresh now).1.meter.running = false

/-- The operation stops a running meter that has reached the limit. -/
def StopsAtLimit (watch : Stopwatch) (now : UInt64) (op : WatchOp) : Prop :=
  watch.meter.running = true ∧ (watch.step now op).1.meter.running = false ∧
    Reading.limitNanos ≤ watch.meter.elapsed now

theorem forcesStop_iff (watch : Stopwatch) (now : UInt64) :
    watch.ForcesStop now ↔
      watch.meter.running = true ∧ Reading.limitNanos ≤ watch.meter.elapsed now := by
  rw [ForcesStop, meter_refresh]
  apply and_congr_right
  intro runs
  constructor
  · intro stopped
    apply Decidable.byContradiction
    intro below
    rw [Meter.stopAtLimit_below watch.meter now below, runs] at stopped
    exact Bool.noConfusion stopped
  · intro reached
    rw [Meter.stopAtLimit_reached watch.meter now runs reached]
    exact Meter.running_stop watch.meter now

-- Only a stop and the look for the limit can stop a meter, and at the limit they agree.
theorem stopsAtLimit_latched (watch : Stopwatch) (now : UInt64) (op : WatchOp)
    (stops : watch.StopsAtLimit now op) : (watch.step now op).1.meter.Latched := by
  obtain ⟨runs, stopped, reached⟩ := stops
  have latched := Meter.stop_latched watch.meter now runs reached
  rw [meter_step] at stopped ⊢
  cases asks : meterOp watch.meter.running op with
  | none =>
      rw [asks, Option.elim_none, runs] at stopped
      exact Bool.noConfusion stopped
  | some asked =>
      rw [asks] at stopped
      cases asked with
      | start => simp [Meter.step, Meter.running_start] at stopped
      | stop => exact latched
      | reset => simp [Meter.step, Meter.running_reset, runs] at stopped
      | stopAtLimit =>
          simp only [Option.elim_some, Meter.step,
            Meter.stopAtLimit_reached watch.meter now runs reached]
          exact latched

theorem latched_run (watch : Stopwatch) (ops : List (UInt64 × WatchOp))
    (latched : watch.meter.Latched)
    (kept : Avoids (fun state _ op => AcceptsReset state op) watch ops) :
    (watch.run ops).1.meter.Latched := by
  apply kept.keeps (fun state => state.meter.Latched) ?_ latched
  rintro state ⟨now, op⟩ kept latched
  show (state.step now op).1.meter.Latched
  rcases meter_kept state now op kept with same | ⟨asked, unreset, moved⟩
  · rw [same]
    exact latched
  · rw [moved]
    exact Meter.latched_step state.meter now asked latched unreset

/-- A round of the render worker stops the meter exactly where it runs and has reached
the limit, and leaves it as a stop by hand would. Once the meter has been stopped at the
limit, the time is the greatest reading at every instant until a reset is accepted, and a
round stops the meter wherever it runs again. -/
theorem limit_latches (watch : Stopwatch) (now : UInt64) :
    (watch.ForcesStop now ↔
        watch.meter.running = true ∧ Reading.limitNanos ≤ watch.meter.elapsed now) ∧
      (watch.ForcesStop now →
        (watch.refresh now).1.meter = (watch.press now .run).1.meter ∧
          (watch.refresh now).1.meter = (watch.halt now).1.meter) ∧
      ∀ op later, watch.StopsAtLimit now op →
        Avoids (fun state _ op => AcceptsReset state op) (watch.step now op).1 later →
        let final := ((watch.step now op).1.run later).1
        (∀ instant, final.meter.elapsed instant = Reading.limitNanos ∧
          final.reading instant = ⟨99, 59, 99⟩) ∧
        (final.meter.running = true → ∀ instant, final.ForcesStop instant) := by
  refine ⟨forcesStop_iff watch now, ?_, ?_⟩
  · intro forced
    obtain ⟨runs, reached⟩ := (forcesStop_iff watch now).mp forced
    rw [meter_refresh, meter_press, meter_halt,
      Meter.stopAtLimit_reached watch.meter now runs reached, runs]
    exact ⟨rfl, rfl⟩
  · intro op later stops kept final
    have latched : final.meter.Latched :=
      latched_run _ later (stopsAtLimit_latched watch now op stops) kept
    refine ⟨?_, ?_⟩
    · intro instant
      refine ⟨latched.elapsed instant, ?_⟩
      rw [reading, Meter.reading, latched.elapsed instant]
      rfl
    · intro runs instant
      rw [forcesStop_iff, latched.elapsed instant]
      exact ⟨runs, UInt64.le_refl _⟩

/-- Stopped by a round past the limit, then started again on a clock that went back. -/
theorem limit_latches_restarted :
    let watch := (({} : Stopwatch).run [(7, .press .run)]).1
    let later : List (UInt64 × WatchOp) := [(6000000000000, .press .replay), (2, .press .run)]
    let stopped := (watch.step 6000000000000 .refresh).1
    watch.StopsAtLimit 6000000000000 .refresh ∧
      Avoids (fun state _ op => AcceptsReset state op) stopped later ∧
      (stopped.run later).1.meter.running = true ∧
      (stopped.run later).1.reading 1 = ⟨99, 59, 99⟩ ∧ (stopped.run later).1.ForcesStop 1 := by
  intro watch later stopped
  have stops : watch.StopsAtLimit 6000000000000 .refresh :=
    ⟨by decide, by decide, by decide⟩
  have kept : Avoids (fun state _ op => AcceptsReset state op) stopped later := by
    simp [later, Avoids, Throughout, AcceptsReset]
  obtain ⟨shows, forces⟩ := (limit_latches watch 6000000000000).2.2 .refresh later stops kept
  exact ⟨stops, kept, by decide, (shows 1).2, forces (by decide) 1⟩

end Stopwatch

end LapTimer
