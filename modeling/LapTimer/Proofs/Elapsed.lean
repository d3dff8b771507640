import LapTimer.Meter
import LapTimer.Proofs.ReadingOrder

/-! The time a meter shows, in exact numbers: the banked time and the open segment together,
capped at the greatest reading. -/

namespace LapTimer.Meter

theorem toNat_min64 (a b : UInt64) : (min a b).toNat = min a.toNat b.toNat := by
  show (if a ≤ b then a else b).toNat = _
  by_cases le : a ≤ b
  · have := UInt64.le_iff_toNat_le.mp le
    rw [if_pos le, Nat.min_eq_left this]
  · have := UInt64.lt_iff_toNat_lt.mp (UInt64.not_le.mp le)
    rw [if_neg le, Nat.min_eq_right (Nat.le_of_lt this)]

-- The saturation of the sum lies above the cap, so it never shows.
theorem toNat_elapsed (meter : Meter) (now : UInt64) :
    (meter.elapsed now).toNat =
      min Reading.limitNanos.toNat
        (meter.banked.toNat +
          if meter.running then now.toNat - meter.openedAt.toNat else 0) := by
  have limit : Reading.limitNanos.toNat = 5999990000000 := rfl
  have word : UInt64.size = 18446744073709551616 := rfl
  unfold elapsed
  rw [toNat_min64]
  by_cases running : meter.running = true
  · simp only [running, ↓reduceIte, Saturating.toNat_add64, Saturating.toNat_sub64]
    omega
  · simp [running]

theorem elapsed_le (meter : Meter) (now : UInt64) : meter.elapsed now ≤ Reading.limitNanos := by
  rw [UInt64.le_iff_toNat_le, toNat_elapsed]
  exact Nat.min_le_left _ _

theorem running_start (meter : Meter) (now : UInt64) : (meter.start now).1.running = true := by
  unfold start
  split
  next runs => exact runs
  next => rfl

theorem running_stop (meter : Meter) (now : UInt64) : (meter.stop now).1.running = false := by
  unfold stop
  split
  next => rfl
  next rests => exact eq_false_of_ne_true rests

theorem running_reset (meter : Meter) : meter.reset.1.running = meter.running := by
  unfold reset
  split <;> rfl

theorem running_forced (meter : Meter) (now : UInt64)
    (forced : (meter.stopAtLimit now).2 = true) :
    (meter.stopAtLimit now).1.running = false := by
  unfold stopAtLimit at forced ⊢
  split
  next => rfl
  next idle => simp [idle] at forced

theorem elapsed_mono (meter : Meter) (now later : UInt64) (le : now ≤ later) :
    meter.elapsed now ≤ meter.elapsed later := by
  have := UInt64.le_iff_toNat_le.mp le
  rw [UInt64.le_iff_toNat_le, toNat_elapsed, toNat_elapsed]
  split <;> omega

theorem elapsed_resting (meter : Meter) (now later : UInt64) (rests : meter.running = false) :
    meter.elapsed later = meter.elapsed now := by
  simp [elapsed, rests]

theorem elapsed_stop (meter : Meter) (now later : UInt64) :
    (meter.stop now).1.elapsed later = meter.elapsed now := by
  by_cases running : meter.running = true
  · apply UInt64.toNat_inj.mp
    have bound := toNat_elapsed meter now
    rw [stop, if_pos running, toNat_elapsed]
    simp only [Bool.false_eq_true, ↓reduceIte]
    omega
  · rw [stop, if_neg running]
    exact elapsed_resting meter now later (eq_false_of_ne_true running)

theorem elapsed_start (meter : Meter) (now : UInt64) :
    (meter.start now).1.elapsed now = meter.elapsed now := by
  by_cases running : meter.running = true
  · rw [start, if_pos running]
  · apply UInt64.toNat_inj.mp
    rw [start, if_neg running, toNat_elapsed, toNat_elapsed]
    simp [running]

theorem elapsed_reset (meter : Meter) (now : UInt64) (rests : meter.running = false) :
    meter.reset.1.elapsed now = 0 := by
  simp [reset, elapsed, rests]
  rfl

/-- A forced stop leaves exactly the limit, which the meter had reached. -/
theorem elapsed_forced (meter : Meter) (now later : UInt64)
    (forced : (meter.stopAtLimit now).2 = true) :
    (meter.stopAtLimit now).1.elapsed later = Reading.limitNanos := by
  unfold stopAtLimit at forced ⊢
  split
  next => rfl
  next idle => simp [idle] at forced

/-- Whether or not it stops, a meter that looks for the limit shows the same time. -/
theorem elapsed_stopAtLimit (meter : Meter) (now : UInt64) :
    (meter.stopAtLimit now).1.elapsed now = meter.elapsed now := by
  by_cases forced : (meter.stopAtLimit now).2 = true
  · rw [elapsed_forced meter now now forced]
    unfold stopAtLimit at forced
    split at forced
    next reached =>
      have above : Reading.limitNanos ≤ meter.elapsed now := by
        simpa [reachedLimit] using (Bool.and_eq_true_iff.mp reached).2
      exact UInt64.le_antisymm above (meter.elapsed_le now)
    next => simp at forced
  · unfold stopAtLimit at forced ⊢
    split
    next reached => simp [reached] at forced
    next => rfl

theorem stopAtLimit_resting (meter : Meter) (now : UInt64) (rests : meter.running = false) :
    (meter.stopAtLimit now).1 = meter := by
  simp [stopAtLimit, rests]

theorem reading_resting (meter : Meter) (now later : UInt64) (rests : meter.running = false) :
    meter.reading later = meter.reading now := by
  rw [reading, reading, elapsed_resting meter now later rests]

theorem reading_reset (meter : Meter) (now : UInt64) (rests : meter.running = false) :
    meter.reset.1.reading now = .zero := by
  rw [reading, elapsed_reset meter now rests]
  rfl

theorem reading_forced (meter : Meter) (now later : UInt64)
    (forced : (meter.stopAtLimit now).2 = true) :
    (meter.stopAtLimit now).1.reading later = .greatest := by
  rw [reading, elapsed_forced meter now later forced]
  rfl

theorem reading_stop (meter : Meter) (now later : UInt64) :
    (meter.stop now).1.reading later = meter.reading now := by
  rw [reading, reading, elapsed_stop]

end LapTimer.Meter
