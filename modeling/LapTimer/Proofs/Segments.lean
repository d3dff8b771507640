import LapTimer.Proofs.Elapsed
import LapTimer.Proofs.Runs
import Mathlib.Algebra.GroupWithZero.Nat

/-! Running time as segments. A track notes each segment since the last reset and sums up their
exact lengths; every run of a meter, which holds capped times in one word, follows its track.
-/

namespace LapTimer

structure Segment where
  opened : UInt64
  closed : UInt64
  deriving DecidableEq, Repr

/-- A segment in which the clock went back has no length. -/
def Segment.length (segment : Segment) : Nat := segment.closed.toNat - segment.opened.toNat

structure Track where
  closed : List Segment := []
  opened : Option UInt64 := none
  deriving DecidableEq, Repr

namespace Track

def banked (track : Track) : Nat := (track.closed.map Segment.length).sum

/-- The length of all segments, where the open one lasts until now. -/
def time (track : Track) (now : UInt64) : Nat :=
  match track.opened with
  | some start => track.banked + (Segment.mk start now).length
  | none => track.banked

def close (track : Track) (now : UInt64) : Track × Bool :=
  match track.opened with
  | some start => ({ closed := track.closed ++ [⟨start, now⟩], opened := none }, true)
  | none => (track, false)

/-- What an operation does to the segments, and whether it is accepted. -/
def step (track : Track) (now : UInt64) : MeterOp → Track × Bool
  | .start =>
      if track.opened.isSome then (track, false) else ({ track with opened := some now }, true)
  | .stop => track.close now
  | .reset => if track.opened.isSome then (track, false) else ({}, true)
  | .stopAtLimit =>
      if Reading.limitNanos.toNat ≤ track.time now then track.close now else (track, false)

abbrev run (track : Track) (ops : List (UInt64 × MeterOp)) : Track :=
  (runBy (timed step) track ops).1

end Track

namespace Meter

structure Follows (meter : Meter) (track : Track) : Prop where
  running : meter.running = track.opened.isSome
  opened : ∀ start, track.opened = some start → meter.openedAt = start
  banked : meter.banked.toNat = min Reading.limitNanos.toNat track.banked

theorem follows_new : Follows {} {} := by
  constructor
  · rfl
  · intro start opened
    simp at opened
  · rfl

/-- Capping the banked time before the open segment is added makes no difference. -/
theorem Follows.time {meter : Meter} {track : Track} (follows : meter.Follows track)
    (now : UInt64) :
    (meter.elapsed now).toNat = min Reading.limitNanos.toNat (track.time now) := by
  rw [toNat_elapsed, follows.running, follows.banked, Track.time]
  cases stands : track.opened with
  | none =>
      simp only [Option.isSome_none, Bool.false_eq_true, ↓reduceIte]
      omega
  | some start =>
      simp only [Option.isSome_some, ↓reduceIte, Segment.length, follows.opened start stands]
      omega

theorem Follows.reachedLimit {meter : Meter} {track : Track} (follows : meter.Follows track)
    (now : UInt64) :
    meter.reachedLimit now = true ↔ Reading.limitNanos.toNat ≤ track.time now := by
  have shown := follows.time now
  rw [Meter.reachedLimit, decide_eq_true_iff, UInt64.le_iff_toNat_le]
  omega

theorem Follows.runs {meter : Meter} {track : Track} (follows : meter.Follows track)
    (start : UInt64) (stands : track.opened = some start) : meter.running = true := by
  rw [follows.running, stands, Option.isSome_some]

theorem Follows.rests {meter : Meter} {track : Track} (follows : meter.Follows track)
    (stands : track.opened = none) : meter.running = false := by
  rw [follows.running, stands, Option.isSome_none]

/-- Whichever way the open segment is closed, what is banked is the capped time. -/
theorem follows_closed (meter : Meter) (track : Track) (start now banked : UInt64)
    (stands : track.opened = some start)
    (capped : banked.toNat = min Reading.limitNanos.toNat (track.time now)) :
    Follows { meter with banked, running := false } (track.close now).1 := by
  rw [Track.time, stands] at capped
  simp only [Track.close, stands]
  constructor
  · rfl
  · intro other opened
    simp at opened
  · simpa [Track.banked] using capped

theorem follows_start (meter : Meter) (track : Track) (now : UInt64)
    (follows : meter.Follows track) :
    (meter.start now).1.Follows (track.step now .start).1 ∧
      (meter.start now).2 = (track.step now .start).2 := by
  cases stands : track.opened with
  | some begun =>
      simp only [start, follows.runs begun stands, Track.step, stands, Option.isSome_some,
        ↓reduceIte, and_true]
      exact follows
  | none =>
      simp only [start, follows.rests stands, Track.step, stands, Option.isSome_none,
        Bool.false_eq_true, ↓reduceIte, and_true]
      constructor
      · rfl
      · rintro begun ⟨⟩
        rfl
      · exact follows.banked

theorem follows_stop (meter : Meter) (track : Track) (now : UInt64)
    (follows : meter.Follows track) :
    (meter.stop now).1.Follows (track.close now).1 ∧
      (meter.stop now).2 = (track.close now).2 := by
  cases stands : track.opened with
  | some begun =>
      have closed := follows_closed meter track begun now _ stands (follows.time now)
      have accepted : (track.close now).2 = true := by simp [Track.close, stands]
      simp only [stop, follows.runs begun stands, ↓reduceIte]
      exact ⟨closed, accepted.symm⟩
  | none =>
      simp only [stop, follows.rests stands, Track.close, stands, Bool.false_eq_true,
        ↓reduceIte, and_true]
      exact follows

theorem follows_reset (meter : Meter) (track : Track) (now : UInt64)
    (follows : meter.Follows track) :
    meter.reset.1.Follows (track.step now .reset).1 ∧
      meter.reset.2 = (track.step now .reset).2 := by
  cases stands : track.opened with
  | some begun =>
      simp only [reset, follows.runs begun stands, Track.step, stands, Option.isSome_some,
        ↓reduceIte, and_true]
      exact follows
  | none =>
      simp only [reset, follows.rests stands, Track.step, stands, Option.isSome_none,
        Bool.false_eq_true, ↓reduceIte, and_true]
      constructor
      · rfl
      · intro begun opened
        simp at opened
      · rfl

theorem follows_stopAtLimit (meter : Meter) (track : Track) (now : UInt64)
    (follows : meter.Follows track) :
    (meter.stopAtLimit now).1.Follows (track.step now .stopAtLimit).1 ∧
      (meter.stopAtLimit now).2 = (track.step now .stopAtLimit).2 := by
  have limit := follows.reachedLimit now
  cases stands : track.opened with
  | some begun =>
      by_cases reached : meter.reachedLimit now = true
      · have long := limit.mp reached
        have closed := follows_closed meter track begun now Reading.limitNanos stands (by omega)
        have accepted : (track.close now).2 = true := by simp [Track.close, stands]
        simp only [stopAtLimit, follows.runs begun stands, reached, Bool.and_self, ↓reduceIte,
          Track.step, long]
        exact ⟨closed, accepted.symm⟩
      · have short := mt limit.mpr reached
        simp only [stopAtLimit, reached, Bool.and_false, Bool.false_eq_true, ↓reduceIte,
          Track.step, short, and_true]
        exact follows
  | none =>
      have still : track.close now = (track, false) := by simp [Track.close, stands]
      simp only [stopAtLimit, follows.rests stands, Bool.false_and, Bool.false_eq_true,
        ↓reduceIte, Track.step, still, ite_self, and_true]
      exact follows

theorem follows_step (meter : Meter) (track : Track) (now : UInt64) (op : MeterOp)
    (follows : meter.Follows track) :
    (meter.step now op).1.Follows (track.step now op).1 ∧
      (meter.step now op).2 = (track.step now op).2 := by
  cases op with
  | start => exact follows_start meter track now follows
  | stop => exact follows_stop meter track now follows
  | reset => exact follows_reset meter track now follows
  | stopAtLimit => exact follows_stopAtLimit meter track now follows

theorem follows_run (meter : Meter) (track : Track) (ops : List (UInt64 × MeterOp))
    (follows : meter.Follows track) : (meter.run ops).Follows (track.run ops) := by
  have each (meter : Meter) (track : Track) (entry : UInt64 × MeterOp)
      (follows : meter.Follows track) := follows_step meter track entry.1 entry.2 follows
  exact (runBy_matched Follows each meter track follows ops).1

end Meter

/-- The instants of a run go forward, from a first one to a last one. -/
def Forward {α : Type} (first : UInt64) : List (UInt64 × α) → UInt64 → Prop
  | [], last => first ≤ last
  | (now, _) :: rest, last => first ≤ now ∧ Forward now rest last

namespace Meter

/-- No reset of the run is accepted. -/
def Unreset (meter : Meter) (ops : List (UInt64 × MeterOp)) : Prop :=
  Throughout (timed step) (fun meter entry =>
    ¬ (entry.2 = .reset ∧ (meter.step entry.1 entry.2).2 = true)) meter ops

theorem reset_refused (meter : Meter) (refused : ¬ meter.reset.2 = true) :
    meter.reset.1 = meter := by
  unfold reset at refused ⊢
  split
  next => rfl
  next rests => simp [rests] at refused

/-- An operation moves the clock of the meter on, not its time. -/
theorem elapsed_step (meter : Meter) (now : UInt64) (op : MeterOp)
    (kept : ¬ (op = .reset ∧ (meter.step now op).2 = true)) :
    (meter.step now op).1.elapsed now = meter.elapsed now := by
  cases op with
  | start => exact elapsed_start meter now
  | stop => exact elapsed_stop meter now now
  | reset =>
      have same := reset_refused meter fun accepted => kept ⟨rfl, accepted⟩
      simp only [step, same]
  | stopAtLimit => exact elapsed_stopAtLimit meter now

theorem elapsed_run_mono (meter : Meter) (first last : UInt64)
    (ops : List (UInt64 × MeterOp)) (forward : Forward first ops last)
    (unreset : meter.Unreset ops) : meter.elapsed first ≤ (meter.run ops).elapsed last := by
  induction ops generalizing meter first with
  | nil => exact elapsed_mono meter first last forward
  | cons entry rest ih =>
      obtain ⟨now, op⟩ := entry
      calc meter.elapsed first
        _ ≤ meter.elapsed now := elapsed_mono meter first now forward.1
        _ = (meter.step now op).1.elapsed now := (elapsed_step meter now op unreset.1).symm
        _ ≤ (meter.run ((now, op) :: rest)).elapsed last := ih _ now forward.2 unreset.2

theorem step_resting (meter : Meter) (now : UInt64) (op : MeterOp)
    (rests : meter.running = false) (unstarted : op ≠ .start)
    (kept : ¬ (op = .reset ∧ (meter.step now op).2 = true)) :
    (meter.step now op).1 = meter := by
  cases op with
  | start => exact absurd rfl unstarted
  | stop => simp [step, stop, rests]
  | reset => exact reset_refused meter fun accepted => kept ⟨rfl, accepted⟩
  | stopAtLimit => exact stopAtLimit_resting meter now rests

theorem run_resting (meter : Meter) (ops : List (UInt64 × MeterOp))
    (rests : meter.running = false) (unstarted : ∀ entry ∈ ops, entry.2 ≠ .start)
    (unreset : meter.Unreset ops) : meter.run ops = meter := by
  induction ops with
  | nil => rfl
  | cons entry rest ih =>
      obtain ⟨now, op⟩ := entry
      have same := step_resting meter now op rests (unstarted _ List.mem_cons_self) unreset.1
      have later : (meter.step now op).1.Unreset rest := unreset.2
      rw [same] at later
      show (meter.step now op).1.run rest = meter
      rw [same]
      exact ih (fun entry member => unstarted entry (List.mem_cons_of_mem _ member)) later

/-- After every run, at every instant, a meter shows the exact length of the segments
since the last accepted reset, capped at the greatest reading, and it accepts what its
track accepts. Without an accepted reset and on a clock that goes forward its time never
decreases; it stands still while the meter is stopped; and no start or stop makes it jump. -/
theorem elapsed_sums_segments (ops : List (UInt64 × MeterOp)) :
    let meter := ({} : Meter).run ops
    let track := ({} : Track).run ops
    (∀ now, (meter.elapsed now).toNat = min Reading.limitNanos.toNat (track.time now)) ∧
      meter.running = track.opened.isSome ∧
      (∀ now op, (meter.step now op).2 = (track.step now op).2) ∧
      (∀ first last more, Forward first more last → meter.Unreset more →
        meter.elapsed first ≤ (meter.run more).elapsed last) ∧
      (∀ first last more, meter.running = false → (∀ entry ∈ more, entry.2 ≠ .start) →
        meter.Unreset more → (meter.run more).elapsed last = meter.elapsed first) ∧
      ∀ now op, op ≠ .reset → (meter.step now op).1.elapsed now = meter.elapsed now := by
  intro meter track
  have follows : meter.Follows track := follows_run {} {} ops follows_new
  refine ⟨follows.time, follows.running, ?_, ?_, ?_, ?_⟩
  · intro now op
    exact (follows_step meter track now op follows).2
  · intro first last more forward unreset
    exact elapsed_run_mono meter first last more forward unreset
  · intro first last more rests unstarted unreset
    rw [run_resting meter more rests unstarted unreset]
    exact elapsed_resting meter first last rests
  · intro now op other
    exact elapsed_step meter now op fun accepted => other accepted.1

/-- The clock goes back in the first segment, and the second is closed at the limit. -/
theorem elapsed_sums_segments_limit :
    let ops : List (UInt64 × MeterOp) := [(5, .start), (2, .stop), (10, .start)]
    let more : List (UInt64 × MeterOp) := [(7000000000000, .stopAtLimit), (7000000000001, .start)]
    let meter := ({} : Meter).run ops
    Forward 12 more 7000000000002 ∧ meter.Unreset more ∧ (({} : Track).run ops).time 12 = 2 ∧
      (meter.elapsed 12).toNat = min Reading.limitNanos.toNat 2 ∧
      meter.elapsed 12 ≤ (meter.run more).elapsed 7000000000002 ∧
      (meter.run more).elapsed 7000000000002 = Reading.limitNanos := by
  intro ops more meter
  have forward : Forward 12 more 7000000000002 := by simp [more, Forward]
  have unreset : meter.Unreset more := by simp [more, Unreset, Throughout]
  obtain ⟨sum, -, -, grows, -, -⟩ := elapsed_sums_segments ops
  exact ⟨forward, unreset, by decide, sum 12, grows 12 _ more forward unreset, by decide⟩

end Meter

end LapTimer
