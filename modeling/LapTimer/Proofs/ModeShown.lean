import LapTimer.Proofs.UnseenReaders
import LapTimer.Settings

/-! The lap mode shows in a replay and nowhere else: in the reading that a step has for the
face. -/

namespace LapTimer

/-- The result with the reading of a replayed lap put away. -/
def WatchResult.unshown : WatchResult → WatchResult
  | .replay (.lap _) => .replay (.lap .zero)
  | result => result

def WatchOp.setsMode : WatchOp → Bool
  | .setMode _ => true
  | _ => false

namespace Stopwatch

theorem addLap_setMode (watch : Stopwatch) (mode : LapMode) (time : Reading) :
    (watch.setMode mode).addLap time =
      ((watch.addLap time).1.setMode mode, (watch.addLap time).2) := by
  have book : (watch.setMode mode).book = watch.book := rfl
  unfold addLap
  rw [book]
  cases watch.book.capture time <;> rfl

theorem reset_setMode (watch : Stopwatch) (mode : LapMode) (now : UInt64) :
    (watch.setMode mode).reset now = ((watch.reset now).1.setMode mode, (watch.reset now).2) := by
  have active : (watch.setMode mode).replay.active = watch.replay.active := rfl
  have reads : (watch.setMode mode).reading now = watch.reading now := rfl
  simp only [reset, active, reads]
  split
  · have added := addLap_setMode { watch with meter := watch.meter.reset.1, face := .zero } mode
      (watch.reading now)
    simp only [setMode] at added ⊢
    rw [added]
  · rfl

theorem press_setMode (watch : Stopwatch) (mode : LapMode) (now : UInt64) (key : Key) :
    (watch.setMode mode).press now key =
      ((watch.press now key).1.setMode mode, (watch.press now key).2) := by
  have running : (watch.setMode mode).meter.running = watch.meter.running := rfl
  have active : (watch.setMode mode).replay.active = watch.replay.active := rfl
  cases key with
  | run =>
      simp only [press, running]
      split <;> rfl
  | lap =>
      simp only [press, running]
      split
      · exact watch.addLap_setMode mode (watch.reading now)
      · rfl
  | replay =>
      simp only [press, active]
      split <;> rfl
  | reset =>
      simp only [press, running]
      split
      · rfl
      · exact watch.reset_setMode mode now

theorem refresh_setMode (watch : Stopwatch) (mode : LapMode) (now : UInt64) :
    (watch.setMode mode).refresh now =
      ((watch.refresh now).1.setMode mode, (watch.refresh now).2) := by
  have meter : (watch.setMode mode).meter = watch.meter := rfl
  simp only [refresh, meter]
  split
  · rfl
  · split <;> rfl

/-- The step goes the same way in any mode; a lap is shown in any mode or in none. -/
theorem stepReplay_setMode (watch : Stopwatch) (mode : LapMode) (session : UInt32)
    (now : UInt64) :
    (WatchResult.replay ((watch.setMode mode).stepReplay session now).2).unshown =
        (WatchResult.replay (watch.stepReplay session now).2).unshown ∧
      ((watch.setMode mode).stepReplay session now).1 =
        (watch.stepReplay session now).1.setMode mode := by
  have replay : (watch.setMode mode).replay = watch.replay := rfl
  have book : (watch.setMode mode).book = watch.book := rfl
  simp only [stepReplay, replay, book]
  split
  · exact ⟨rfl, rfl⟩
  · obtain ⟨book, shown⟩ := watch.book.replayNext
    cases shown with
    -- The only place where the mode is looked at, and only for the value.
    | some pair => exact ⟨rfl, rfl⟩
    | none => exact ⟨rfl, rfl⟩

theorem halt_setMode (watch : Stopwatch) (mode : LapMode) (now : UInt64) :
    (watch.setMode mode).halt now = ((watch.halt now).1.setMode mode, (watch.halt now).2) := by
  have meter : (watch.setMode mode).meter = watch.meter := rfl
  simp only [halt, meter]
  split <;> rfl

theorem step_setMode (watch : Stopwatch) (mode : LapMode) (now : UInt64) (op : WatchOp)
    (other : op.setsMode = false) :
    ((watch.setMode mode).step now op).2.unshown = (watch.step now op).2.unshown ∧
      ((watch.setMode mode).step now op).1 = (watch.step now op).1.setMode mode := by
  cases op with
  | press key =>
      simp only [step, watch.press_setMode mode now key, and_self]
  | refresh =>
      simp only [step, watch.refresh_setMode mode now, and_self]
  | stepReplay session => exact watch.stepReplay_setMode mode session now
  | halt =>
      simp only [step, watch.halt_setMode mode now, and_self]
  | setMode mode' => simp [WatchOp.setsMode] at other
  | _ => exact ⟨rfl, rfl⟩

/-- Misses the changes of the mode, the mode, and what is shown of a replayed lap. -/
def modeVeil : Veil Stopwatch (UInt64 × WatchOp) WatchResult where
  hushed entry := entry.2.setsMode
  state watch := watch.setMode .absolute
  result := WatchResult.unshown

theorem modeVeil_tight : modeVeil.Tight stepAt where
  missed watch entry hushed := by
    obtain ⟨now, op⟩ := entry
    cases op with
    | setMode mode => rfl
    | _ => simp [modeVeil, WatchOp.setsMode] at hushed
  others watch entry hushed := by
    obtain ⟨now, op⟩ := entry
    obtain ⟨told, moved⟩ := watch.step_setMode .absolute now op hushed
    exact ⟨told, congrArg (fun watch => watch.setMode .absolute) moved⟩

theorem eq_setMode_of_alike (watch watch' : Stopwatch)
    (alike : watch.setMode .absolute = watch'.setMode .absolute) :
    watch' = watch.setMode watch'.mode :=
  (congrArg (fun watch => watch.setMode watch'.mode) alike).symm

/-- Two runs that are the same but for the first mode and for changes of the mode, wherever
these fall, go the same. Every other operation has the same result in both, but for the
reading that a step of a replay has for the face, and leaves the same but for the mode. -/
theorem mode_seen_in_replay (settings : TimerSettings) (mode : LapMode)
    (ops others : List (UInt64 × WatchOp)) (same : modeVeil.heard ops = modeVeil.heard others) :
    let watch := settings.watch
    let watch' := (settings.withMode mode).watch
    modeVeil.seen stepAt watch ops = modeVeil.seen stepAt watch' others ∧
      (watch'.run others).1 = (watch.run ops).1.setMode (watch'.run others).1.mode := by
  intro watch watch'
  obtain ⟨seen, alike⟩ := modeVeil_tight.same_seen watch watch' rfl ops others same
  exact ⟨seen, eq_setMode_of_alike _ _ alike⟩

/-- A reset and a change of the mode fall in the middle of a replay. The second lap is shown
with its time in one run and with its split in the other, and both runs end without laps. -/
theorem mode_seen_in_replay_reset :
    let watch := ({} : TimerSettings).watch
    let watch' := (({} : TimerSettings).withMode .split).watch
    let begun : List (UInt64 × WatchOp) :=
      [(0, .press .run), (5000000000, .press .lap), (7000000000, .press .lap),
        (8000000000, .press .run), (8000000000, .press .replay), (8000000000, .stepReplay 1),
        (9000000000, .press .reset)]
    let ended : List (UInt64 × WatchOp) :=
      [(11000000000, .stepReplay 1), (14000000000, .stepReplay 1), (17000000000, .stepReplay 1)]
    let ops := begun ++ (9000000000, .setMode .split) :: ended
    let others := (0, .setMode .absolute) :: begun ++ ended
    modeVeil.heard ops = modeVeil.heard others ∧
      (watch.run ops).2[8]? = some (.replay (.lap ⟨0, 2, 0⟩)) ∧
      (watch'.run others).2[8]? = some (.replay (.lap ⟨0, 7, 0⟩)) ∧
      (watch.run ops).1.book.laps = [] ∧
      modeVeil.seen stepAt watch ops = modeVeil.seen stepAt watch' others ∧
      (watch'.run others).1 = (watch.run ops).1.setMode .absolute := by
  intro watch watch' begun ended ops others
  have same : modeVeil.heard ops = modeVeil.heard others := by decide
  obtain ⟨seen, final⟩ := mode_seen_in_replay {} .split ops others same
  have last : (watch'.run others).1.mode = .absolute := by decide
  exact ⟨same, by decide, by decide, by decide, seen, final.trans (by rw [last])⟩

end Stopwatch

end LapTimer
