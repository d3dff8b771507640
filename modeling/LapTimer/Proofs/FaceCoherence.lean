import LapTimer.Settings
import LapTimer.Proofs.Devices
import LapTimer.Proofs.Turns

/-! What the face says. Writes of the time are left out during a replay, and the end of the
replay makes up for all of them with one. -/

namespace LapTimer.Instrument

variable {P L : Type} [Sink P Display.Write]

structure FaceFollows (faces : Registers P Display.Position UInt8) (unit : Instrument P L)
    (shown : Option Reading) : Prop where
  works : faces.Works unit.panel
  resting : unit.watch.meter.running = false → unit.watch.replay.active = false →
    Display.Shows faces unit.panel unit.reading
  replaying : ∀ value, unit.watch.replay.active = true → shown = some value →
    Display.Shows faces unit.panel value

-- The time is on the face and no replay keeps it from there.
theorem FaceFollows.written {faces : Registers P Display.Position UInt8}
    {next : Instrument P L} (shown : Option Reading) (r : Reading)
    (works : faces.Works next.panel) (live : next.watch.replay.active = false)
    (reads : next.reading = r) (shows : Display.Shows faces next.panel r) :
    FaceFollows faces next shown := by
  constructor
  · exact works
  · intro _ _
    rw [reads]
    exact shows
  · intro value replays
    exact absurd (live.symm.trans replays) Bool.false_ne_true

-- Where a replay goes on and the face is left alone, only the lap on show matters.
theorem FaceFollows.kept {faces : Registers P Display.Position UInt8}
    {unit next : Instrument P L} {shown : Option Reading}
    (follows : FaceFollows faces unit shown) (panel : next.panel = unit.panel)
    (replays : unit.watch.replay.active = true)
    (replays' : next.watch.replay.active = true) : FaceFollows faces next shown := by
  constructor
  · rw [panel]
    exact follows.works
  · intro _ live
    exact absurd (live.symm.trans replays') Bool.false_ne_true
  · intro value _ last
    rw [panel]
    exact follows.replaying value replays last

theorem FaceFollows.halted {faces : Registers P Display.Position UInt8}
    {unit next : Instrument P L} {shown : Option Reading} (r : Reading)
    (follows : FaceFollows faces unit shown)
    (active : next.watch.replay.active = unit.watch.replay.active)
    (reads : next.reading = r)
    (panel : next.panel = if unit.watch.replay.active then unit.panel
      else (Display.render unit.panel r).1) : FaceFollows faces next shown := by
  by_cases replays : unit.watch.replay.active = true
  · rw [if_pos replays] at panel
    exact follows.kept panel replays (active.trans replays)
  · rw [if_neg replays] at panel
    have works := Display.works_render faces unit.panel follows.works r
    have shows' := Display.shows_render faces unit.panel follows.works r
    rw [← panel] at works shows'
    exact written shown r works (active.trans (eq_false_of_ne_true replays)) reads shows'

variable [Sink L Switch]

theorem face_turned (faces : Registers P Display.Position UInt8)
    (unit next : Instrument P L) (shown shown' : Option Reading)
    (row : Turned unit shown next shown') (follows : FaceFollows faces unit shown) :
    FaceFollows faces next shown' := by
  have works := Display.works_render faces unit.panel follows.works
  have shows' := Display.shows_render faces unit.panel follows.works
  cases row with
  | quiet panel lamps meter active blinker =>
      constructor
      · rw [panel]
        exact follows.works
      · intro rests live
        rw [meter] at rests
        have same : next.reading = unit.reading := by
          show next.watch.meter.reading next.now = unit.watch.meter.reading unit.now
          rw [meter, Meter.reading_resting _ unit.now next.now rests]
        rw [panel, same]
        exact follows.resting rests (active.symm.trans live)
      · intro value replays
        rw [panel]
        exact follows.replaying value (active.symm.trans replays)
  | started rests =>
      constructor
      · exact follows.works
      · intro stopped
        have runs := Meter.running_start unit.watch.meter unit.now
        exact absurd (stopped.symm.trans runs) Bool.false_ne_true
      · exact follows.replaying
  | stopped runs =>
      have reads := Meter.reading_stop unit.watch.meter unit.now unit.now
      exact follows.halted unit.reading rfl reads rfl
  | forced reached =>
      have reads := Meter.reading_forced unit.watch.meter unit.now unit.now reached
      exact follows.halted .greatest rfl reads rfl
  | refreshed runs live => exact .written shown unit.reading (works _) live rfl (shows' _)
  | replayBegun live =>
      constructor
      · exact follows.works
      · intro _ left
        exact absurd left.symm Bool.false_ne_true
      · intro value _ last
        exact absurd last (by simp)
  | lapShown replays value =>
      constructor
      · exact works value
      · intro _ left
        exact absurd (left.symm.trans replays) Bool.false_ne_true
      · intro other _ last
        cases last
        exact shows' value
  | replayLeft replays => exact .written shown unit.reading (works _) rfl rfl (shows' _)
  | resetCleared rests live =>
      have reads := Meter.reading_reset unit.watch.meter unit.now rests
      exact .written shown .zero (works _) live reads (shows' _)
  | resetHeld rests replays active meter blinker => exact follows.kept rfl active replays
  | blinked => exact ⟨follows.works, follows.resting, follows.replaying⟩

/-- After a turn the face of a running stopwatch without a replay shows the time
that the stopwatch had before the turn, or the turn touched neither. -/
theorem running_turned (faces : Registers P Display.Position UInt8)
    (unit next : Instrument P L) (shown shown' : Option Reading)
    (row : Turned unit shown next shown') (follows : FaceFollows faces unit shown)
    (runs : next.watch.meter.running = true) (live : next.watch.replay.active = false) :
    (Display.Shows faces next.panel unit.reading ∧
        next.watch.meter.elapsed next.now = unit.watch.meter.elapsed unit.now) ∨
      (next.panel = unit.panel ∧ next.watch.meter = unit.watch.meter ∧
        unit.watch.replay.active = false) := by
  have shows' := Display.shows_render faces unit.panel follows.works
  cases row with
  | quiet panel lamps meter active blinker => exact .inr ⟨panel, meter, active.symm.trans live⟩
  | started rests =>
      exact .inl ⟨follows.resting rests live, Meter.elapsed_start unit.watch.meter unit.now⟩
  | stopped _ =>
      have rests := Meter.running_stop unit.watch.meter unit.now
      exact absurd (rests.symm.trans runs) Bool.false_ne_true
  | forced reached =>
      have rests := Meter.running_forced unit.watch.meter unit.now reached
      exact absurd (rests.symm.trans runs) Bool.false_ne_true
  | refreshed _ _ => exact .inl ⟨shows' unit.reading, rfl⟩
  | replayBegun _ => exact absurd live.symm Bool.false_ne_true
  | lapShown replays _ => exact absurd (live.symm.trans replays) Bool.false_ne_true
  | replayLeft _ => exact .inl ⟨shows' unit.reading, rfl⟩
  | resetCleared rests _ =>
      have rests := (Meter.running_reset unit.watch.meter).trans rests
      exact absurd (rests.symm.trans runs) Bool.false_ne_true
  | resetHeld _ replays _ _ _ => exact absurd (live.symm.trans replays) Bool.false_ne_true
  | blinked => exact .inr ⟨rfl, rfl, live⟩

theorem running_shows_earlier (faces : Registers P Display.Position UInt8)
    (start : Instrument P L) (first : FaceFollows faces start none)
    (rests : start.watch.meter.running = false) (turns : List Turn)
    (runs : (start.after turns).watch.meter.running = true)
    (live : (start.after turns).watch.replay.active = false) :
    ∃ earlier, earlier <+: turns ∧ earlier.length < turns.length ∧
      Display.Shows faces (start.after turns).panel (start.after earlier).reading ∧
      (ClockForward start turns →
        (start.after earlier).watch.meter.elapsed (start.after earlier).now ≤
          (start.after turns).watch.meter.elapsed (start.after turns).now) := by
  induction turns using List.reverseRecOn with
  | nil => exact absurd (rests.symm.trans runs) Bool.false_ne_true
  | append_singleton turns turn ih =>
      have before : turns <+: turns ++ [turn] := ⟨[turn], rfl⟩
      have shorter : turns.length < (turns ++ [turn]).length := by simp
      have follows := turns_keep (FaceFollows faces) (face_turned faces) start first turns
      have row := snoc_turned start turns turn
      rcases running_turned faces _ _ _ _ row follows runs live with
        ⟨shows', elapsed⟩ | ⟨panel, meter, live'⟩
      · refine ⟨turns, before, shorter, shows', ?_⟩
        intro _
        rw [elapsed]
        exact UInt64.le_refl _
      · rw [meter] at runs
        obtain ⟨earlier, held, length, shows', bounded⟩ := ih runs live'
        refine ⟨earlier, held.trans before, Nat.lt_trans length shorter, ?_, ?_⟩
        · rw [panel]
          exact shows'
        · intro forward
          obtain ⟨forward, moved⟩ := clockForward_snoc start turns turn forward
          rw [meter]
          exact UInt64.le_trans (bounded forward) (Meter.elapsed_mono _ _ _ moved)

/-- After any turns in any order: a stopped stopwatch without a replay has its time
on the face, which is dark at zero; a replay that has shown a lap has the last one
there; a running stopwatch without a replay has a time there that it had at an
earlier point of the run, and that is no later than its time now unless the clock
was moved back. -/
theorem face_follows (faces : Registers P Display.Position UInt8)
    (settings : TimerSettings) (now : UInt64) (panel : P) (lamps : L)
    (works : faces.Works panel)
    (dark : ∀ position, faces.value panel position = Display.off) (turns : List Turn) :
    let start : Instrument P L := { watch := settings.watch, now, panel, lamps }
    let final := start.after turns
    (final.watch.meter.running = false → final.watch.replay.active = false →
        Display.Shows faces final.panel final.reading ∧
          (final.reading = .zero →
            ∀ position, faces.value final.panel position = Display.off)) ∧
      (∀ value, final.watch.replay.active = true → start.shownAfter turns = some value →
        Display.Shows faces final.panel value) ∧
      (final.watch.meter.running = true → final.watch.replay.active = false →
        ∃ earlier, earlier <+: turns ∧ earlier.length < turns.length ∧
          Display.Shows faces final.panel (start.after earlier).reading ∧
          (ClockForward start turns → (start.after earlier).reading ≤ final.reading)) := by
  intro start final
  have blank := (Display.shows_zero_iff faces panel).mpr dark
  have zero : start.reading = .zero := Meter.reading_reset {} now rfl
  have first : FaceFollows faces start none := .written none .zero works rfl zero blank
  have follows : FaceFollows faces final (start.shownAfter turns) :=
    turns_keep (FaceFollows faces) (face_turned faces) start first turns
  refine ⟨?_, follows.replaying, ?_⟩
  · intro rests live
    have shows' := follows.resting rests live
    refine ⟨shows', ?_⟩
    intro zero
    rw [zero] at shows'
    exact (Display.shows_zero_iff faces final.panel).mp shows'
  · intro runs live
    obtain ⟨earlier, held, length, shows', bounded⟩ :=
      running_shows_earlier faces start first rfl turns runs live
    refine ⟨earlier, held, length, shows', ?_⟩
    intro forward
    exact Reading.ofNanos_mono _ _ (bounded forward)

/-- A running face that is not up to date; then a stop during a replay, whose end
brings the time back. -/
theorem face_follows_stop :
    let lapped : List Turn := [.press .run, .moveClock (.advanceSeconds 1), .renderRound,
      .press .lap, .moveClock (.advanceSeconds 1)]
    let stopped := lapped ++ [.press .replay, .replayRound 1, .press .run]
    let start : Instrument Display.Panel LampBank :=
      { watch := ({} : TimerSettings).watch, panel := {}, lamps := {} }
    let faces := Display.Panel.registers
    faces.Works start.panel ∧
      (∀ position, faces.value start.panel position = Display.off) ∧
      ClockForward start lapped ∧
      (∃ earlier, earlier <+: lapped ∧ earlier.length < lapped.length ∧
        Display.Shows faces (start.after lapped).panel (start.after earlier).reading ∧
        (start.after earlier).reading ≤ ⟨0, 2, 0⟩) ∧
      Display.Shows faces (start.after stopped).panel ⟨0, 1, 0⟩ ∧
      Display.Shows faces (start.after (stopped ++ [.press .replay])).panel ⟨0, 2, 0⟩ := by
  intro lapped stopped start faces
  have works : faces.Works start.panel := rfl
  have dark : ∀ position, faces.value start.panel position = Display.off := by
    intro position
    cases position <;> rfl
  have forward : ClockForward start lapped :=
    ⟨by decide, by decide, by decide, by decide, by decide, trivial⟩
  have follows := face_follows faces {} 0 {} ({} : LampBank) works dark
  have time : (start.after lapped).reading = ⟨0, 2, 0⟩ := by decide
  have time' : (start.after (stopped ++ [.press .replay])).reading = ⟨0, 2, 0⟩ := by decide
  obtain ⟨earlier, held, length, shows', bounded⟩ :=
    (follows lapped).2.2 (by decide) (by decide)
  have replayed := (follows stopped).2.1 ⟨0, 1, 0⟩ (by decide) (by decide)
  have ended := ((follows (stopped ++ [.press .replay])).1 (by decide) (by decide)).1
  refine ⟨works, dark, forward, ⟨earlier, held, length, shows', ?_⟩, replayed, ?_⟩
  · rw [← time]
    exact bounded forward
  · rw [← time']
    exact ended

end LapTimer.Instrument
