import LapTimer.Settings
import LapTimer.Proofs.Devices
import LapTimer.Proofs.Turns

/-! What the lamps say. After every turn they agree with the stopwatch, whether or not the
panel takes its writes. -/

namespace LapTimer

/-- A blinker without a countdown has nothing left to toggle and its lamp is off. -/
def Blinker.Settled (blinker : Blinker) : Prop :=
  blinker.active = false → blinker.remaining = 0 ∧ blinker.lit = false

theorem Blinker.lit_armed (before after : Blinker) (armed : before.Armed after) :
    after.lit = before.lit := by
  rcases armed with rfl | ⟨toggles, rfl⟩
  · rfl
  · rfl

theorem Blinker.settled_armed (before after : Blinker) (armed : before.Armed after)
    (settled : before.Settled) : after.Settled := by
  rcases armed with rfl | ⟨toggles, rfl⟩
  · exact settled
  · intro idle
    simp [arm] at idle

theorem Blinker.settled_tick (blinker : Blinker) (settled : blinker.Settled) :
    blinker.tick.1.Settled := by
  unfold tick
  split
  next left =>
      intro idle
      have none := (settled idle).1
      rw [none] at left
      exact absurd left (by decide)
  next spent =>
      intro _
      exact ⟨by simpa using spent, rfl⟩

theorem Blinker.Settled.active {blinker : Blinker} (settled : blinker.Settled)
    (left : 0 < blinker.remaining ∨ blinker.lit = true) : blinker.active = true := by
  by_contra idle
  obtain ⟨none, dark⟩ := settled (eq_false_of_ne_true idle)
  rcases left with remaining | lit
  · rw [none] at remaining
    exact absurd remaining (by decide)
  · exact Bool.false_ne_true (dark.symm.trans lit)

namespace Instrument

variable {P L : Type} [Sink L Switch]

structure LampsFollow (lights : Registers L Lamp Bool) (unit : Instrument P L)
    (shown : Option Reading) : Prop where
  works : lights.Works unit.lamps
  running : lights.value unit.lamps .running = unit.watch.meter.running
  replay : lights.value unit.lamps .replay = (unit.watch.replay.active && shown.isSome)
  lap : lights.value unit.lamps .lap = unit.watch.blinker.lit
  settled : unit.watch.blinker.Settled

theorem LampsFollow.switched_running {lights : Registers L Lamp Bool}
    {unit next : Instrument P L} {shown : Option Reading} (on : Bool)
    (follows : LampsFollow lights unit shown)
    (lamps : next.lamps = (Sink.put unit.lamps (.running, on)).1)
    (runs : next.watch.meter.running = on) (replay : next.watch.replay = unit.watch.replay)
    (blinker : next.watch.blinker = unit.watch.blinker) : LampsFollow lights next shown := by
  have other := lights.value_put_other unit.lamps follows.works .running on
  constructor
  · rw [lamps]
    exact lights.works_put unit.lamps _ follows.works
  · rw [lamps, runs]
    exact lights.value_put_same unit.lamps follows.works .running on
  · rw [lamps, replay, other .replay (by decide)]
    exact follows.replay
  · rw [lamps, blinker, other .lap (by decide)]
    exact follows.lap
  · rw [blinker]
    exact follows.settled

theorem LampsFollow.switched_replay {lights : Registers L Lamp Bool}
    {unit next : Instrument P L} {shown shown' : Option Reading} (on : Bool)
    (follows : LampsFollow lights unit shown)
    (lamps : next.lamps = (Sink.put unit.lamps (.replay, on)).1)
    (meter : next.watch.meter = unit.watch.meter)
    (replays : (next.watch.replay.active && shown'.isSome) = on)
    (blinker : next.watch.blinker = unit.watch.blinker) : LampsFollow lights next shown' := by
  have other := lights.value_put_other unit.lamps follows.works .replay on
  constructor
  · rw [lamps]
    exact lights.works_put unit.lamps _ follows.works
  · rw [lamps, meter, other .running (by decide)]
    exact follows.running
  · rw [lamps, replays]
    exact lights.value_put_same unit.lamps follows.works .replay on
  · rw [lamps, blinker, other .lap (by decide)]
    exact follows.lap
  · rw [blinker]
    exact follows.settled

variable [Sink P Display.Write]

theorem lamps_turned (lights : Registers L Lamp Bool) (unit next : Instrument P L)
    (shown shown' : Option Reading) (row : Turned unit shown next shown')
    (follows : LampsFollow lights unit shown) : LampsFollow lights next shown' := by
  have ⟨works, running, replay, lap, settled⟩ := follows
  cases row with
  | quiet panel lamps meter active blinker =>
      constructor
      · rwa [lamps]
      · rwa [lamps, meter]
      · rwa [lamps, active]
      · rwa [lamps, Blinker.lit_armed _ _ blinker]
      · exact Blinker.settled_armed _ _ blinker settled
  | started rests => exact follows.switched_running true rfl (Meter.running_start _ _) rfl rfl
  | stopped runs => exact follows.switched_running false rfl (Meter.running_stop _ _) rfl rfl
  | forced reached =>
      have rests := Meter.running_forced unit.watch.meter unit.now reached
      exact follows.switched_running false rfl rests rfl rfl
  | refreshed runs live => exact ⟨works, running, replay, lap, settled⟩
  | replayBegun live =>
      -- No replay was on before, so its lamp is off; the new one has shown nothing.
      have off : lights.value unit.lamps .replay = false := by simp [replay, live]
      exact ⟨works, running, off, lap, settled⟩
  | lapShown replays value =>
      exact follows.switched_replay true rfl rfl (by simp [replays]) rfl
  | replayLeft replays => exact follows.switched_replay false rfl rfl rfl rfl
  | resetCleared rests live =>
      exact ⟨works, running.trans (Meter.running_reset _).symm, replay, lap, settled⟩
  | resetHeld rests replays active meter blinker =>
      constructor
      · exact works
      · exact running.trans (by rw [meter, Meter.running_reset])
      · exact replay.trans (by rw [active, replays])
      · exact lap.trans (Blinker.lit_armed _ _ blinker).symm
      · exact Blinker.settled_armed _ _ blinker settled
  | blinked =>
      have other := lights.value_put_other unit.lamps works .lap unit.watch.blink.1.blinker.lit
      constructor
      · exact lights.works_put unit.lamps _ works
      · exact (other .running (by decide)).trans running
      · exact (other .replay (by decide)).trans replay
      · exact lights.value_put_same unit.lamps works .lap _
      · exact Blinker.settled_tick _ settled

/-- After any turns in any order the running lamp is on exactly while the meter
runs, the replay lamp exactly while there is a replay that has shown a lap, and the
lap lamp is as the blinker has it, which is off where no countdown is on. -/
theorem lamps_follow (lights : Registers L Lamp Bool) (settings : TimerSettings)
    (now : UInt64) (panel : P) (lamps : L) (works : lights.Works lamps)
    (off : ∀ lamp, lights.value lamps lamp = false) (turns : List Turn) :
    let start : Instrument P L := { watch := settings.watch, now, panel, lamps }
    let final := start.after turns
    (lights.value final.lamps .running = true ↔ final.watch.meter.running = true) ∧
      (lights.value final.lamps .replay = true ↔
        final.watch.replay.active = true ∧ (start.shownAfter turns).isSome = true) ∧
      lights.value final.lamps .lap = final.watch.blinker.lit ∧
      (final.watch.blinker.active = false → lights.value final.lamps .lap = false) := by
  intro start final
  have first : LampsFollow lights start none :=
    ⟨works, off .running, off .replay, off .lap, fun _ => ⟨rfl, rfl⟩⟩
  have follows : LampsFollow lights final (start.shownAfter turns) :=
    turns_keep (LampsFollow lights) (lamps_turned lights) start first turns
  refine ⟨?_, ?_, follows.lap, ?_⟩
  · rw [follows.running]
  · rw [follows.replay, Bool.and_eq_true]
  · intro idle
    rw [follows.lap]
    exact (follows.settled idle).2

/-- A lap is captured, then its replay begun and shown. -/
theorem lamps_follow_replay :
    let turns : List Turn := [.press .run, .moveClock (.advanceSeconds 1), .press .lap,
      .blinkRound, .press .replay, .replayRound 1]
    let start : Instrument Display.Panel LampBank :=
      { watch := ({} : TimerSettings).watch, panel := {}, lamps := {} }
    let final := start.after turns
    LampBank.registers.Works start.lamps ∧
      (∀ lamp, LampBank.registers.value start.lamps lamp = false) ∧
      (final.lamps.replay = true ↔
        final.watch.replay.active = true ∧ (start.shownAfter turns).isSome = true) ∧
      start.shownAfter turns = some ⟨0, 1, 0⟩ ∧
      final.lamps.running = true ∧ final.lamps.replay = true ∧ final.lamps.lap = true := by
  intro turns start final
  have works : LampBank.registers.Works start.lamps := rfl
  have off : ∀ lamp, LampBank.registers.value start.lamps lamp = false := by
    intro lamp
    cases lamp <;> rfl
  have follows := lamps_follow LampBank.registers {} 0 ({} : Display.Panel) {} works off turns
  exact ⟨works, off, follows.2.1, by decide, by decide, by decide, by decide⟩

end Instrument

end LapTimer
