import LapTimer.Proofs.NextRound
import LapTimer.Proofs.Rounds

/-! The stages of a replay on the agenda. A replay that goes on has the step for its place
there; after one that is over the render worker goes on from the time on the face. -/

namespace LapTimer

variable {P L : Type}

/-- What a replay was begun with, and when. -/
structure ReplayPlan where
  start : Nat
  pause : Nat
  session : UInt32
  laps : List Lap
  mode : LapMode
  meter : Meter

namespace ReplayPlan

/-- The instant of a step. -/
def stepAt (plan : ReplayPlan) (place : Nat) : Nat := plan.start + place * plan.pause

/-- The instant of the step past the last lap. -/
def endsAt (plan : ReplayPlan) : Nat := plan.stepAt plan.laps.length

def value (plan : ReplayPlan) (place : Nat) (lap : Lap) : Reading :=
  plan.mode.value lap.time (if place = 0 then none else plan.laps[place - 1]?.map (·.time))

variable [Sink P Display.Write] [Sink L Switch]

/-- The replay goes on and its next step is the one for the lap at a place. -/
structure Underway (faces : Registers P Display.Position UInt8)
    (lights : Registers L Lamp Bool) (plan : ReplayPlan) (place : Nat)
    (keeper : Timekeeper P L) : Prop where
  stands : Stopwatch.AtPlace plan.session plan.laps place plan.laps.length
    keeper.crew.unit.watch
  laps : keeper.crew.unit.watch.book.laps = plan.laps
  mode : keeper.crew.unit.watch.mode = plan.mode
  meter : keeper.crew.unit.watch.meter.running = true →
    keeper.crew.unit.watch.meter = plan.meter
  reached : place ≤ plan.laps.length
  next : keeper.NextRound (.stepper plan.session) (plan.stepAt place)
  since : plan.stepAt place ≤ keeper.millis + plan.pause
  shows : ∀ shown, place = shown + 1 → ∃ lap, plan.laps[shown]? = some lap ∧
    Display.Shows faces keeper.crew.unit.panel (plan.value shown lap) ∧
    lights.value keeper.crew.unit.lamps .replay = true

/-- The replay is over. A meter that runs has run all the time, and the face shows what it
read at the end of the replay or at the last round of the render worker after that. -/
structure Ended (faces : Registers P Display.Position UInt8)
    (lights : Registers L Lamp Bool) (settings : TimerSettings) (plan : ReplayPlan)
    (keeper : Timekeeper P L) : Prop where
  live : keeper.crew.unit.watch.replay.active = false
  unlit : lights.value keeper.crew.unit.lamps .replay = false
  past : plan.endsAt ≤ keeper.millis
  meter : keeper.crew.unit.watch.meter.running = true →
    keeper.crew.unit.watch.meter = plan.meter
  resting : keeper.crew.unit.watch.meter.running = false →
    Display.Shows faces keeper.crew.unit.panel keeper.crew.unit.reading
  running : keeper.crew.unit.watch.meter.running = true →
    ∃ next, keeper.NextRound .renderer next ∧
      Display.Shows faces keeper.crew.unit.panel
        (plan.meter.reading (clockAt (max plan.endsAt (next - settings.renderMillis.toNat))))

end ReplayPlan

/-- To a replay it is all the same: its laps and its mode, the face and its lamp. -/
structure SameReplay [Sink L Switch] (lights : Registers L Lamp Bool)
    (before after : Instrument P L) : Prop where
  replay : after.watch.replay = before.watch.replay
  laps : after.watch.book.laps = before.watch.book.laps
  cursor : after.watch.book.replayCursor = before.watch.book.replayCursor
  mode : after.watch.mode = before.watch.mode
  panel : after.panel = before.panel
  lamp : lights.value after.lamps .replay = lights.value before.lamps .replay

section

variable [Sink L Switch] {lights : Registers L Lamp Bool}

theorem SameReplay.refl (unit : Instrument P L) : SameReplay lights unit unit :=
  ⟨rfl, rfl, rfl, rfl, rfl, rfl⟩

theorem sameReplay_clock (unit : Instrument P L) (now : UInt64) :
    SameReplay lights unit { unit with now } ∧
      ({ unit with now } : Instrument P L).watch.meter = unit.watch.meter :=
  ⟨⟨rfl, rfl, rfl, rfl, rfl, rfl⟩, rfl⟩

variable [Sink P Display.Write] {faces : Registers P Display.Position UInt8}
  {settings : TimerSettings} {plan : ReplayPlan} {keeper next : Timekeeper P L}

theorem sameReplay_consulted (unit : Instrument P L) (op : InstrumentOp)
    (plain : op.OnlyReads ∨ op.SetsMode)
    (mode : (unit.step op).1.watch.mode = unit.watch.mode) :
    SameReplay lights unit (unit.step op).1 ∧
      (unit.step op).1.watch.meter = unit.watch.meter := by
  obtain ⟨readCursor, other, consulted⟩ := unit.plain_step op plain
  rw [consulted] at mode ⊢
  exact ⟨⟨rfl, rfl, rfl, mode, rfl, rfl⟩, rfl⟩

theorem sameReplay_blinkRound (unit : Instrument P L) (working : unit.Working faces lights) :
    SameReplay lights unit unit.blinkRound.1 ∧
      unit.blinkRound.1.watch.meter = unit.watch.meter := by
  rw [unit.blinkRound_eq]
  have other := lights.value_put_other unit.lamps working.lamps .lap
    unit.watch.blink.1.blinker.lit .replay (by decide)
  exact ⟨⟨rfl, rfl, rfl, rfl, rfl, other⟩, rfl⟩

-- The render worker stops the meter at its limit also during a replay, and its lamp with it.
theorem sameReplay_renderRound (unit : Instrument P L) (working : unit.Working faces lights)
    (replays : unit.watch.replay.active = true) :
    SameReplay lights unit unit.renderRound.1 ∧
      (unit.renderRound.1.watch.meter.running = true →
        unit.renderRound.1.watch.meter = unit.watch.meter) := by
  have row := unit.renderRound_row
  have other := lights.value_put_other unit.lamps working.lamps .running false .replay
    (by decide)
  generalize unit.renderRound.2.goesOn = goesOn at row
  generalize unit.renderRound.1 = next at row ⊢
  cases row with
  | ended rests => exact ⟨⟨rfl, rfl, rfl, rfl, rfl, rfl⟩, fun _ => rfl⟩
  | forced reached =>
      refine ⟨⟨rfl, rfl, rfl, rfl, if_pos replays, other⟩, fun runs => ?_⟩
      have rests := Meter.running_forced unit.watch.meter unit.now reached
      exact absurd (rests.symm.trans runs) Bool.false_ne_true
  | shown runs => exact ⟨⟨rfl, rfl, rfl, rfl, if_pos replays, rfl⟩, fun _ => rfl⟩

namespace ReplayPlan

theorem stepAt_succ (plan : ReplayPlan) (place : Nat) :
    plan.stepAt (place + 1) = plan.stepAt place + plan.pause := by
  rw [stepAt, stepAt, Nat.succ_mul, Nat.add_assoc]

theorem Underway.kept {place : Nat} (underway : plan.Underway faces lights place keeper)
    (same : SameReplay lights keeper.crew.unit next.crew.unit)
    (meter : next.crew.unit.watch.meter.running = true →
      next.crew.unit.watch.meter = keeper.crew.unit.watch.meter)
    (millis : keeper.millis ≤ next.millis)
    (round : next.NextRound (.stepper plan.session) (plan.stepAt place)) :
    plan.Underway faces lights place next := by
  have stands := underway.stands
  have count : next.crew.unit.watch.book.count = keeper.crew.unit.watch.book.count :=
    congrArg List.length same.laps
  exact {
    stands := {
      replays := by rw [same.replay, stands.replays]
      current := by rw [same.replay, stands.current]
      cursor := by rw [same.cursor, stands.cursor]
      inside := count ▸ stands.inside
      kept := same.laps ▸ stands.kept
      bounded := count ▸ stands.bounded }
    laps := same.laps.trans underway.laps
    mode := same.mode.trans underway.mode
    meter := fun runs => (meter runs).trans (underway.meter (meter runs ▸ runs))
    reached := underway.reached
    next := round
    since := Nat.le_trans underway.since (Nat.add_le_add_right millis _)
    shows := fun shown before => by
      rw [same.panel, same.lamp]
      exact underway.shows shown before }

theorem Ended.kept (ended : plan.Ended faces lights settings keeper)
    (same : SameReplay lights keeper.crew.unit next.crew.unit)
    (meter : next.crew.unit.watch.meter = keeper.crew.unit.watch.meter)
    (millis : keeper.millis ≤ next.millis)
    (round : ∀ instant, keeper.NextRound .renderer instant → next.NextRound .renderer instant) :
    plan.Ended faces lights settings next where
  live := by rw [same.replay, ended.live]
  unlit := same.lamp.trans ended.unlit
  past := Nat.le_trans ended.past millis
  meter := by
    rw [meter]
    exact ended.meter
  resting := by
    intro rests
    rw [meter] at rests
    have reads : next.crew.unit.reading = keeper.crew.unit.reading := by
      show next.crew.unit.watch.meter.reading next.crew.unit.now = _
      rw [meter]
      exact Meter.reading_resting _ _ _ rests
    rw [same.panel, reads]
    exact ended.resting rests
  running := by
    intro runs
    rw [meter] at runs
    obtain ⟨instant, booked, shows⟩ := ended.running runs
    exact ⟨instant, round instant booked, same.panel ▸ shows⟩

/-- The replay goes on, or it is over. -/
def Course (faces : Registers P Display.Position UInt8) (lights : Registers L Lamp Bool)
    (settings : TimerSettings) (plan : ReplayPlan) (keeper : Timekeeper P L) : Prop :=
  (∃ place, plan.Underway faces lights place keeper) ∨ plan.Ended faces lights settings keeper

theorem Course.kept (course : plan.Course faces lights settings keeper)
    (same : SameReplay lights keeper.crew.unit next.crew.unit)
    (meter : next.crew.unit.watch.meter = keeper.crew.unit.watch.meter)
    (millis : keeper.millis ≤ next.millis)
    (rounds : ∀ worker instant, worker ≠ .blinker →
      keeper.NextRound worker instant → next.NextRound worker instant) :
    plan.Course faces lights settings next := by
  rcases course with ⟨place, underway⟩ | ended
  · exact .inl ⟨place, underway.kept same (fun _ => meter) millis
      (rounds _ _ nofun underway.next)⟩
  · exact .inr (ended.kept same meter millis fun instant => rounds _ instant nofun)

variable {rest : List Task}

theorem Underway.renderRound {place : Nat}
    (underway : plan.Underway faces lights place keeper)
    (ordered : keeper.InOrder faces lights settings)
    (head : keeper.ready = .worker .renderer :: rest) :
    plan.Underway faces lights place
      (({ keeper with ready := rest } : Timekeeper P L).runTask (.worker .renderer)) := by
  obtain ⟨unit, -⟩ := ordered.head_round head
  obtain ⟨same, meter⟩ := sameReplay_renderRound keeper.crew.unit ordered.sound.working
    underway.stands.replays
  rw [Crew.work_renderer] at unit
  apply underway.kept
  · rw [unit]
    exact same
  · rw [unit]
    exact meter
  · exact Nat.le_refl _
  · exact underway.next.other head nofun

/-- A step that comes before the last lap was shown shows the lap at its place. -/
theorem Underway.lapRound {place : Nat} (underway : plan.Underway faces lights place keeper)
    (ordered : keeper.InOrder faces lights settings)
    (pace : plan.pause = settings.replayMillis.toNat) (inside : place < plan.laps.length)
    (head : keeper.ready = .worker (.stepper plan.session) :: rest) :
    plan.Underway faces lights (place + 1)
      (({ keeper with ready := rest } : Timekeeper P L).runTask
        (.worker (.stepper plan.session))) := by
  have now : keeper.millis = plan.stepAt place :=
    ordered.due_now head underway.next
  have later : keeper.millis + Timekeeper.period settings (.stepper plan.session) =
      plan.stepAt (place + 1) := by
    rw [stepAt_succ, now, pace, Timekeeper.period]
  have stands := underway.stands
  have count : keeper.crew.unit.watch.book.count = plan.laps.length :=
    congrArg List.length underway.laps
  obtain ⟨lap, found, stepped⟩ := keeper.crew.unit.replayRound_shows stands inside
  obtain ⟨unit, asleep⟩ := ordered.head_round head
  rw [Crew.work_stepper, stepped] at unit asleep
  dsimp only at unit asleep
  have millis : (Timekeeper.runTask { keeper with ready := rest }
    (.worker (.stepper plan.session))).millis = keeper.millis := rfl
  generalize Timekeeper.runTask { keeper with ready := rest }
    (.worker (.stepper plan.session)) = left at unit asleep millis ⊢
  constructor
  · rw [unit]
    refine ⟨stands.replays, stands.current, ?_, stands.inside, stands.kept, stands.bounded⟩
    rw [← count]
    rfl
  · rw [unit]
    exact underway.laps
  · rw [unit]
    exact underway.mode
  · rw [unit]
    exact underway.meter
  · exact inside
  · right
    rw [asleep, ← later]
    exact List.mem_append_right _ (List.mem_singleton.mpr rfl)
  · exact Nat.le_of_eq (by rw [stepAt_succ, millis, now])
  · intro shown same
    obtain rfl : place = shown := Nat.succ.inj same
    have value : plan.value place lap = keeper.crew.unit.watch.mode.value lap.time
        (if place = 0 then none
          else keeper.crew.unit.watch.book.laps[place - 1]?.map (·.time)) := by
      rw [value, underway.mode, underway.laps]
    refine ⟨lap, underway.laps ▸ found, ?_⟩
    rw [unit, value]
    exact ⟨Display.shows_render faces _ ordered.sound.working.panel _,
      lights.value_put_same _ ordered.sound.working.lamps .replay true⟩

theorem ended_resting (unit : Instrument P L) (same : next.crew.unit = unit)
    (live : unit.watch.replay.active = false)
    (unlit : lights.value unit.lamps .replay = false) (past : plan.endsAt ≤ next.millis)
    (rests : unit.watch.meter.running = false)
    (shows : Display.Shows faces unit.panel unit.reading) :
    plan.Ended faces lights settings next := by
  subst same
  exact {
    live, unlit, past
    meter := fun runs => absurd (rests.symm.trans runs) Bool.false_ne_true
    resting := fun _ => shows
    running := fun runs => absurd (rests.symm.trans runs) Bool.false_ne_true }

theorem ended_running (unit : Instrument P L) (same : next.crew.unit = unit)
    (live : unit.watch.replay.active = false)
    (unlit : lights.value unit.lamps .replay = false) (past : plan.endsAt ≤ next.millis)
    (runs : unit.watch.meter.running = true) (meter : unit.watch.meter = plan.meter)
    (instant last : Nat) (round : next.NextRound .renderer instant)
    (latest : max plan.endsAt (instant - settings.renderMillis.toNat) = last)
    (shows : Display.Shows faces unit.panel (plan.meter.reading (clockAt last))) :
    plan.Ended faces lights settings next := by
  subst same latest
  exact {
    live, unlit, past
    meter := fun _ => meter
    resting := fun rests => absurd (rests.symm.trans runs) Bool.false_ne_true
    running := fun _ => ⟨instant, round, shows⟩ }

theorem Ended.renderRound (ended : plan.Ended faces lights settings keeper)
    (ordered : keeper.InOrder faces lights settings)
    (head : keeper.ready = .worker .renderer :: rest) :
    plan.Ended faces lights settings
      (({ keeper with ready := rest } : Timekeeper P L).runTask (.worker .renderer)) := by
  obtain ⟨unit, asleep⟩ := ordered.head_round head
  have past : plan.endsAt ≤ (Timekeeper.runTask { keeper with ready := rest }
    (.worker .renderer)).millis := ended.past
  have row := keeper.crew.unit.renderRound_row
  have working := ordered.sound.working
  have shows := Display.shows_render faces keeper.crew.unit.panel working.panel
  have visible : ¬ keeper.crew.unit.watch.replay.active = true := by simp [ended.live]
  rw [Crew.work_renderer] at unit asleep
  generalize keeper.crew.unit.renderRound.2.goesOn = goesOn at row asleep
  generalize keeper.crew.unit.renderRound.1 = rendered at row unit
  generalize Timekeeper.runTask { keeper with ready := rest } (.worker .renderer) = next
    at unit asleep past ⊢
  cases row with
  | ended rests =>
      exact ended_resting _ unit ended.live ended.unlit past rests (ended.resting rests)
  | forced reached =>
      have reads := Meter.reading_forced keeper.crew.unit.watch.meter keeper.crew.unit.now
        keeper.crew.unit.now reached
      have other := lights.value_put_other keeper.crew.unit.lamps working.lamps .running false
        .replay (by decide)
      rw [if_neg visible] at unit
      refine ended_resting _ unit ended.live (other.trans ended.unlit) past
        (Meter.running_forced _ _ reached) ?_
      show Display.Shows faces (Display.render keeper.crew.unit.panel .greatest).1
        ((keeper.crew.unit.watch.meter.stopAtLimit keeper.crew.unit.now).1.reading
          keeper.crew.unit.now)
      rw [reads]
      exact shows .greatest
  | shown runs =>
      rw [if_neg visible] at unit
      rw [if_pos rfl] at asleep
      have meter := ended.meter runs
      -- The next round is one period away, so the latest one was this one.
      apply ended_running _ unit ended.live ended.unlit past runs meter
        (keeper.millis + Timekeeper.period settings .renderer) keeper.millis
      · right
        rw [asleep]
        exact List.mem_append_right _ (List.mem_singleton.mpr rfl)
      · rw [Timekeeper.period, Nat.add_sub_cancel]
        exact Nat.max_eq_right ended.past
      · rw [← meter, ← ordered.punctual.clock]
        exact shows keeper.crew.unit.reading

/-- The step past the last lap puts the time on the face. -/
theorem Underway.lastRound (underway : plan.Underway faces lights plan.laps.length keeper)
    (ordered : keeper.InOrder faces lights settings)
    (head : keeper.ready = .worker (.stepper plan.session) :: rest) :
    plan.Ended faces lights settings
      (({ keeper with ready := rest } : Timekeeper P L).runTask
        (.worker (.stepper plan.session))) := by
  have now : keeper.millis = plan.endsAt := ordered.due_now head underway.next
  have working := ordered.sound.working
  have past : plan.endsAt ≤ (Timekeeper.runTask { keeper with ready := rest }
    (.worker (.stepper plan.session))).millis := Nat.le_of_eq now.symm
  have shows := Display.shows_render faces keeper.crew.unit.panel working.panel
  have unlit := lights.value_put_same keeper.crew.unit.lamps working.lamps .replay false
  have stepped := keeper.crew.unit.replayRound_ends underway.stands (Nat.le_refl _)
  obtain ⟨unit, -⟩ := ordered.head_round head
  rw [Crew.work_stepper, stepped] at unit
  dsimp only at unit
  by_cases runs : keeper.crew.unit.watch.meter.running = true
  · have meter := underway.meter runs
    obtain ⟨instant, round⟩ := ordered.nextRound .renderer (ordered.fit.manned.refreshing runs)
    have soon := (ordered.bounds round).2
    apply ended_running _ unit rfl unlit past runs meter instant plan.endsAt
    · exact round.other head nofun
    · -- The render worker has had no round since.
      rw [Timekeeper.period] at soon
      omega
    · rw [← meter, ← now, ← ordered.punctual.clock]
      exact shows keeper.crew.unit.reading
  · exact ended_resting _ unit rfl unlit past (eq_false_of_ne_true runs) (shows _)

/-- No round takes a replay off its course. -/
theorem Course.round (course : plan.Course faces lights settings keeper)
    (ordered : keeper.InOrder faces lights settings)
    (pace : plan.pause = settings.replayMillis.toNat) (worker : Worker)
    (head : keeper.ready = .worker worker :: rest) :
    plan.Course faces lights settings
      (({ keeper with ready := rest } : Timekeeper P L).runTask (.worker worker)) := by
  cases worker with
  | renderer =>
      rcases course with ⟨place, underway⟩ | ended
      · exact .inl ⟨place, underway.renderRound ordered head⟩
      · exact .inr (ended.renderRound ordered head)
  | stepper session =>
      obtain ⟨replays, current⟩ :=
        (Stopwatch.countsOn_stepper _ _).mp (ordered.counted (.head head))
      rcases course with ⟨place, underway⟩ | ended
      · obtain rfl : session = plan.session := current.symm.trans underway.stands.current
        rcases Nat.lt_or_eq_of_le underway.reached with inside | rfl
        · exact .inl ⟨_, underway.lapRound ordered pace inside head⟩
        · exact .inr (underway.lastRound ordered head)
      · exact absurd (ended.live.symm.trans replays) Bool.false_ne_true
  | blinker =>
      obtain ⟨unit, -⟩ := ordered.head_round head
      obtain ⟨same, meter⟩ :=
        sameReplay_blinkRound keeper.crew.unit ordered.sound.working
      rw [Crew.work_blinker] at unit
      apply course.kept
      · rw [unit]
        exact same
      · rw [unit]
        exact meter
      · exact Nat.le_refl _
      · exact fun other instant apart round => round.other head apart

theorem Course.wakeAt (course : plan.Course faces lights settings keeper) (instant : Nat)
    (idle : keeper.ready = []) (later : keeper.millis ≤ instant)
    (least : ∀ entry ∈ keeper.asleep, instant ≤ entry.1) :
    plan.Course faces lights settings (keeper.wakeAt instant) := by
  have ⟨same, meter⟩ : SameReplay lights keeper.crew.unit (keeper.wakeAt instant).crew.unit ∧
      (keeper.wakeAt instant).crew.unit.watch.meter = keeper.crew.unit.watch.meter := by
    rw [keeper.crew_wakeAt instant]
    exact sameReplay_clock _ _
  have millis := (keeper.wakeAt_frame instant).2.1
  apply course.kept same meter
  · rw [millis]
    exact later
  · exact fun worker other _ round => round.wakeAt instant idle least

end ReplayPlan

end

end LapTimer
