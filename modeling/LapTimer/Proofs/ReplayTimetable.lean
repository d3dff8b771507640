import LapTimer.Proofs.ReplayStages

/-! The timetable of a replay: one step per period from the instant at which its key is
pressed, and after the last lap the time, until the render worker has its next round. That no
other key is pressed is part of what is assumed. -/

namespace LapTimer

/-- Without a replay no round begins one, and none changes the laps or the mode. A round of
the render worker may stop the meter. -/
theorem Stopwatch.Worked.awaits {watch next : Stopwatch} {now : UInt64} {worker : Worker}
    {goesOn : Bool} (row : Worked watch now worker next goesOn)
    (live : watch.replay.active = false) :
    next.replay = watch.replay ∧ next.book.laps = watch.book.laps ∧ next.mode = watch.mode ∧
      (next.meter.running = true → next.meter = watch.meter) := by
  have replays : watch.replay.active ≠ true := by simp [live]
  cases row with
  | rendered row =>
      cases row with
      | forced _ reached =>
          have rests := Meter.running_forced watch.meter now reached
          exact ⟨rfl, rfl, rfl, fun runs => absurd (rests.symm.trans runs) Bool.false_ne_true⟩
      | _ => exact ⟨rfl, rfl, rfl, fun _ => rfl⟩
  | stepped row =>
      cases row with
      | stale _ => exact ⟨rfl, rfl, rfl, fun _ => rfl⟩
      | shown active _ _ => exact absurd active replays
      | ended active _ _ => exact absurd active replays
  | blinked => exact ⟨rfl, rfl, rfl, fun _ => rfl⟩

variable {P L : Type}

namespace Timekeeper

/-- No activation that waits for the handler will read a key. -/
def Deaf (keeper : Timekeeper P L) : Prop :=
  keeper.handling = true → 0 < keeper.line.queued → ∀ key : Key, keeper.keys.edges ≠ key.bit

theorem deaf_detached (keeper : Timekeeper P L) (detached : keeper.handling = false) :
    keeper.Deaf :=
  fun handles => absurd (detached.symm.trans handles) Bool.false_ne_true

theorem deaf_acknowledged (keeper : Timekeeper P L) (silent : keeper.keys.edges = 0) :
    keeper.Deaf := by
  intro _ _ key
  rw [silent]
  cases key <;> decide

/-- The operation presses the replay key, and presses it first: the caller presses it, or has
the register read that holds it, or pauses while it waits for the handler. -/
def PressesReplay (keeper : Timekeeper P L) : TimekeeperOp → Prop
  | .press key => key = .replay
  | .readKeys => keeper.keys.edges = Key.replay.bit
  | .sleep millis => 0 < millis ∧ .handler ∈ keeper.ready ∧ 0 < keeper.line.queued ∧
      keeper.keys.edges = Key.replay.bit
  | _ => False

theorem PressesReplay.isPlain {keeper : Timekeeper P L} {op : TimekeeperOp}
    (pressed : keeper.PressesReplay op) : op.IsPlain := by
  cases op with
  | consult op => exact pressed.elim
  | _ => trivial

/-- The plan of a replay that begins here and now. -/
def replayPlan (keeper : Timekeeper P L) : ReplayPlan where
  start := keeper.millis
  pause := keeper.settings.replayMillis.toNat
  session := keeper.crew.unit.watch.replay.session + 1
  laps := keeper.crew.unit.watch.book.laps
  mode := keeper.crew.unit.watch.mode
  meter := keeper.crew.unit.watch.meter

end Timekeeper

/-- A replay that begins here and now goes by the plan. -/
structure ReplayPlan.Awaits (plan : ReplayPlan) (keeper : Timekeeper P L) : Prop where
  live : keeper.crew.unit.watch.replay.active = false
  start : keeper.millis = plan.start
  session : keeper.crew.unit.watch.replay.session + 1 = plan.session
  laps : keeper.crew.unit.watch.book.laps = plan.laps
  mode : keeper.crew.unit.watch.mode = plan.mode
  meter : keeper.crew.unit.watch.meter.running = true →
    keeper.crew.unit.watch.meter = plan.meter

theorem Timekeeper.awaits_replayPlan (keeper : Timekeeper P L)
    (live : keeper.crew.unit.watch.replay.active = false) : keeper.replayPlan.Awaits keeper :=
  ⟨live, rfl, rfl, rfl, rfl, fun _ => rfl⟩

variable [Sink P Display.Write] [Sink L Switch]
  {faces : Registers P Display.Position UInt8} {lights : Registers L Lamp Bool}
  {settings : TimerSettings} {plan : ReplayPlan} {keeper next : Timekeeper P L}

namespace Timekeeper

theorem course_same (course : plan.Course faces lights settings keeper)
    (crew : next.crew = keeper.crew) (millis : next.millis = keeper.millis)
    (ready : ∀ worker, .worker worker ∈ keeper.ready → .worker worker ∈ next.ready)
    (asleep : next.asleep = keeper.asleep) : plan.Course faces lights settings next := by
  apply course.kept
  · rw [crew]
    exact .refl _
  · rw [crew]
  · exact Nat.le_of_eq millis.symm
  · intro worker instant _ round
    exact round.same millis (ready worker) (asleep ▸ List.Subset.refl _)

/-- A replay on its course, and no key to disturb it. -/
structure Playing (faces : Registers P Display.Position UInt8) (lights : Registers L Lamp Bool)
    (settings : TimerSettings) (plan : ReplayPlan) (keeper : Timekeeper P L) : Prop where
  ordered : keeper.InOrder faces lights settings
  deaf : keeper.Deaf
  course : plan.Course faces lights settings keeper

theorem onTime_playing (pace : plan.pause = settings.replayMillis.toNat) :
    OnTime (P := P) (L := L) (Playing faces lights settings plan) where
  handlerTaken keeper rest head playing := by
    refine ⟨onTime_inOrder.handlerTaken keeper rest head playing.ordered, playing.deaf, ?_⟩
    refine course_same playing.course rfl rfl ?_ rfl
    intro worker due
    rw [head] at due
    exact (List.mem_cons.mp due).resolve_left nofun
  activate keeper handles playing := by
    have ordered := onTime_inOrder.activate keeper handles playing.ordered
    by_cases queued : 0 < keeper.line.queued
    · rw [activate_other keeper queued (playing.deaf handles queued)] at ordered ⊢
      exact ⟨ordered, deaf_acknowledged _ rfl,
        course_same playing.course rfl rfl (fun _ due => due) rfl⟩
    · rwa [activate_idle keeper (by omega)]
  round keeper worker rest head playing :=
    ⟨onTime_inOrder.round keeper worker rest head playing.ordered, playing.deaf,
      playing.course.round playing.ordered pace worker head⟩
  ahead _ playing := playing.ordered.punctual.later
  wakeAt keeper instant idle later least playing := by
    refine ⟨onTime_inOrder.wakeAt keeper instant idle later least playing.ordered, ?_,
      playing.course.wakeAt instant idle later least⟩
    unfold Deaf
    rw [(sameHandler_wakeAt keeper instant).handling, line_wakeAt, keys_wakeAt]
    exact playing.deaf

/-- No key reaches the stopwatch, and nobody changes its mode or shuts it down. -/
def Undisturbed (keeper : Timekeeper P L) : TimekeeperOp → Prop
  | .press _ => False
  | .sleep _ => keeper.Deaf
  | .readKeys => ∀ key : Key, keeper.keys.edges ≠ key.bit
  | .shutDown => False
  | .consult op => (op.OnlyReads ∨ op.SetsMode) ∧
      (keeper.crew.unit.step op).1.watch.mode = keeper.crew.unit.watch.mode
  | _ => True

/-- No operation of the run disturbs a replay. -/
def StaysQuiet (keeper : Timekeeper P L) (ops : List TimekeeperOp) : Prop :=
  Throughout step Undisturbed keeper ops

theorem Undisturbed.isPlain {op : TimekeeperOp} (quiet : keeper.Undisturbed op) :
    op.IsPlain := by
  cases op with
  | consult op => exact quiet.1
  | _ => trivial

theorem course_step (pace : plan.pause = settings.replayMillis.toNat) (op : TimekeeperOp)
    (quiet : keeper.Undisturbed op) (ordered : keeper.InOrder faces lights settings)
    (course : plan.Course faces lights settings keeper) :
    plan.Course faces lights settings (keeper.step op).1 := by
  cases op with
  | press key => exact quiet.elim
  | sleep millis =>
      have playing : keeper.Playing faces lights settings plan := ⟨ordered, quiet, course⟩
      exact ((onTime_playing pace).sleep keeper millis playing).course
  | attach =>
      rcases attach_cases keeper with ⟨-, same⟩ | ⟨-, attached⟩
      · rwa [same]
      · rw [attached]
        exact course_same course rfl rfl (fun _ due => List.mem_append_left _ due) rfl
  | latch bits => exact course_same course rfl rfl (fun _ due => due) rfl
  | raise =>
      refine course_same course rfl rfl ?_ rfl
      intro worker due
      simp only [step, raise]
      split
      · exact List.mem_append_left _ due
      · exact due
  | readKeys =>
      simp only [step, keeper.readKeys_other quiet]
      exact course_same course rfl rfl (fun _ due => due) rfl
  | shutDown => exact quiet.elim
  | consult op =>
      have consulted : SameReplay lights _ _ ∧ _ :=
        sameReplay_consulted keeper.crew.unit op quiet.1 quiet.2
      exact course.kept consulted.1 consulted.2 (Nat.le_refl _) fun _ _ _ round => round

theorem course_run (pace : plan.pause = settings.replayMillis.toNat) (ops : List TimekeeperOp)
    (keeper : Timekeeper P L) (quiet : keeper.StaysQuiet ops)
    (ordered : keeper.InOrder faces lights settings)
    (course : plan.Course faces lights settings keeper) :
    (keeper.run ops).1.InOrder faces lights settings ∧
      plan.Course faces lights settings (keeper.run ops).1 := by
  apply quiet.keeps (fun keeper => keeper.InOrder faces lights settings ∧
    plan.Course faces lights settings keeper) ?_ ⟨ordered, course⟩
  intro keeper op undisturbed ⟨ordered, course⟩
  exact ⟨inOrder_step keeper op undisturbed.isPlain ordered,
    course_step pace op undisturbed ordered course⟩

theorem press_replay (keeper : Timekeeper P L)
    (live : keeper.crew.unit.watch.replay.active = false) :
    (keeper.press .replay).1 = { keeper with
      crew := {
        unit := { keeper.crew.unit with watch := keeper.crew.unit.watch.beginReplay.1 }
        workers := keeper.crew.workers ++
          [.stepper (keeper.crew.unit.watch.replay.session + 1)] }
      ready := keeper.ready ++
        [.worker (.stepper (keeper.crew.unit.watch.replay.session + 1))] } := by
  simp only [press, Crew.press, Instrument.press_begins _ live]
  rfl

theorem begun_press (awaits : plan.Awaits keeper)
    (ordered : keeper.InOrder faces lights settings) :
    plan.Underway faces lights 0 (keeper.press .replay).1 := by
  have begun := Stopwatch.AtPlace.begun keeper.crew.unit.watch keeper.crew.unit.now awaits.live
    ordered.fit.bounded
  simp only [Stopwatch.press, awaits.live, Bool.false_eq_true, ↓reduceIte] at begun
  have start : plan.stepAt 0 = keeper.millis := by
    rw [ReplayPlan.stepAt, Nat.zero_mul, Nat.add_zero, awaits.start]
  rw [press_replay keeper awaits.live]
  constructor
  · rw [← awaits.session, ← awaits.laps]
    exact begun
  · exact awaits.laps
  · exact awaits.mode
  · exact awaits.meter
  · exact Nat.zero_le _
  · left
    refine ⟨?_, start.symm⟩
    rw [← awaits.session]
    exact List.mem_append_right _ (List.mem_singleton.mpr rfl)
  · rw [start]
    exact Nat.le_add_right _ _
  · exact fun shown same => absurd same.symm (Nat.succ_ne_zero shown)

/-- The handler is due, and the key that it will read is the replay key. -/
structure Ringing (faces : Registers P Display.Position UInt8) (lights : Registers L Lamp Bool)
    (settings : TimerSettings) (plan : ReplayPlan) (keeper : Timekeeper P L) : Prop where
  ordered : keeper.InOrder faces lights settings
  awaits : plan.Awaits keeper
  due : .handler ∈ keeper.ready
  queued : 0 < keeper.line.queued
  edges : keeper.keys.edges = Key.replay.bit

theorem begun_activate (awaits : plan.Awaits keeper)
    (ordered : keeper.InOrder faces lights settings) (handles : keeper.handling = true)
    (queued : 0 < keeper.line.queued) (edges : keeper.keys.edges = Key.replay.bit) :
    keeper.activate.Playing faces lights settings plan := by
  have ordered' := onTime_inOrder.activate keeper handles ordered
  rw [activate_key keeper queued .replay edges] at ordered' ⊢
  have taken : keeper.taken.InOrder faces lights settings :=
    ⟨⟨ordered.sound.booked, ordered.sound.posted, ordered.sound.closed, ordered.sound.working⟩,
      ordered.fit, ordered.punctual.same rfl rfl rfl (List.Subset.refl _)⟩
  have awaits' : plan.Awaits keeper.taken :=
    ⟨awaits.live, awaits.start, awaits.session, awaits.laps, awaits.mode, awaits.meter⟩
  have course : plan.Course faces lights settings (keeper.taken.press .replay).1 :=
    .inl ⟨0, begun_press awaits' taken⟩
  exact ⟨ordered', deaf_acknowledged _ rfl,
    course_same course rfl rfl (fun _ due => due) rfl⟩

theorem Ringing.round {worker : Worker} {rest : List Task}
    (ringing : keeper.Ringing faces lights settings plan)
    (head : keeper.ready = .worker worker :: rest) :
    (({ keeper with ready := rest } : Timekeeper P L).runTask (.worker worker)).Ringing
      faces lights settings plan := by
  obtain ⟨ordered, awaits, due, queued, edges⟩ := ringing
  obtain ⟨unit, -⟩ := ordered.head_round head
  obtain ⟨replay, laps, mode, meter⟩ :=
    (Crew.work_row keeper.crew.unit worker).awaits awaits.live
  rw [← unit] at replay laps mode meter
  refine ⟨onTime_inOrder.round keeper worker rest head ordered, ?_, ?_, queued, edges⟩
  · exact {
      live := by rw [replay, awaits.live]
      start := awaits.start
      session := by rw [replay, awaits.session]
      laps := laps.trans awaits.laps
      mode := mode.trans awaits.mode
      meter := fun runs => (meter runs).trans (awaits.meter (meter runs ▸ runs)) }
  · rw [head] at due
    exact (List.mem_cons.mp due).resolve_left nofun

theorem Ringing.handled {rest : List Task} (pace : plan.pause = settings.replayMillis.toNat)
    (ringing : keeper.Ringing faces lights settings plan)
    (head : keeper.ready = .handler :: rest) :
    (({ keeper with ready := rest } : Timekeeper P L).runTask .handler).Playing
      faces lights settings plan := by
  obtain ⟨ordered, awaits, due, queued, edges⟩ := ringing
  have handles : keeper.handling = true := ordered.sound.posted due
  have taken := onTime_inOrder.handlerTaken keeper rest head ordered
  have awaits' : plan.Awaits { keeper with ready := rest } :=
    ⟨awaits.live, awaits.start, awaits.session, awaits.laps, awaits.mode, awaits.meter⟩
  have playing := begun_activate awaits' taken handles queued edges
  -- The first turn presses the key, and the turns after it find none.
  obtain ⟨turns, more⟩ := Nat.exists_eq_succ_of_ne_zero (Nat.ne_of_gt queued)
  have served : Timekeeper.runTask { keeper with ready := rest } .handler =
      serve keeper.line.queued { keeper with ready := rest } := if_pos handles
  rw [served, more]
  exact (onTime_playing pace).serve turns _ ((handling_activate _).trans handles) playing

-- The workers that are due before the handler leave the key to it.
theorem Ringing.settle (pace : plan.pause = settings.replayMillis.toNat)
    (ringing : keeper.Ringing faces lights settings plan) :
    keeper.settle.Playing faces lights settings plan := by
  have reached : keeper.settle.Ringing faces lights settings plan ∨
      keeper.settle.Playing faces lights settings plan := by
    refine runReady_keeps (fun keeper => keeper.Ringing faces lights settings plan ∨
      keeper.Playing faces lights settings plan) ?_ _ keeper (.inl ringing)
    intro keeper task rest head stage
    rcases stage with ringing | playing
    · cases task with
      | worker worker => exact .inl (ringing.round head)
      | handler => exact .inr (ringing.handled pace head)
    · exact .inr ((onTime_playing pace).task keeper task rest head playing)
  rcases reached with ringing | playing
  · exact absurd ringing.due (by simp [ready_settle keeper])
  · exact playing

theorem course_begins (pace : plan.pause = settings.replayMillis.toNat) (op : TimekeeperOp)
    (pressed : keeper.PressesReplay op) (awaits : plan.Awaits keeper)
    (ordered : keeper.InOrder faces lights settings) :
    plan.Course faces lights settings (keeper.step op).1 := by
  have begun : plan.Course faces lights settings (keeper.press .replay).1 :=
    .inl ⟨0, begun_press awaits ordered⟩
  cases op with
  | press key =>
      obtain rfl : key = .replay := pressed
      exact begun
  | readKeys =>
      have event : Key.ofEdges? keeper.keys.edges = some .replay :=
        (Key.ofEdges?_eq_some _ _).mpr pressed
      simp only [step, readKeys, event]
      exact course_same begun rfl rfl (fun _ due => due) rfl
  | sleep millis =>
      obtain ⟨positive, due, queued, edges⟩ := pressed
      have playing := Ringing.settle pace ⟨ordered, awaits, due, queued, edges⟩
      simp only [step, sleep, if_neg (Nat.ne_of_gt positive)]
      refine ((onTime_playing pace).advanceTo _ _ _ (ready_settle keeper) ?_ playing).course
      rw [millis_settle]
      exact Nat.le_add_right _ _
  | _ => exact pressed.elim

theorem millis_step (positive : ∀ worker, 0 < period settings worker) (op : TimekeeperOp)
    (stays : op ≠ .shutDown) (punctual : keeper.Punctual settings) :
    (keeper.step op).1.millis = keeper.millis + op.pause := by
  cases op with
  | press key => exact (press_agenda keeper key).2.1
  | sleep millis => exact sleep_arrives positive keeper punctual millis
  | attach =>
      rcases attach_cases keeper with ⟨-, same⟩ | ⟨-, attached⟩
      · rw [same]
        rfl
      · rw [attached]
        rfl
  | readKeys => exact (readKeys_agenda keeper).2.1
  | shutDown => exact absurd rfl stays
  | _ => rfl

theorem millis_run (positive : ∀ worker, 0 < period settings worker)
    (ops : List TimekeeperOp) (keeper : Timekeeper P L) (quiet : keeper.StaysQuiet ops)
    (ordered : keeper.InOrder faces lights settings) :
    (keeper.run ops).1.millis = keeper.millis + TimekeeperOp.pauses ops := by
  induction ops generalizing keeper with
  | nil => rfl
  | cons op rest ih =>
      obtain ⟨undisturbed, quiet⟩ := quiet
      have stays : op ≠ .shutDown := by
        rintro rfl
        exact undisturbed
      have first := millis_step positive op stays ordered.punctual
      have later := ih (keeper.step op).1 quiet
        (inOrder_step keeper op undisturbed.isPlain ordered)
      rw [TimekeeperOp.pauses, ← Nat.add_assoc, ← first]
      exact later

end Timekeeper

namespace ReplayPlan

theorem lt_of_stepAt_lt (plan : ReplayPlan) {first second : Nat}
    (before : plan.stepAt first < plan.stepAt second) : first < second := by
  by_contra past
  have least := Nat.mul_le_mul_right plan.pause (Nat.le_of_not_lt past)
  unfold stepAt at before
  omega

/-- Between two steps the lap of the first one is on the face. -/
theorem Course.between (course : plan.Course faces lights settings keeper)
    (ordered : keeper.InOrder faces lights settings) {place : Nat} {lap : Lap}
    (held : plan.laps[place]? = some lap) (after : plan.stepAt place < keeper.millis)
    (before : keeper.millis < plan.stepAt (place + 1)) :
    Display.Shows faces keeper.crew.unit.panel (plan.value place lap) ∧
      lights.value keeper.crew.unit.lamps .replay = true := by
  have inside : place < plan.laps.length := (List.getElem?_eq_some_iff.mp held).1
  rcases course with ⟨stage, underway⟩ | ended
  · have soon := (ordered.bounds underway.next).1
    have since := underway.since
    have least : place < stage := plan.lt_of_stepAt_lt (Nat.lt_of_lt_of_le after soon)
    have most : stage < place + 2 := by
      apply plan.lt_of_stepAt_lt
      rw [plan.stepAt_succ (place + 1)]
      omega
    obtain ⟨found, same, shows⟩ := underway.shows place (by omega)
    obtain rfl : lap = found := Option.some.inj (held.symm.trans same)
    exact shows
  · have past := Nat.lt_of_le_of_lt ended.past before
    exact absurd (plan.lt_of_stepAt_lt past) (by omega)

theorem Course.ended (course : plan.Course faces lights settings keeper)
    (ordered : keeper.InOrder faces lights settings) (past : plan.endsAt < keeper.millis) :
    plan.Ended faces lights settings keeper := by
  rcases course with ⟨place, underway⟩ | ended
  · have soon := (ordered.bounds underway.next).1
    have reached := Nat.mul_le_mul_right plan.pause underway.reached
    unfold endsAt stepAt at past
    unfold stepAt at soon
    omega
  · exact ended

end ReplayPlan

namespace Timekeeper

/-- A replay keeps to its timetable, whatever else the workers do. Between two of its steps the
face shows the lap of the first one and the replay lamp is on. After its last step the replay
is over, its stepper gone and its lamp off. The face has the time, which is exact where the
stopwatch rests, and else the time at the last step or at the latest round of the render
worker since then. If all workers have a period, the time comes as its callers let it pass. -/
theorem replay_timetable (faces : Registers P Display.Position UInt8)
    (lights : Registers L Lamp Bool) (settings : TimerSettings) (panel : P) (lamps : L)
    (works : faces.Works panel) (lit : lights.Works lamps) (before : List TimekeeperOp)
    (plain : ∀ op ∈ before, op.IsPlain)
    (live : ((start settings panel lamps).run before).1.crew.unit.watch.replay.active = false)
    (op : TimekeeperOp)
    (pressed : ((start settings panel lamps).run before).1.PressesReplay op)
    (after : List TimekeeperOp)
    (quiet : (((start settings panel lamps).run before).1.step op).1.StaysQuiet after) :
    let keeper := ((start settings panel lamps).run before).1
    let watch := keeper.crew.unit.watch
    let final := ((keeper.step op).1.run after).1
    let stepAt := fun place => keeper.millis + place * settings.replayMillis.toNat
    let endsAt := stepAt watch.book.count
    (∀ place lap, watch.book.laps[place]? = some lap → stepAt place < final.millis →
      final.millis < stepAt (place + 1) →
        Display.Shows faces final.crew.unit.panel (watch.mode.value lap.time
          (if place = 0 then none else watch.book.laps[place - 1]?.map (·.time))) ∧
        lights.value final.crew.unit.lamps .replay = true) ∧
      (endsAt < final.millis →
        final.crew.unit.watch.replay.active = false ∧
        (∀ session, .stepper session ∉ final.crew.workers) ∧
        lights.value final.crew.unit.lamps .replay = false ∧
        (final.crew.unit.watch.meter.running = false →
          Display.Shows faces final.crew.unit.panel final.crew.unit.reading) ∧
        (final.crew.unit.watch.meter.running = true →
          ∃ next, final.NextRound .renderer next ∧ final.millis ≤ next ∧
            next ≤ final.millis + settings.renderMillis.toNat ∧
            Display.Shows faces final.crew.unit.panel (watch.meter.reading
              (clockAt (max endsAt (next - settings.renderMillis.toNat)))))) ∧
      ((∀ worker, 0 < period settings worker) →
        final.millis = keeper.millis + TimekeeperOp.pauses (op :: after)) := by
  intro keeper watch final stepAt endsAt
  have ordered : keeper.InOrder faces lights settings :=
    inOrder_run settings panel lamps works lit before plain
  have ordered' := inOrder_step keeper op pressed.isPlain ordered
  have pace : keeper.replayPlan.pause = settings.replayMillis.toNat := by
    rw [replayPlan, ordered.punctual.keeps]
  have begun := course_begins pace op pressed (awaits_replayPlan keeper live) ordered
  obtain ⟨last, course⟩ := course_run pace after _ quiet ordered' begun
  have instants : keeper.replayPlan.stepAt = stepAt := by
    funext place
    rw [ReplayPlan.stepAt, pace]
    rfl
  refine ⟨?_, ?_, ?_⟩
  · intro place lap held past early
    rw [← instants] at past early
    exact course.between last held past early
  · intro past
    have ends : keeper.replayPlan.endsAt = endsAt := by
      rw [ReplayPlan.endsAt, instants]
      rfl
    have ended := course.ended last (ends ▸ past)
    refine ⟨ended.live, ?_, ended.unlit, ended.resting, ?_⟩
    · intro session present
      have counted := (last.fit.manned.mem_iff _).mp present
      have replays := ((Stopwatch.countsOn_stepper _ _).mp counted).1
      exact Bool.false_ne_true (ended.live.symm.trans replays)
    · intro runs
      obtain ⟨next, round, shows⟩ := ended.running runs
      obtain ⟨later, soon⟩ := last.bounds round
      exact ⟨next, round, later, soon, ends ▸ shows⟩
  · intro positive
    have first : (keeper.step op).1.millis = keeper.millis + op.pause := by
      refine millis_step positive op ?_ ordered.punctual
      rintro rfl
      exact pressed
    rw [TimekeeperOp.pauses, ← Nat.add_assoc, ← first]
    exact millis_run positive after _ quiet ordered'

/-- Two laps are captured while the stopwatch runs on, and replayed. 450 ms later the second
lap is on show. Another 240 ms later the replay has been over for 90 ms, in which the render
worker had one round. -/
theorem replay_timetable_running :
    let settings : TimerSettings :=
      { ({} : TimerSettings) with renderMillis := 70, replayMillis := 300, blinkMillis := 40 }
    let before : List TimekeeperOp :=
      [.press .run, .sleep 100, .press .lap, .sleep 130, .press .lap]
    let during := ((((start settings ({} : Display.Panel) ({} : LampBank)).run before).1.step
      (.press .replay)).1.run [.sleep 450]).1
    let beyond := ((((start settings ({} : Display.Panel) ({} : LampBank)).run before).1.step
      (.press .replay)).1.run [.sleep 450, .sleep 240]).1
    during.millis = 680 ∧
      Display.Shows Display.Panel.registers during.crew.unit.panel ⟨0, 0, 23⟩ ∧
      LampBank.registers.value during.crew.unit.lamps .replay = true ∧
      beyond.millis = 920 ∧ beyond.crew.unit.watch.replay.active = false ∧
      LampBank.registers.value beyond.crew.unit.lamps .replay = false ∧
      Display.Shows Display.Panel.registers beyond.crew.unit.panel ⟨0, 0, 91⟩ := by
  intro settings before
  have plain : ∀ op ∈ before, op.IsPlain := by simp [before, TimekeeperOp.IsPlain]
  have live : ((start settings ({} : Display.Panel) ({} : LampBank)).run
      before).1.crew.unit.watch.replay.active = false := by decide +kernel
  have positive : ∀ worker, 0 < period settings worker := by
    intro worker
    cases worker <;> simp [period, settings]
  have arrived : ((start settings ({} : Display.Panel) ({} : LampBank)).run before).1.millis =
      230 := by decide +kernel
  have table := replay_timetable Display.Panel.registers LampBank.registers settings
    ({} : Display.Panel) ({} : LampBank) rfl rfl before plain live (.press .replay) rfl
  obtain ⟨shows, -, inTime⟩ := table [.sleep 450]
    ⟨deaf_detached _ (by decide +kernel), trivial⟩
  obtain ⟨-, ends, inTime'⟩ := table [.sleep 450, .sleep 240]
    ⟨deaf_detached _ (by decide +kernel), deaf_detached _ (by decide +kernel), trivial⟩
  have now := (inTime positive).trans (congrArg (· + 450) arrived)
  have now' := (inTime' positive).trans (congrArg (· + 690) arrived)
  have mode : ((start settings ({} : Display.Panel) ({} : LampBank)).run
      before).1.crew.unit.watch.mode = .absolute := by decide +kernel
  obtain ⟨shown, lit⟩ := shows 1 ⟨1, ⟨0, 0, 23⟩⟩ (by decide +kernel)
    (by rw [now]; simp only [arrived]; decide) (by rw [now]; simp only [arrived]; decide)
  rw [mode] at shown
  obtain ⟨live', -, unlit, -, running⟩ := ends (by rw [now']; decide +kernel)
  obtain ⟨next, round, -, -, shown'⟩ := running (by decide +kernel)
  have idle : ((((start settings ({} : Display.Panel) ({} : LampBank)).run before).1.step
      (.press .replay)).1.run [.sleep 450, .sleep 240]).1.ready = [] := by decide +kernel
  have asleep : ((((start settings ({} : Display.Panel) ({} : LampBank)).run before).1.step
      (.press .replay)).1.run [.sleep 450, .sleep 240]).1.asleep = [(980, .renderer)] := by
    decide +kernel
  obtain rfl : next = 980 := by simpa [NextRound, idle, asleep] using round
  refine ⟨now, shown, lit, now', live', unlit, ?_⟩
  exact (congrArg (Display.Shows _ _) (by decide +kernel)).mp shown'

end Timekeeper

end LapTimer
