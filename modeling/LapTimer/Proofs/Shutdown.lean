import LapTimer.Proofs.Requests
import LapTimer.Proofs.Soundness

/-! Shutting a timekeeper down. Once the handler is detached only the last rounds of workers
are left, which neither start the meter nor change its time, so the stages can be read one
after the other. -/

namespace LapTimer

/-- A round stops the meter at most where it has reached the limit. -/
theorem Stopwatch.Worked.keeps {watch next : Stopwatch} {now : UInt64} {worker : Worker}
    {goesOn : Bool} (round : Worked watch now worker next goesOn) :
    next.mode = watch.mode ∧
      (next.meter = watch.meter ∨ next.meter = (watch.meter.stopAtLimit now).1) := by
  cases round with
  | rendered row =>
      cases row with
      | forced _ _ => exact ⟨rfl, .inr rfl⟩
      | _ => exact ⟨rfl, .inl rfl⟩
  | stepped row => cases row <;> exact ⟨rfl, .inl rfl⟩
  | blinked => exact ⟨rfl, .inl rfl⟩

variable {P L : Type} [Sink P Display.Write] [Sink L Switch]

namespace Crew

theorem round_keeps (crew : Crew P L) (worker : Worker) :
    (crew.round worker).1.unit.now = crew.unit.now ∧
      (crew.round worker).1.unit.watch.mode = crew.unit.watch.mode ∧
      ((crew.round worker).1.unit.watch.meter = crew.unit.watch.meter ∨
        (crew.round worker).1.unit.watch.meter =
          (crew.unit.watch.meter.stopAtLimit crew.unit.now).1) := by
  rcases round_unit crew worker with same | turned
  · rw [same]
    exact ⟨rfl, rfl, .inl rfl⟩
  · rw [turned, ← work_turn]
    exact ⟨now_work crew.unit worker, (work_row crew.unit worker).keeps⟩

/-- Kept while a crew winds down: by the rounds of workers and by their dismissal. -/
structure Winding (Kept : Crew P L → Prop) : Prop where
  round : ∀ crew worker, Kept crew → Kept (crew.round worker).1
  dismiss : ∀ crew whom, Kept crew → Kept (crew.dismiss whom)

/-- The clock, the time on the meter and the mode. -/
structure Reads (now elapsed : UInt64) (mode : LapMode) (crew : Crew P L) : Prop where
  clock : crew.unit.now = now
  time : crew.unit.watch.meter.elapsed now = elapsed
  mode : crew.unit.watch.mode = mode

theorem winding_reads (now elapsed : UInt64) (mode : LapMode) :
    Winding (P := P) (L := L) (Reads now elapsed mode) where
  dismiss _ _ reads := ⟨reads.clock, reads.time, reads.mode⟩
  round crew worker reads := by
    obtain ⟨clock, mode, meter⟩ := round_keeps crew worker
    rw [reads.clock] at clock meter
    refine ⟨clock, ?_, mode.trans reads.mode⟩
    rcases meter with kept | looked
    · rw [kept, reads.time]
    · rw [looked, Meter.elapsed_stopAtLimit, reads.time]

/-- The meter and the mode, as they stand. -/
structure Stands (meter : Meter) (mode : LapMode) (crew : Crew P L) : Prop where
  meter : crew.unit.watch.meter = meter
  mode : crew.unit.watch.mode = mode

theorem winding_stands (meter : Meter) (mode : LapMode) (rests : meter.running = false) :
    Winding (P := P) (L := L) (Stands meter mode) where
  dismiss _ _ stands := ⟨stands.meter, stands.mode⟩
  round crew worker stands := by
    obtain ⟨-, mode, kept⟩ := round_keeps crew worker
    rw [stands.meter, Meter.stopAtLimit_resting meter crew.unit.now rests, or_self] at kept
    exact ⟨kept, mode.trans stands.mode⟩

/-- Nobody is alive of whom this is true. -/
def Without (whom : Worker → Bool) (crew : Crew P L) : Prop :=
  ∀ worker ∈ crew.workers, whom worker = false

theorem workers_round (crew : Crew P L) (worker : Worker) :
    (crew.round worker).1.workers ⊆ crew.workers := by
  unfold round
  split
  · simp only
    split
    · exact List.Subset.refl _
    · exact List.erase_subset
  · exact List.Subset.refl _

theorem winding_without (whom : Worker → Bool) : Winding (P := P) (L := L) (Without whom) where
  dismiss _ _ without worker live := without worker (List.mem_filter.mp live).1
  round crew worker without other live := without other (workers_round crew worker live)

end Crew

theorem Stopwatch.wipe_resting (watch : Stopwatch) (live : watch.replay.active = false)
    (unpending : watch.replay.clearAfter = false) (book : watch.book = {})
    (blinker : watch.blinker = {}) (refreshing : watch.refreshing = false) :
    watch.wipe = watch := by
  obtain ⟨meter, face, laps, ⟨active, clearAfter, session⟩, blink, blinks, mode, counted⟩ := watch
  simp only at live unpending book blinker refreshing
  subst live unpending book blinker refreshing
  rfl

@[simp] theorem Stopwatch.meter_wipe (watch : Stopwatch) : watch.wipe.meter = watch.meter := rfl

@[simp] theorem Stopwatch.mode_wipe (watch : Stopwatch) : watch.wipe.mode = watch.mode := rfl

/-- Laps and flags dropped, both devices dark. -/
def Instrument.putAway (unit : Instrument P L) : Instrument P L :=
  ({ unit with watch := unit.watch.wipe } : Instrument P L).darken.lampsOff

namespace Timekeeper

open Crew (Winding)

-- Without a handler nobody presses a key, so the tasks that are due are rounds.
theorem settle_unattended (Kept : Crew P L → Prop)
    (round : ∀ crew worker, Kept crew → Kept (crew.round worker).1)
    (keeper : Timekeeper P L) (unattended : keeper.handling = false)
    (first : Kept keeper.crew) : Kept keeper.settle.crew := by
  have kept : keeper.settle.handling = false ∧ Kept keeper.settle.crew := by
    refine runReady_keeps (fun keeper => keeper.handling = false ∧ Kept keeper.crew) ?_ _
      keeper ⟨unattended, first⟩
    intro keeper task rest _ ⟨idle, kept⟩
    cases task with
    | handler =>
        simp only [runTask, idle, Bool.false_eq_true, ↓reduceIte]
        exact ⟨trivial, kept⟩
    | worker worker => exact ⟨idle, round keeper.crew worker kept⟩
  exact kept.2

theorem callOff_keeps (Kept : Crew P L → Prop) (winding : Winding Kept)
    (keeper : Timekeeper P L) (unattended : keeper.handling = false) (whom : Worker → Bool)
    (first : Kept keeper.crew) : Kept (keeper.callOff whom).crew := by
  unfold callOff
  split
  · apply settle_unattended Kept winding.round
    · exact unattended
    · exact winding.dismiss keeper.crew whom first
  · exact first

theorem callOff_without (keeper : Timekeeper P L) (unattended : keeper.handling = false)
    (whom : Worker → Bool) : (keeper.callOff whom).crew.Without whom := by
  unfold callOff
  split
  · apply settle_unattended (Crew.Without whom) (Crew.winding_without whom).round
    · exact unattended
    · intro worker live
      simpa using (List.mem_filter.mp live).2
  next nobody =>
    intro worker live
    simp only [List.any_eq_true, not_exists, not_and, Bool.not_eq_true] at nobody
    exact nobody worker live

/-- Nobody presses a key any more, and the meter has stopped. -/
def halted (keeper : Timekeeper P L) : Timekeeper P L :=
  (keeper.close .detachHandler).close .haltWatch

/-- The calls that leave no worker. -/
def calls : List (Worker → Bool) := [Worker.isRenderer, Worker.isStepper, Worker.isBlinker]

def deserted (keeper : Timekeeper P L) : Timekeeper P L := calls.foldl callOff keeper.halted

theorem shutDown_eq (keeper : Timekeeper P L) :
    keeper.shutDown = keeper.deserted.updateUnit keeper.deserted.crew.unit.putAway := by
  simp only [shutDown, Closing.all, List.foldl_cons, List.foldl_nil, close, deserted, calls,
    halted, updateUnit, Instrument.putAway]

theorem deserted_eq (keeper : Timekeeper P L) :
    keeper.deserted = (Closing.all.take 5).foldl close keeper := rfl

theorem handling_detach (keeper : Timekeeper P L) :
    (keeper.close .detachHandler).handling = false := by
  simp only [close]
  split
  · exact ((steady_sameHandler _).settle _ (.refl _)).handling
  next idle => exact eq_false_of_ne_true idle

theorem reads_detach (keeper : Timekeeper P L) :
    (keeper.close .detachHandler).crew.Reads keeper.crew.unit.now
      (keeper.crew.unit.watch.meter.elapsed keeper.crew.unit.now)
      keeper.crew.unit.watch.mode := by
  simp only [close]
  split
  · apply settle_unattended _ (Crew.winding_reads _ _ _).round
    · rfl
    · exact ⟨rfl, rfl, rfl⟩
  · exact ⟨rfl, rfl, rfl⟩

theorem handling_halted (keeper : Timekeeper P L) : keeper.halted.handling = false :=
  handling_detach keeper

/-- The time stops at what it was, and the mode stays. -/
theorem halted_stands (keeper : Timekeeper P L) :
    keeper.halted.crew.unit.watch.meter.running = false ∧
      (∀ later, keeper.halted.crew.unit.watch.meter.elapsed later =
        keeper.crew.unit.watch.meter.elapsed keeper.crew.unit.now) ∧
      keeper.halted.crew.unit.watch.mode = keeper.crew.unit.watch.mode := by
  -- Rounds may have been done while the handler went; the time still reads the same.
  obtain ⟨clock, time, mode⟩ := reads_detach keeper
  have halts : keeper.halted.crew.unit.watch =
      ((keeper.close .detachHandler).crew.unit.watch.halt
        (keeper.close .detachHandler).crew.unit.now).1 := rfl
  rw [halts, clock]
  generalize (keeper.close .detachHandler).crew.unit.watch = watch at time mode ⊢
  by_cases runs : watch.meter.running = true
  · rw [Stopwatch.halt_running watch _ runs]
    refine ⟨Meter.running_stop _ _, ?_, mode⟩
    intro later
    rw [Meter.elapsed_stop, time]
  · have rests := eq_false_of_ne_true runs
    rw [Stopwatch.halt_resting watch _ rests]
    refine ⟨rests, ?_, mode⟩
    intro later
    rw [Meter.elapsed_resting watch.meter keeper.crew.unit.now later rests, time]

/-- Workers called off one after the other are all gone in the end: what comes after a
dismissal brings nobody back. -/
theorem callOffs (calls : List (Worker → Bool)) (keeper : Timekeeper P L)
    (unattended : keeper.handling = false) :
    (calls.foldl callOff keeper).handling = false ∧
      (∀ Kept, Winding Kept → Kept keeper.crew → Kept (calls.foldl callOff keeper).crew) ∧
      ∀ whom ∈ calls, (calls.foldl callOff keeper).crew.Without whom := by
  induction calls generalizing keeper with
  | nil => exact ⟨unattended, fun _ _ first => first, by simp⟩
  | cons first rest ih =>
      have idle := (sameHandler_callOff keeper first).handling.trans unattended
      obtain ⟨idle', keeps, without⟩ := ih (keeper.callOff first) idle
      refine ⟨idle', ?_, ?_⟩
      · intro Kept winding kept
        exact keeps Kept winding (callOff_keeps Kept winding keeper unattended first kept)
      · intro whom held
        rcases List.mem_cons.mp held with rfl | held
        · exact keeps _ (Crew.winding_without whom) (callOff_without keeper unattended whom)
        · exact without whom held

theorem handling_deserted (keeper : Timekeeper P L) : keeper.deserted.handling = false :=
  (callOffs calls keeper.halted (handling_halted keeper)).1

theorem deserted_stands (keeper : Timekeeper P L) :
    keeper.deserted.crew.Stands keeper.halted.crew.unit.watch.meter
      keeper.halted.crew.unit.watch.mode := by
  have rests := (halted_stands keeper).1
  have keeps := (callOffs calls keeper.halted (handling_halted keeper)).2.1
  exact keeps _ (Crew.winding_stands _ _ rests) ⟨rfl, rfl⟩

theorem workers_deserted (keeper : Timekeeper P L) : keeper.deserted.crew.workers = [] := by
  have without := (callOffs calls keeper.halted (handling_halted keeper)).2.2
  apply List.eq_nil_iff_forall_not_mem.mpr
  intro worker live
  cases worker with
  | renderer => exact absurd (without Worker.isRenderer (by simp [calls]) _ live) nofun
  | stepper session => exact absurd (without Worker.isStepper (by simp [calls]) _ live) nofun
  | blinker => exact absurd (without Worker.isBlinker (by simp [calls]) _ live) nofun

/-- Nothing runs, nothing is left of the laps, nobody is at work, and all is dark. -/
structure AtRest (faces : Registers P Display.Position UInt8) (lights : Registers L Lamp Bool)
    (keeper : Timekeeper P L) : Prop where
  stopped : keeper.crew.unit.watch.meter.running = false
  live : keeper.crew.unit.watch.replay.active = false
  unpending : keeper.crew.unit.watch.replay.clearAfter = false
  /-- No laps, and both cursors at the end. -/
  book : keeper.crew.unit.watch.book = {}
  blinker : keeper.crew.unit.watch.blinker = {}
  refreshing : keeper.crew.unit.watch.refreshing = false
  workers : keeper.crew.workers = []
  unattended : keeper.handling = false
  due : keeper.ready = []
  asleep : keeper.asleep = []
  dark : ∀ position, faces.value keeper.crew.unit.panel position = Display.off
  unlit : ∀ lamp, lights.value keeper.crew.unit.lamps lamp = false

variable {faces : Registers P Display.Position UInt8} {lights : Registers L Lamp Bool}

/-- A sound timekeeper without workers and without a handler has an empty agenda. -/
theorem Sound.nothing_due {keeper : Timekeeper P L} (sound : keeper.Sound faces lights)
    (workers : keeper.crew.workers = []) (unattended : keeper.handling = false) :
    keeper.ready = [] ∧ keeper.asleep = [] := by
  have unbooked : ∀ worker, keeper.booked worker = 0 := by
    intro worker
    rw [sound.booked worker, workers, List.count_nil]
  constructor
  · apply List.eq_nil_iff_forall_not_mem.mpr
    intro task due
    cases task with
    | handler => exact Bool.false_ne_true (unattended.symm.trans (sound.posted due))
    | worker worker =>
        have none := (Nat.add_eq_zero_iff.mp (unbooked worker)).1
        exact List.count_eq_zero.mp none due
  · apply List.eq_nil_iff_forall_not_mem.mpr
    intro entry held
    have none := (Nat.add_eq_zero_iff.mp (unbooked entry.2)).2
    exact List.count_eq_zero.mp none (List.mem_map_of_mem held)

theorem sound_shutDown (keeper : Timekeeper P L) (sound : keeper.Sound faces lights) :
    keeper.shutDown.Sound faces lights := by
  unfold shutDown
  exact sound_closes Closing.all keeper sound

theorem shutDown_atRest (keeper : Timekeeper P L) (sound : keeper.Sound faces lights) :
    keeper.shutDown.AtRest faces lights := by
  have workers := workers_deserted keeper
  have unattended := handling_deserted keeper
  have stands := (deserted_stands keeper).meter
  have there : keeper.deserted.Sound faces lights := by
    rw [deserted_eq]
    exact sound_closes _ keeper sound
  have closed := sound_shutDown keeper sound
  rw [shutDown_eq] at closed ⊢
  generalize keeper.deserted = deserted at workers unattended stands there closed ⊢
  obtain ⟨panel, lamps⟩ := there.working
  have ⟨due, asleep⟩ := closed.nothing_due workers unattended
  exact {
    stopped := (congrArg Meter.running stands).trans (halted_stands keeper).1
    live := rfl
    unpending := rfl
    book := rfl
    blinker := rfl
    refreshing := rfl
    workers
    unattended
    due
    asleep
    dark := Display.dark_blank faces deserted.crew.unit.panel panel
    unlit := Lamp.unlit_allOff lights deserted.crew.unit.lamps lamps }

/-- A timekeeper at rest is shut down by darkening its devices once more. -/
theorem AtRest.shutDown_again {keeper : Timekeeper P L} (rest : keeper.AtRest faces lights) :
    keeper.shutDown = keeper.updateUnit keeper.crew.unit.darken.lampsOff := by
  have detached : keeper.close .detachHandler = keeper := by
    simp [close, rest.unattended]
  have halted : keeper.halted = keeper := by
    rw [Timekeeper.halted, detached, close, Stopwatch.halt_resting _ _ rest.stopped]
    rfl
  have called : ∀ whom, keeper.callOff whom = keeper := by
    intro whom
    simp [callOff, rest.workers]
  have deserted : keeper.deserted = keeper := by
    rw [Timekeeper.deserted, halted]
    simp only [calls, List.foldl_cons, List.foldl_nil, called]
  have wiped := keeper.crew.unit.watch.wipe_resting rest.live rest.unpending rest.book
    rest.blinker rest.refreshing
  rw [shutDown_eq, deserted, Instrument.putAway, wiped]

theorem AtRest.unchanged {keeper : Timekeeper P L} (rest : keeper.AtRest faces lights) :
    keeper.shutDown.crew.unit.watch = keeper.crew.unit.watch ∧
      keeper.shutDown.line = keeper.line := by
  rw [rest.shutDown_again]
  exact ⟨rfl, rfl⟩

theorem AtRest.idle {keeper : Timekeeper P L} (rest : keeper.AtRest faces lights)
    (worker : Worker) : keeper.crew.unit.watch.countsOn worker = false := by
  cases worker with
  | renderer => exact rest.refreshing
  | stepper session => simp [Stopwatch.countsOn, rest.live]
  | blinker => simp [Stopwatch.countsOn, rest.blinker]

theorem watch_shutDown (keeper : Timekeeper P L) :
    keeper.shutDown.crew.unit.watch = keeper.deserted.crew.unit.watch.wipe := by
  rw [shutDown_eq]
  generalize keeper.deserted = deserted
  rfl

theorem shutDown_elapsed (keeper : Timekeeper P L) (later : UInt64) :
    keeper.shutDown.crew.unit.watch.meter.elapsed later =
      keeper.crew.unit.watch.meter.elapsed keeper.crew.unit.now := by
  rw [watch_shutDown, Stopwatch.meter_wipe, (deserted_stands keeper).meter]
  exact (halted_stands keeper).2.1 later

theorem shutDown_mode (keeper : Timekeeper P L) :
    keeper.shutDown.crew.unit.watch.mode = keeper.crew.unit.watch.mode := by
  rw [watch_shutDown, Stopwatch.mode_wipe, (deserted_stands keeper).mode]
  exact (halted_stands keeper).2.2

theorem onward_shutDown (keeper : Timekeeper P L) : Onward keeper keeper.shutDown := by
  unfold shutDown
  exact onward_closes Closing.all keeper

/-- A shutdown from any state that a timekeeper with working devices can reach leaves it
at rest, with the mode as it was and the time stopped at that instant. If a handler was
ever attached the line is closed for good. Shutting down again changes nothing. And in
whatever order turns come to the instrument afterwards, the first key of each kind asks
for its worker anew; all that comes to it before a next shutdown are turns, with no key
pressed in them but those that the operations press. -/
theorem shutDown_complete (faces : Registers P Display.Position UInt8)
    (lights : Registers L Lamp Bool) (settings : TimerSettings) (panel : P) (lamps : L)
    (working : faces.Works panel) (lit : lights.Works lamps) (ops : List TimekeeperOp) :
    let keeper := ((start settings panel lamps).run ops).1
    let closed := keeper.shutDown
    closed.AtRest faces lights ∧
      closed.crew.unit.watch.mode = keeper.crew.unit.watch.mode ∧
      (∀ later, closed.crew.unit.watch.meter.elapsed later =
        keeper.crew.unit.watch.meter.elapsed keeper.crew.unit.now) ∧
      (.attach ∈ ops →
        closed.line.isClosed = true ∧ ∀ more, ((closed.run more).1.raise).2 = false) ∧
      (closed.shutDown.AtRest faces lights ∧
        closed.shutDown.crew.unit.watch = closed.crew.unit.watch ∧
        closed.shutDown.line = closed.line) ∧
      closed.crew.unit.AsksAnew ∧
      ∀ more, (∀ op ∈ more, op.IsTurn) →
        ∃ turns, (closed.run more).1.crew.unit = closed.crew.unit.after turns ∧
          ∀ key, .press key ∈ turns → closed.PressedIn more key := by
  intro keeper closed
  have sound : keeper.Sound faces lights := sound_run settings panel lamps working lit ops
  have sound' : closed.Sound faces lights := sound_shutDown keeper sound
  have rest : closed.AtRest faces lights := shutDown_atRest keeper sound
  refine ⟨rest, shutDown_mode keeper, shutDown_elapsed keeper, ?_, ?_, ?_, ?_⟩
  · intro attached
    have taken : closed.attachable = false :=
      (onward_shutDown keeper).attached (attached_run _ ops attached)
    have shut : closed.line.receiving = false := sound'.closed taken rest.unattended
    constructor
    · simp [Interrupt.isClosed, shut]
    · exact fun more => raise_closed _ ((onward_run closed more).closed shut)
  · exact ⟨shutDown_atRest closed sound', rest.unchanged⟩
  · exact closed.crew.unit.asksAnew rest.stopped rest.idle
  · exact run_turns closed

/-- Shut down while the stopwatch runs, a replay is on with a clear to come, and the
lap lamp blinks. -/
theorem shutDown_complete_busy :
    let ops : List TimekeeperOp := [.attach, .press .run, .sleep 30, .press .lap, .press .run,
      .press .replay, .sleep 1, .press .reset, .press .run, .sleep 20]
    let keeper := ((start {} ({} : Display.Panel) ({} : LampBank)).run ops).1
    let watch := keeper.crew.unit.watch
    let closed := keeper.shutDown
    Display.Panel.registers.Works {} ∧ LampBank.registers.Works {} ∧
      (watch.meter.running = true ∧ watch.replay.active = true ∧
        watch.replay.clearAfter = true ∧ watch.blinker.active = true ∧
        keeper.crew.workers.length = 3) ∧
      closed.crew.workers = [] ∧ closed.crew.unit.panel.isDark = true ∧
      closed.crew.unit.lamps.register = 0 ∧ closed.line.isClosed = true ∧
      ∀ later, closed.crew.unit.watch.meter.elapsed later = 20000000 := by
  intro ops keeper watch closed
  have works : Display.Panel.registers.Works {} := rfl
  have lit : LampBank.registers.Works {} := rfl
  have busy : watch.meter.running = true ∧ watch.replay.active = true ∧
      watch.replay.clearAfter = true ∧ watch.blinker.active = true ∧
      keeper.crew.workers.length = 3 := by decide +kernel
  have time : keeper.crew.unit.watch.meter.elapsed keeper.crew.unit.now = 20000000 := by
    decide +kernel
  have attached : .attach ∈ ops := by simp [ops]
  obtain ⟨rest, -, elapsed, line, -⟩ :=
    shutDown_complete Display.Panel.registers LampBank.registers {} {} {} works lit ops
  -- What was run does not matter any more, and is not to be run again.
  clear_value ops
  refine ⟨works, lit, busy, rest.workers, ?_, ?_, (line attached).1, ?_⟩
  · exact Display.Panel.isDark_off _ rest.dark
  · exact LampBank.register_unlit _ rest.unlit
  · intro later
    exact (elapsed later).trans time

/-- A reset during a replay asks for the blink worker for the lap that it adds, so the
first lap that is captured afterwards asks for none. -/
theorem first_capture_unasked :
    ¬ ∀ (ops : List TimekeeperOp) (turns : List Turn),
      let begin : Timekeeper Display.Panel LampBank := start {} {} {}
      let closed := (begin.run ops).1.shutDown
      let given := ((closed.crew.unit.after turns).press .lap).2
      .press .lap ∉ turns → given.newLap.isSome = true → given.startBlinker = true := by
  intro asks
  have asked := asks [] [.press .replay, .press .reset, .press .run] (by simp) (by decide)
  exact absurd asked (by decide)

end Timekeeper

end LapTimer
