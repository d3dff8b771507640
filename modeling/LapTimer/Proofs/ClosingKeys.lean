import LapTimer.Proofs.Shutdown
import Mathlib.Data.List.Basic

/-! Keys that are pressed while a shutdown is under way. Each stage does its part once, and
what a key brings back after that stage stays. -/

namespace LapTimer

open Timekeeper (Closing)

/-- The keys that may ask for a worker of a kind. -/
def WorkerKind.keys : WorkerKind → List Key
  | .render => [.run]
  | .replay => [.replay]
  | .blink => [.lap, .reset]

/-- The stage that calls off the workers of a kind. -/
def WorkerKind.ending : WorkerKind → Closing
  | .render => .endRenderer
  | .replay => .endStepper
  | .blink => .endBlinker

/-- A stage of a shutdown and all that come after it. -/
def Timekeeper.Closing.onward (stage : Closing) : List Closing :=
  Closing.all.dropWhile (· != stage)

theorem Timekeeper.Closing.all_split (stage : Closing) :
    Closing.all = Closing.all.takeWhile (· != stage) ++ stage :: stage.onward.tail ∧
      stage.onward = stage :: stage.onward.tail := by
  cases stage <;> decide

namespace Stopwatch

theorem running_halt (watch : Stopwatch) (now : UInt64) :
    (watch.halt now).1.meter.running = false := by
  by_cases runs : watch.meter.running = true
  · rw [halt_running watch now runs]
    exact Meter.running_stop _ _
  · have rests := eq_false_of_ne_true runs
    rw [halt_resting watch now rests]
    exact rests

theorem countsOn_halt (watch : Stopwatch) (now : UInt64) (worker : Worker) :
    (watch.halt now).1.countsOn worker = watch.countsOn worker := by
  by_cases runs : watch.meter.running = true
  · rw [halt_running watch now runs]
    cases worker <;> rfl
  · rw [halt_resting watch now (eq_false_of_ne_true runs)]

end Stopwatch

variable {P L : Type} [Sink P Display.Write] [Sink L Switch]

namespace Crew

/-- What a stage of a shutdown does to the crew by itself. -/
def close (crew : Crew P L) : Closing → Crew P L
  | .detachHandler => crew
  | .haltWatch =>
      { crew with unit := { crew.unit with watch := (crew.unit.watch.halt crew.unit.now).1 } }
  | .endRenderer => crew.dismiss Worker.isRenderer
  | .endStepper => crew.dismiss Worker.isStepper
  | .endBlinker => crew.dismiss Worker.isBlinker
  | .wipeWatch => { crew with unit := { crew.unit with watch := crew.unit.watch.wipe } }
  | .darken => { crew with unit := crew.unit.darken.lampsOff }

/-- Stages of a shutdown, with what is done between each of them and the next. -/
def closeAmid (meanwhile : Closing → List CrewOp) (crew : Crew P L) (stages : List Closing) :
    Crew P L :=
  stages.foldl (fun crew stage => (crew.close stage).run (meanwhile stage)) crew

/-- Kept by all that is done to a crew while it is shut down, certain keys apart. -/
structure KeptBut (keys : List Key) (Kept : Crew P L → Prop) : Prop where
  press : ∀ crew, ∀ key ∉ keys, Kept crew → Kept (crew.press key).1
  round : ∀ crew worker, Kept crew → Kept (crew.round worker).1
  moveClock : ∀ crew move, Kept crew → Kept (crew.step (.moveClock move))
  close : ∀ crew stage, Kept crew → Kept (crew.close stage)

theorem KeptBut.run {keys : List Key} {Kept : Crew P L → Prop} (keeps : KeptBut keys Kept)
    (crew : Crew P L) (ops : List CrewOp) (quiet : ∀ key ∈ keys, .press key ∉ ops)
    (kept : Kept crew) : Kept (crew.run ops) := by
  refine List.foldlRecOn ops Crew.step kept fun crew kept op done => ?_
  cases op with
  | press key => exact keeps.press crew key (fun held => quiet key held done) kept
  | round worker => exact keeps.round crew worker kept
  | moveClock move => exact keeps.moveClock crew move kept

theorem KeptBut.closeAmid {keys : List Key} {Kept : Crew P L → Prop}
    (keeps : KeptBut keys Kept) (meanwhile : Closing → List CrewOp) (crew : Crew P L)
    (stages : List Closing) (quiet : ∀ stage ∈ stages, ∀ key ∈ keys, .press key ∉ meanwhile stage)
    (kept : Kept crew) : Kept (crew.closeAmid meanwhile stages) := by
  refine List.foldlRecOn stages _ kept fun crew kept stage held => ?_
  exact keeps.run _ _ (quiet stage held) (keeps.close crew stage kept)

/-- What a stage brings about holds in the end, if nobody presses those keys from then on. -/
theorem KeptBut.brought_about {keys : List Key} {Kept : Crew P L → Prop}
    (keeps : KeptBut keys Kept) (stage : Closing)
    (done : ∀ crew : Crew P L, Kept (crew.close stage)) (crew : Crew P L)
    (meanwhile : Closing → List CrewOp)
    (quiet : ∀ later ∈ stage.onward, ∀ key ∈ keys, .press key ∉ meanwhile later) :
    Kept (crew.closeAmid meanwhile Closing.all) := by
  -- Whatever the stages before it and their keys have left, the stage does its part.
  obtain ⟨split, onward⟩ := stage.all_split
  rw [onward] at quiet
  rw [Crew.closeAmid, split, List.foldl_append, List.foldl_cons]
  apply keeps.closeAmid meanwhile _ _ fun later held => quiet later (.tail stage held)
  exact keeps.run _ _ (quiet stage (.head _)) (done _)

theorem keptBut_resting :
    KeptBut (P := P) (L := L) [.run] fun crew => crew.unit.watch.meter.running = false where
  press crew key other rests := by
    have row := Stopwatch.press_row crew.unit.watch crew.unit.now key
    rw [watch_press]
    generalize (crew.unit.watch.press crew.unit.now key).1 = next at row ⊢
    generalize (crew.unit.watch.press crew.unit.now key).2 = orders at row
    cases row with
    | started _ => simp at other
    | stopped _ => simp at other
    | resetCleared _ _ => exact (Meter.running_reset _).trans rests
    | resetAdded _ _ _ => exact (Meter.running_reset _).trans rests
    | resetDropped _ _ _ => exact (Meter.running_reset _).trans rests
    | _ => exact rests
  round crew worker rests := by
    obtain ⟨-, -, kept⟩ := round_keeps crew worker
    rw [Meter.stopAtLimit_resting _ _ rests, or_self] at kept
    rw [kept, rests]
  moveClock crew move rests := rests
  close crew stage rests := by
    cases stage with
    | haltWatch =>
        simp only [close, Stopwatch.halt_resting _ _ rests]
        exact rests
    | _ => exact rests

theorem resting_halted (crew : Crew P L) :
    (crew.close .haltWatch).unit.watch.meter.running = false :=
  crew.unit.watch.running_halt crew.unit.now

/-- A worker that comes with a key is of a kind that the key may ask for. -/
theorem asked_key (crew : Crew P L) (key : Key) (worker : Worker)
    (live : worker ∈ (crew.press key).1.workers) :
    worker ∈ crew.workers ∨ key ∈ worker.kind.keys := by
  have asked := (Stopwatch.press_row crew.unit.watch crew.unit.now key).asked
  rw [press_follow, Instrument.orders_press] at live
  generalize (crew.unit.watch.press crew.unit.now key).2 = orders at asked live
  obtain ⟨renderer, stepper, blinker⟩ := asked
  rcases List.mem_append.mp live with kept | started
  · left
    split at kept
    · exact (List.mem_filter.mp kept).1
    · exact kept
  · right
    have asks := (Orders.mem_starts orders worker).mp started
    cases worker with
    | renderer => simp [WorkerKind.keys, Worker.kind, renderer asks]
    | stepper session =>
        have some : orders.startStepper.isSome = true := by
          rw [beq_iff_eq.mp asks]
          rfl
        simp [WorkerKind.keys, Worker.kind, stepper some]
    | blinker => simp [WorkerKind.keys, Worker.kind, (blinker asks).2]

theorem keptBut_without (kind : WorkerKind) :
    KeptBut (P := P) (L := L) kind.keys (Without fun worker => worker.kind == kind) where
  press crew key other without worker live := by
    rcases crew.asked_key key worker live with before | asked
    · exact without worker before
    · apply beq_false_of_ne
      rintro rfl
      exact other asked
  round crew worker without := (winding_without _).round crew worker without
  moveClock crew move without := without
  close crew stage without := by
    cases stage with
    | endRenderer => exact (winding_without _).dismiss crew _ without
    | endStepper => exact (winding_without _).dismiss crew _ without
    | endBlinker => exact (winding_without _).dismiss crew _ without
    | _ => exact without

theorem close_ending (crew : Crew P L) (kind : WorkerKind) :
    crew.close kind.ending = crew.dismiss fun worker => worker.kind == kind := by
  cases kind <;> exact congrArg crew.dismiss (funext fun worker => by cases worker <;> rfl)

theorem without_ended (crew : Crew P L) (kind : WorkerKind) :
    (crew.close kind.ending).Without fun worker => worker.kind == kind := by
  rw [close_ending]
  intro worker live
  simpa using (List.mem_filter.mp live).2

/-- The stopwatch counts on no worker. -/
def Uncounted (crew : Crew P L) : Prop := ∀ worker, crew.unit.watch.countsOn worker = false

theorem keptBut_uncounted :
    KeptBut (P := P) (L := L) [.run, .lap, .replay, .reset] Uncounted where
  press crew key other _ := by cases key <;> simp at other
  round crew worker uncounted := by
    intro another
    apply eq_false_of_ne_true
    intro counted
    have before : crew.unit.watch.countsOn another = true := by
      rcases round_unit crew worker with same | turned
      · rwa [same] at counted
      · rw [turned, ← work_turn] at counted
        exact (work_row crew.unit worker).counted_before another counted
    exact Bool.false_ne_true ((uncounted another).symm.trans before)
  moveClock _ _ uncounted := uncounted
  close crew stage uncounted := by
    intro worker
    cases stage with
    | haltWatch =>
        have same := crew.unit.watch.countsOn_halt crew.unit.now worker
        exact same.trans (uncounted worker)
    | wipeWatch => cases worker <;> rfl
    | _ => exact uncounted worker

theorem uncounted_wiped (crew : Crew P L) : (crew.close .wipeWatch).Uncounted := by
  intro worker
  cases worker <;> rfl

end Crew

namespace Timekeeper

def pressAll (keeper : Timekeeper P L) (keys : List Key) : Timekeeper P L :=
  keys.foldl (fun keeper key => (keeper.press key).1) keeper

/-- Shuts down while others press keys, between each stage and the next. -/
def shutDownAmid (keeper : Timekeeper P L) (keys : Closing → List Key) : Timekeeper P L :=
  Closing.all.foldl (fun keeper stage => (keeper.close stage).pressAll (keys stage)) keeper

theorem pressAll_crew (keeper : Timekeeper P L) (keys : List Key) :
    (keeper.pressAll keys).crew = keeper.crew.run (keys.map .press) := by
  induction keys generalizing keeper with
  | nil => rfl
  | cons key rest ih =>
      rw [pressAll, List.foldl_cons, ← pressAll, ih, (keeper.press_frame key).1]
      rfl

theorem handling_pressAll (keeper : Timekeeper P L) (keys : List Key) :
    (keeper.pressAll keys).handling = keeper.handling := by
  induction keys generalizing keeper with
  | nil => rfl
  | cons key rest ih => exact (ih (keeper.press key).1).trans (keeper.press_frame key).2.1

/-- Without a handler, what is due while a stage waits are rounds. -/
theorem settle_rounds (keeper : Timekeeper P L) (unattended : keeper.handling = false) :
    ∃ rounds : List Worker, keeper.settle.crew = keeper.crew.run (rounds.map .round) := by
  apply settle_unattended (fun crew => ∃ rounds : List Worker,
    crew = keeper.crew.run (rounds.map .round)) ?_ keeper unattended ⟨[], rfl⟩
  rintro _ worker ⟨rounds, rfl⟩
  exact ⟨rounds ++ [worker], by simp [Crew.run, Crew.step]⟩

theorem callOff_rounds (keeper : Timekeeper P L) (unattended : keeper.handling = false)
    (whom : Worker → Bool) :
    (keeper.callOff whom).handling = false ∧ ∃ rounds : List Worker,
      (keeper.callOff whom).crew = (keeper.crew.dismiss whom).run (rounds.map .round) := by
  refine ⟨(sameHandler_callOff keeper whom).handling.trans unattended, ?_⟩
  unfold callOff
  split
  · exact settle_rounds _ unattended
  next nobody =>
    have none : keeper.crew.workers.filter (fun worker => !whom worker) =
        keeper.crew.workers := by
      simpa using nobody
    exact ⟨[], by simp [Crew.dismiss, Crew.run, none]⟩

/-- A stage does its part to the crew; then come the rounds that are due while it waits. -/
theorem close_rounds (keeper : Timekeeper P L) (stage : Closing)
    (unattended : keeper.handling = false ∨ stage = .detachHandler) :
    (keeper.close stage).handling = false ∧ ∃ rounds : List Worker,
      (keeper.close stage).crew = (keeper.crew.close stage).run (rounds.map .round) := by
  cases stage with
  | detachHandler =>
      refine ⟨handling_detach keeper, ?_⟩
      simp only [close]
      split
      · exact settle_rounds _ rfl
      · exact ⟨[], rfl⟩
  | endRenderer => exact callOff_rounds keeper (unattended.resolve_right (by decide)) _
  | endStepper => exact callOff_rounds keeper (unattended.resolve_right (by decide)) _
  | endBlinker => exact callOff_rounds keeper (unattended.resolve_right (by decide)) _
  | _ => exact ⟨unattended.resolve_right (by decide), [], rfl⟩

theorem closes_amid (keys : Closing → List Key) (stages : List Closing)
    (distinct : stages.Nodup) (keeper : Timekeeper P L)
    (unattended : keeper.handling = false ∨ stages.head? = some .detachHandler) :
    ∃ meanwhile : Closing → List CrewOp,
      (stages.foldl (fun keeper stage => (keeper.close stage).pressAll (keys stage)) keeper).crew =
        keeper.crew.closeAmid meanwhile stages ∧
      ∀ stage key, .press key ∈ meanwhile stage → key ∈ keys stage := by
  induction stages generalizing keeper with
  | nil => exact ⟨fun _ => [], rfl, fun _ _ => nofun⟩
  | cons stage rest ih =>
      obtain ⟨fresh, distinct⟩ := List.nodup_cons.mp distinct
      obtain ⟨idle, rounds, closed⟩ := close_rounds keeper stage (by simpa using unattended)
      have idle' := (handling_pressAll (keeper.close stage) (keys stage)).trans idle
      obtain ⟨later, same, told⟩ := ih distinct _ (.inl idle')
      let ops := rounds.map CrewOp.round ++ (keys stage).map .press
      refine ⟨Function.update later stage ops, ?_, ?_⟩
      · have here : (keeper.crew.close stage).run ops =
            ((keeper.close stage).pressAll (keys stage)).crew := by
          rw [pressAll_crew, closed]
          exact List.foldl_append
        simp only [Crew.closeAmid, List.foldl_cons] at same ⊢
        rw [same, Function.update_self, here]
        apply List.foldl_ext
        intro crew other held
        have different : other ≠ stage := fun again => fresh (again ▸ held)
        rw [Function.update_of_ne different]
      · intro other key pressed
        by_cases here : other = stage
        · subst here
          simpa [ops] using pressed
        · rw [Function.update_of_ne here] at pressed
          exact told other key pressed

theorem shutDownAmid_crew (keeper : Timekeeper P L) (keys : Closing → List Key) :
    ∃ meanwhile : Closing → List CrewOp,
      (keeper.shutDownAmid keys).crew = keeper.crew.closeAmid meanwhile Closing.all ∧
      ∀ stage key, .press key ∈ meanwhile stage → key ∈ keys stage :=
  closes_amid keys Closing.all (by decide) keeper (.inr rfl)

theorem shutDownAmid_none (keeper : Timekeeper P L) :
    (keeper.shutDownAmid fun _ => []) = keeper.shutDown := rfl

end Timekeeper

namespace Crew

/--
What a shutdown achieves however keys, rounds and the clock come in between its stages. The
meter has stopped, unless the key that starts it was pressed after the halt. A worker that
is alive in the end is of a kind that was asked for by a key pressed after that kind was
called off. So where no key is pressed from the halt on, the meter has stopped and nobody is
alive. Where none is pressed from the wiping on, the stopwatch at least counts on nobody. All
this is what a timekeeper does that is shut down amid keys.
-/
theorem closing_amid_keys (crew : Crew P L) (meanwhile : Closing → List CrewOp) :
    let closed := crew.closeAmid meanwhile Closing.all
    ((∀ stage ∈ Closing.haltWatch.onward, .press .run ∉ meanwhile stage) →
        closed.unit.watch.meter.running = false) ∧
      (∀ worker ∈ closed.workers, ∃ stage ∈ worker.kind.ending.onward,
        ∃ key ∈ worker.kind.keys, .press key ∈ meanwhile stage) ∧
      ((∀ stage ∈ Closing.haltWatch.onward, ∀ key, .press key ∉ meanwhile stage) →
        closed.unit.watch.meter.running = false ∧ closed.workers = []) ∧
      ((∀ stage ∈ Closing.wipeWatch.onward, ∀ key, .press key ∉ meanwhile stage) →
        ∀ worker, closed.unit.watch.countsOn worker = false) ∧
      ∀ (keeper : Timekeeper P L) (keys : Closing → List Key),
        ∃ between : Closing → List CrewOp,
          (keeper.shutDownAmid keys).crew = keeper.crew.closeAmid between Closing.all ∧
          ∀ stage key, .press key ∈ between stage → key ∈ keys stage := by
  intro closed
  have stopped : (∀ stage ∈ Closing.haltWatch.onward, .press .run ∉ meanwhile stage) →
      closed.unit.watch.meter.running = false := by
    intro quiet
    apply keptBut_resting.brought_about .haltWatch resting_halted crew meanwhile
    intro stage held key isRun
    rw [List.mem_singleton.mp isRun]
    exact quiet stage held
  have asked : ∀ worker ∈ closed.workers, ∃ stage ∈ worker.kind.ending.onward,
      ∃ key ∈ worker.kind.keys, .press key ∈ meanwhile stage := by
    intro worker live
    by_contra none
    have quiet : ∀ stage ∈ worker.kind.ending.onward, ∀ key ∈ worker.kind.keys,
        .press key ∉ meanwhile stage :=
      fun stage held key asks pressed => none ⟨stage, held, key, asks, pressed⟩
    have gone := (keptBut_without worker.kind).brought_about worker.kind.ending
      (fun met => without_ended met worker.kind) crew meanwhile quiet worker live
    simp at gone
  refine ⟨stopped, asked, ?_, ?_, Timekeeper.shutDownAmid_crew⟩
  · intro quiet
    refine ⟨stopped fun stage held => quiet stage held .run, ?_⟩
    apply List.eq_nil_iff_forall_not_mem.mpr
    intro worker live
    obtain ⟨stage, held, key, -, pressed⟩ := asked worker live
    have later : ∀ kind : WorkerKind, ∀ stage ∈ kind.ending.onward,
        stage ∈ Closing.haltWatch.onward := by
      intro kind
      cases kind <;> decide
    exact quiet stage (later worker.kind stage held) key pressed
  · intro quiet
    exact keptBut_uncounted.brought_about .wipeWatch uncounted_wiped crew meanwhile
      fun stage held key _ => quiet stage held key

end Crew

namespace Timekeeper

/-- A run key right after the halt starts the meter again, and nothing stops it any more. A
key after the call for its worker brings one that is left alive. -/
theorem closing_undone :
    (¬ ∀ (ops : List TimekeeperOp) (keys : Closing → List Key),
      keys .wipeWatch = [] → keys .darken = [] →
        let keeper : Timekeeper Display.Panel LampBank := ((start {} {} {}).run ops).1
        (keeper.shutDownAmid keys).crew.unit.watch.meter.running = false) ∧
      ¬ ∀ (ops : List TimekeeperOp) (keys : Closing → List Key),
        keys .wipeWatch = [] → keys .darken = [] →
          let keeper : Timekeeper Display.Panel LampBank := ((start {} {} {}).run ops).1
          (keeper.shutDownAmid keys).crew.workers = [] := by
  constructor
  · intro stops
    have stopped := stops [.press .run] (fun stage => if stage = .haltWatch then [.run] else [])
      rfl rfl
    exact absurd stopped (by decide +kernel)
  · intro leaves
    have left := leaves [] (fun stage => if stage = .endBlinker then [.run, .lap, .replay] else [])
      rfl rfl
    exact absurd left (by decide +kernel)

end Timekeeper

end LapTimer
