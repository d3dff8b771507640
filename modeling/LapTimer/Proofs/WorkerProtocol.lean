import LapTimer.Crew
import LapTimer.Settings
import LapTimer.Proofs.DeviceFrame

/-! The workers and the stopwatch. By its flags a stopwatch counts on workers, and those that
are alive are always those that are counted on, each of them once. -/

namespace LapTimer

inductive WorkerKind where
  | render
  | replay
  | blink
  deriving DecidableEq, Repr

def Worker.kind : Worker → WorkerKind
  | .renderer => .render
  | .stepper _ => .replay
  | .blinker => .blink

/-- A round of a worker, as a turn of the instrument. -/
def Worker.turn : Worker → Turn
  | .renderer => .renderRound
  | .stepper session => .replayRound session
  | .blinker => .blinkRound

def Stopwatch.countsOn (watch : Stopwatch) : Worker → Bool
  | .renderer => watch.refreshing
  | .stepper session => watch.replay.active && watch.replay.session == session
  | .blinker => watch.blinker.active

def Orders.asksFor (orders : Orders) : Worker → Bool
  | .renderer => orders.startRenderer
  | .stepper session => orders.startStepper == some session
  | .blinker => orders.startBlinker

def RenderOutcome.goesOn : RenderOutcome → Bool
  | .go _ => true
  | .stopped _ => false

def ReplayOutcome.goesOn : ReplayOutcome → Bool
  | .lap _ => true
  | _ => false

def BlinkOutcome.goesOn : BlinkOutcome → Bool
  | .toggle _ => true
  | .done => false

theorem Orders.count_starts (orders : Orders) (worker : Worker) :
    orders.starts.count worker = if orders.asksFor worker then 1 else 0 := by
  have single : ∀ (asked : Bool) (kind : Worker),
      (if asked then [kind] else []).count worker = if asked ∧ kind = worker then 1 else 0 := by
    intro asked kind
    cases asked <;> simp [List.count_singleton]
  have steppers : (orders.startStepper.map Worker.stepper).toList.count worker =
      if orders.startStepper.map Worker.stepper = some worker then 1 else 0 := by
    cases orders.startStepper <;> simp [List.count_singleton]
  rw [starts, List.count_append, List.count_append, single, single, steppers]
  cases worker with
  | renderer => cases asked : orders.startRenderer <;> simp [asksFor, asked]
  | stepper session => simp [asksFor]
  | blinker => cases asked : orders.startBlinker <;> simp [asksFor, asked]

theorem Orders.mem_starts (orders : Orders) (worker : Worker) :
    worker ∈ orders.starts ↔ orders.asksFor worker = true := by
  rw [← List.count_pos_iff, Orders.count_starts]
  split <;> simp [*]

theorem Stopwatch.countsOn_stepper (watch : Stopwatch) (session : UInt32) :
    watch.countsOn (.stepper session) = true ↔
      watch.replay.active = true ∧ watch.replay.session = session := by
  simp [countsOn]

namespace Stopwatch

/-- A key asks only for workers that were not counted on, and calls the stepper off
only with the end of its replay. -/
theorem Pressed.countsOn {watch next : Stopwatch} {now : UInt64} {key : Key} {orders : Orders}
    (row : Pressed watch now key next orders) (worker : Worker) :
    next.countsOn worker =
      (orders.asksFor worker ||
        !(orders.dismissStepper && worker.isStepper) && watch.countsOn worker) := by
  cases row with
  | started rests => cases worker <;> simp [Stopwatch.countsOn, Orders.asksFor]
  | stopped runs => cases worker <;> simp [Stopwatch.countsOn, Orders.asksFor]
  | lapIgnored rests => cases worker <;> simp [Stopwatch.countsOn, Orders.asksFor, Orders.none]
  | lapAdded runs captured =>
      cases worker <;> simp [Stopwatch.countsOn, Orders.asksFor, Blinker.arm]
  | lapDropped runs refused =>
      cases worker <;> simp [Stopwatch.countsOn, Orders.asksFor, Orders.none]
  | replayBegun live =>
      cases worker <;> simp [Stopwatch.countsOn, Orders.asksFor, beginReplay, live]
  | replayLeft replays =>
      cases worker <;> simp [Stopwatch.countsOn, Orders.asksFor, leaveReplay, Worker.isStepper]
  | resetIgnored runs =>
      cases worker <;> simp [Stopwatch.countsOn, Orders.asksFor, Orders.none]
  | resetCleared rests live => cases worker <;> simp [Stopwatch.countsOn, Orders.asksFor]
  | resetAdded rests replays captured =>
      cases worker <;> simp [Stopwatch.countsOn, Orders.asksFor, Blinker.arm]
  | resetDropped rests replays refused =>
      cases worker <;> simp [Stopwatch.countsOn, Orders.asksFor, Orders.none]

theorem blinker_before (watch : Stopwatch) (worker other : Worker) (lap : Lap)
    (asked : Orders.asksFor
      { newLap := some lap, startBlinker := (watch.blinker.arm watch.blinks).2 } worker = true)
    (same : other.kind = worker.kind) : watch.countsOn other = false := by
  cases worker with
  | blinker =>
      cases other with
      | blinker => simpa [Orders.asksFor, Blinker.arm, Stopwatch.countsOn] using asked
      | _ => simp [Worker.kind] at same
  | _ => simp [Orders.asksFor] at asked

/-- Of the kind that a key asks for no worker was counted on. -/
theorem Pressed.none_before {watch next : Stopwatch} {now : UInt64} {key : Key}
    {orders : Orders} (row : Pressed watch now key next orders) (worker other : Worker)
    (asked : orders.asksFor worker = true) (same : other.kind = worker.kind) :
    watch.countsOn other = false := by
  cases row with
  | started rests =>
      cases worker with
      | renderer =>
          cases other with
          | renderer => simpa [Orders.asksFor, Stopwatch.countsOn] using asked
          | _ => simp [Worker.kind] at same
      | _ => simp [Orders.asksFor] at asked
  | replayBegun live =>
      cases worker with
      | stepper session =>
          cases other with
          | stepper present => simp [Stopwatch.countsOn, live]
          | _ => simp [Worker.kind] at same
      | _ => simp [Orders.asksFor, beginReplay] at asked
  | lapAdded _ _ => exact blinker_before watch worker other _ asked same
  | resetAdded _ _ _ => exact blinker_before watch worker other _ asked same
  | _ => cases worker <;> simp [Orders.asksFor, Orders.none, leaveReplay] at asked

/-- The workers that are counted on stay the same, but for the one that did a round:
it is counted on if it goes on. -/
theorem Refreshed.countsOn {watch next : Stopwatch} {now : UInt64} {outcome : RenderOutcome}
    (row : Refreshed watch now next outcome) (counted : watch.countsOn .renderer = true)
    (other : Worker) :
    next.countsOn other =
      if other = .renderer then outcome.goesOn else watch.countsOn other := by
  cases row with
  | ended rests => cases other <;> simp [Stopwatch.countsOn, RenderOutcome.goesOn]
  | forced runs reached => cases other <;> simp [Stopwatch.countsOn, RenderOutcome.goesOn]
  | shown runs below =>
      have refreshing : watch.refreshing = true := counted
      cases other <;> simp [Stopwatch.countsOn, RenderOutcome.goesOn, refreshing]

theorem ReplayStepped.countsOn {watch next : Stopwatch} {session : UInt32} {now : UInt64}
    {outcome : ReplayOutcome} (row : ReplayStepped watch session now next outcome)
    (counted : watch.countsOn (.stepper session) = true) (other : Worker) :
    next.countsOn other =
      if other = .stepper session then outcome.goesOn else watch.countsOn other := by
  have ⟨replays, current⟩ := (watch.countsOn_stepper session).mp counted
  cases row with
  | stale other => simp [replays, current] at other
  | shown _ _ next =>
      by_cases same : other = .stepper session
      · rw [if_pos same, same]
        exact counted
      · rw [if_neg same]
        rfl
  | ended _ _ past =>
      cases other with
      | stepper another =>
          by_cases same : another = session
          · simp [Stopwatch.countsOn, leaveReplay, ReplayOutcome.goesOn, same]
          · simp [Stopwatch.countsOn, leaveReplay, current, same, Ne.symm same]
      | _ => simp [Stopwatch.countsOn, leaveReplay]

theorem countsOn_blink (watch : Stopwatch) (counted : watch.countsOn .blinker = true)
    (other : Worker) :
    watch.blink.1.countsOn other =
      if other = .blinker then watch.blink.2.goesOn else watch.countsOn other := by
  have active : watch.blinker.active = true := counted
  unfold blink Blinker.tick
  by_cases left : 0 < watch.blinker.remaining
  · simp only [if_pos left]
    cases other <;> simp [Stopwatch.countsOn, BlinkOutcome.goesOn, active]
  · simp only [if_neg left]
    cases other <;> simp [Stopwatch.countsOn, BlinkOutcome.goesOn]

theorem Pressed.refreshing {watch next : Stopwatch} {now : UInt64} {key : Key}
    {orders : Orders} (row : Pressed watch now key next orders)
    (follows : watch.meter.running = true → watch.refreshing = true)
    (runs : next.meter.running = true) : next.refreshing = true := by
  cases row with
  | started rests => rfl
  | stopped _ =>
      have rests := Meter.running_stop watch.meter now
      exact absurd (rests.symm.trans runs) Bool.false_ne_true
  | resetCleared _ _ => exact follows ((Meter.running_reset watch.meter).symm.trans runs)
  | resetAdded _ _ _ => exact follows ((Meter.running_reset watch.meter).symm.trans runs)
  | resetDropped _ _ _ => exact follows ((Meter.running_reset watch.meter).symm.trans runs)
  | _ => exact follows runs

theorem Refreshed.refreshing {watch next : Stopwatch} {now : UInt64} {outcome : RenderOutcome}
    (row : Refreshed watch now next outcome)
    (follows : watch.meter.running = true → watch.refreshing = true)
    (runs : next.meter.running = true) : next.refreshing = true := by
  cases row with
  | ended rests => exact absurd (rests.symm.trans runs) Bool.false_ne_true
  | forced _ reached =>
      have rests := Meter.running_forced watch.meter now reached
      exact absurd (rests.symm.trans runs) Bool.false_ne_true
  | shown _ _ => exact follows runs

/-- The round of a worker: whichever it is, its table has the row. -/
inductive Worked (watch : Stopwatch) (now : UInt64) : Worker → Stopwatch → Bool → Prop
  | rendered {next : Stopwatch} {outcome : RenderOutcome}
      (row : Refreshed watch now next outcome) :
      Worked watch now .renderer next outcome.goesOn
  | stepped {session : UInt32} {next : Stopwatch} {outcome : ReplayOutcome}
      (row : ReplayStepped watch session now next outcome) :
      Worked watch now (.stepper session) next outcome.goesOn
  | blinked : Worked watch now .blinker watch.blink.1 watch.blink.2.goesOn

/-- After a round a stopwatch counts on the same workers as before, and on the one
that did the round if it goes on. -/
theorem Worked.countsOn {watch next : Stopwatch} {now : UInt64} {worker : Worker}
    {goesOn : Bool} (round : Worked watch now worker next goesOn)
    (counted : watch.countsOn worker = true) (other : Worker) :
    next.countsOn other = if other = worker then goesOn else watch.countsOn other := by
  cases round with
  | rendered row => exact row.countsOn counted other
  | stepped row => exact row.countsOn counted other
  | blinked => exact watch.countsOn_blink counted other

theorem Worked.refreshing {watch next : Stopwatch} {now : UInt64} {worker : Worker}
    {goesOn : Bool} (round : Worked watch now worker next goesOn)
    (follows : watch.meter.running = true → watch.refreshing = true)
    (runs : next.meter.running = true) : next.refreshing = true := by
  cases round with
  | rendered row => exact row.refreshing follows runs
  | stepped row => cases row <;> exact follows runs
  | blinked => exact follows runs

end Stopwatch

namespace Crew

variable {P L : Type}

/-- The workers that are alive are those that the stopwatch counts on, each once. -/
structure Manned (crew : Crew P L) : Prop where
  counted : ∀ worker,
    crew.workers.count worker = if crew.unit.watch.countsOn worker then 1 else 0
  refreshing : crew.unit.watch.meter.running = true → crew.unit.watch.refreshing = true

theorem Manned.mem_iff {crew : Crew P L} (manned : crew.Manned) (worker : Worker) :
    worker ∈ crew.workers ↔ crew.unit.watch.countsOn worker = true := by
  rw [← List.count_pos_iff, manned.counted worker]
  split <;> simp [*]

theorem manned_start (settings : TimerSettings) (now : UInt64) (panel : P) (lamps : L) :
    Manned { unit := { watch := settings.watch, now, panel, lamps } } := by
  constructor
  · intro worker
    cases worker <;> rfl
  · exact id

/-- Two workers of a kind are the same worker: there is only one session to step. -/
theorem Manned.same_kind {crew : Crew P L} (manned : crew.Manned) (worker other : Worker)
    (live : worker ∈ crew.workers) (live' : other ∈ crew.workers)
    (same : other.kind = worker.kind) : other = worker := by
  have counted := (manned.mem_iff worker).mp live
  have counted' := (manned.mem_iff other).mp live'
  cases worker with
  | renderer =>
      cases other with
      | renderer => rfl
      | stepper another => exact nomatch same
      | blinker => exact nomatch same
  | stepper session =>
      cases other with
      | renderer => exact nomatch same
      | stepper another =>
          have current := (Stopwatch.countsOn_stepper _ _).mp counted
          have current' := (Stopwatch.countsOn_stepper _ _).mp counted'
          rw [← current.2, ← current'.2]
      | blinker => exact nomatch same
  | blinker =>
      cases other with
      | renderer => exact nomatch same
      | stepper another => exact nomatch same
      | blinker => rfl

theorem Manned.one_of_kind {crew : Crew P L} (manned : crew.Manned) (kind : WorkerKind) :
    crew.workers.countP (·.kind == kind) ≤ 1 := by
  have kept : (crew.workers.filter (·.kind == kind)).Sublist crew.workers :=
    List.filter_sublist
  have alike : ∀ worker ∈ crew.workers.filter (·.kind == kind),
      worker ∈ crew.workers ∧ worker.kind = kind := by
    simp
  rw [List.countP_eq_length_filter]
  generalize crew.workers.filter (·.kind == kind) = kin at kept alike
  match kin with
  | [] => simp
  | [_] => simp
  | first :: second :: rest =>
      have ⟨live, isKind⟩ := alike first (by simp)
      have ⟨live', isKind'⟩ := alike second (by simp)
      have same := manned.same_kind first second live live' (isKind'.trans isKind.symm)
      have twice := kept.count_le first
      have once := manned.counted first
      rw [if_pos ((manned.mem_iff first).mp live)] at once
      simp [same] at twice
      omega

theorem count_dismiss (crew : Crew P L) (whom : Worker → Bool) (worker : Worker) :
    (crew.dismiss whom).workers.count worker =
      if whom worker then 0 else crew.workers.count worker := by
  by_cases called : whom worker = true
  · rw [if_pos called, List.count_eq_zero]
    simp [dismiss, called]
  · rw [if_neg called]
    exact List.count_filter (by simp [called])

@[simp] theorem unit_follow (crew : Crew P L) (orders : Orders) :
    (crew.follow orders).unit = crew.unit := by
  unfold follow
  split <;> rfl

theorem count_follow (crew : Crew P L) (orders : Orders) (worker : Worker) :
    (crew.follow orders).workers.count worker =
      (if orders.dismissStepper && worker.isStepper then 0 else crew.workers.count worker) +
        if orders.asksFor worker then 1 else 0 := by
  rw [follow, List.count_append, Orders.count_starts]
  cases orders.dismissStepper with
  | false => simp
  | true => simp [count_dismiss]

variable [Sink P Display.Write] [Sink L Switch]

theorem press_follow (crew : Crew P L) (key : Key) :
    (crew.press key).1 =
      follow { crew with unit := (crew.unit.press key).1 } (crew.unit.press key).2 := rfl

theorem watch_press (crew : Crew P L) (key : Key) :
    (crew.press key).1.unit.watch = (crew.unit.watch.press crew.unit.now key).1 := by
  rw [press_follow, unit_follow]
  exact Instrument.watch_press crew.unit key

theorem manned_press (crew : Crew P L) (key : Key) (manned : crew.Manned) :
    (crew.press key).1.Manned := by
  have row := Stopwatch.press_row crew.unit.watch crew.unit.now key
  constructor
  · intro worker
    have fresh := row.none_before worker worker
    have before := manned.counted worker
    rw [watch_press, row.countsOn worker, press_follow, count_follow, Instrument.orders_press]
    generalize (crew.unit.watch.press crew.unit.now key).2 = orders at fresh
    cases asked : orders.asksFor worker with
    | true =>
        rw [fresh asked rfl] at before
        simp [before]
    | false => cases orders.dismissStepper && worker.isStepper <;> simp [before]
  · rw [watch_press]
    exact row.refreshing manned.refreshing

theorem work_renderer (unit : Instrument P L) :
    work unit .renderer = (unit.renderRound.1, unit.renderRound.2.goesOn) := by
  simp only [work]
  cases unit.renderRound with
  | mk next outcome => cases outcome <;> rfl

theorem work_stepper (unit : Instrument P L) (session : UInt32) :
    work unit (.stepper session) =
      ((unit.replayRound session).1, (unit.replayRound session).2.goesOn) := by
  simp only [work]
  cases unit.replayRound session with
  | mk next outcome => cases outcome <;> rfl

theorem work_blinker (unit : Instrument P L) :
    work unit .blinker = (unit.blinkRound.1, unit.blinkRound.2.goesOn) := by
  simp only [work]
  cases unit.blinkRound with
  | mk next outcome => cases outcome <;> rfl

theorem work_turn (unit : Instrument P L) (worker : Worker) :
    (work unit worker).1 = (unit.step worker.turn.op).1 := by
  cases worker with
  | renderer =>
      rw [work_renderer]
      rfl
  | stepper session =>
      rw [work_stepper]
      rfl
  | blinker =>
      rw [work_blinker]
      rfl

theorem round_unit (crew : Crew P L) (worker : Worker) :
    (crew.round worker).1.unit = crew.unit ∨
      (crew.round worker).1.unit = (crew.unit.step worker.turn.op).1 := by
  unfold round
  split
  · exact .inr (work_turn crew.unit worker)
  · exact .inl rfl

theorem work_row (unit : Instrument P L) (worker : Worker) :
    Stopwatch.Worked unit.watch unit.now worker (work unit worker).1.watch
      (work unit worker).2 := by
  cases worker with
  | renderer =>
      obtain ⟨leads, answers, -⟩ := Instrument.renderRound_frame unit
      rw [work_renderer, leads, answers]
      exact .rendered (Stopwatch.refresh_row unit.watch unit.now)
  | stepper session =>
      obtain ⟨leads, answers, -⟩ := Instrument.replayRound_frame unit session
      rw [work_stepper, leads, answers]
      exact .stepped (Stopwatch.stepReplay_row unit.watch session unit.now)
  | blinker =>
      obtain ⟨leads, answers, -⟩ := Instrument.blinkRound_frame unit
      rw [work_blinker, leads, answers]
      exact .blinked

theorem now_work (unit : Instrument P L) (worker : Worker) :
    (work unit worker).1.now = unit.now := by
  cases worker with
  | renderer =>
      rw [work_renderer]
      exact (Instrument.renderRound_frame unit).2.2
  | stepper session =>
      rw [work_stepper]
      exact (Instrument.replayRound_frame unit session).2.2
  | blinker =>
      rw [work_blinker]
      exact (Instrument.blinkRound_frame unit).2.2

theorem count_round (crew : Crew P L) (worker other : Worker) (live : worker ∈ crew.workers) :
    (crew.round worker).1.workers.count other =
      crew.workers.count other -
        if (crew.round worker).2 = false ∧ other = worker then 1 else 0 := by
  have alive : crew.isLive worker = true := by simpa [isLive] using live
  simp only [round, alive, ↓reduceIte]
  cases (work crew.unit worker).2 with
  | true => simp
  | false => simp [List.count_erase, eq_comm (a := worker)]

theorem manned_round (crew : Crew P L) (worker : Worker) (manned : crew.Manned) :
    (crew.round worker).1.Manned := by
  by_cases live : worker ∈ crew.workers
  · have counted := (manned.mem_iff worker).mp live
    have alive : crew.isLive worker = true := by simpa [isLive] using live
    constructor
    · intro other
      have gone := count_round crew worker other live
      have before := manned.counted other
      have after := (work_row crew.unit worker).countsOn counted other
      simp only [round, alive, ↓reduceIte] at gone ⊢
      rw [gone, before, after]
      by_cases same : other = worker
      · cases (work crew.unit worker).2 <;> simp [same, counted]
      · simp [same]
    · simp only [round, alive, ↓reduceIte]
      exact (work_row crew.unit worker).refreshing manned.refreshing
  · have gone : crew.isLive worker = false := by simpa [isLive] using live
    simp only [round, gone, Bool.false_eq_true, ↓reduceIte]
    exact manned

theorem manned_step (crew : Crew P L) (op : CrewOp) (manned : crew.Manned) :
    (crew.step op).Manned := by
  cases op with
  | press key => exact manned_press crew key manned
  | round worker => exact manned_round crew worker manned
  | moveClock move => exact ⟨manned.counted, manned.refreshing⟩

theorem manned_run (crew : Crew P L) (ops : List CrewOp) (manned : crew.Manned) :
    (crew.run ops).Manned :=
  List.foldlRecOn ops Crew.step manned fun crew manned op _ => manned_step crew op manned

/-- After any keys, clock moves and rounds of live workers, in any order: at most one
worker of a kind is alive, and a key asks only for a kind that has none; a running
stopwatch has its render worker; a stepper is alive exactly during a replay and is
never stale; a blink worker is alive exactly while the blinker is active. -/
theorem workers_match_flags (settings : TimerSettings) (now : UInt64) (panel : P) (lamps : L)
    (ops : List CrewOp) :
    let start : Crew P L := { unit := { watch := settings.watch, now, panel, lamps } }
    let final := start.run ops
    let watch := final.unit.watch
    (∀ kind : WorkerKind, final.workers.countP (·.kind == kind) ≤ 1) ∧
      (∀ key, ∀ worker ∈ (final.press key).2.starts, ∀ live ∈ final.workers,
        live.kind ≠ worker.kind) ∧
      (watch.meter.running = true → .renderer ∈ final.workers) ∧
      (watch.replay.active = true ↔ ∃ session, .stepper session ∈ final.workers) ∧
      (∀ session, .stepper session ∈ final.workers →
        session = watch.replay.session ∧ (final.unit.replayRound session).2 ≠ .stale) ∧
      (watch.blinker.active = true ↔ .blinker ∈ final.workers) := by
  intro start final watch
  have manned : final.Manned := manned_run start ops (manned_start settings now panel lamps)
  refine ⟨manned.one_of_kind, ?_, ?_, ?_, ?_, (manned.mem_iff .blinker).symm⟩
  · intro key worker started live held same
    have row := Stopwatch.press_row watch final.unit.now key
    have asked : (watch.press final.unit.now key).2.asksFor worker = true :=
      (Orders.mem_starts _ worker).mp started
    have counted := (manned.mem_iff live).mp held
    exact Bool.false_ne_true ((row.none_before worker live asked same).symm.trans counted)
  · exact fun runs => (manned.mem_iff .renderer).mpr (manned.refreshing runs)
  · constructor
    · intro replays
      have counted := (watch.countsOn_stepper watch.replay.session).mpr ⟨replays, rfl⟩
      exact ⟨watch.replay.session, (manned.mem_iff _).mpr counted⟩
    · rintro ⟨session, live⟩
      exact ((watch.countsOn_stepper session).mp ((manned.mem_iff _).mp live)).1
  · intro session live
    have ⟨replays, current⟩ :=
      (watch.countsOn_stepper session).mp ((manned.mem_iff _).mp live)
    refine ⟨current.symm, ?_⟩
    rw [(Instrument.replayRound_frame final.unit session).2.1]
    intro stale
    have row := Stopwatch.stepReplay_row watch session final.unit.now
    generalize (watch.stepReplay session final.unit.now).1 = next at row
    rw [stale] at row
    cases row with
    | stale other => simp [replays, current] at other

end Crew

end LapTimer
