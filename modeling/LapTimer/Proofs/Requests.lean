import LapTimer.Proofs.WorkerProtocol

/-! Who asks for the workers. Only a key makes a stopwatch count on a worker that it did not
count on before, by asking for that worker. -/

namespace LapTimer

namespace Stopwatch

/-- Each key has the workers that it may ask for. -/
theorem Pressed.asked {watch next : Stopwatch} {now : UInt64} {key : Key} {orders : Orders}
    (row : Pressed watch now key next orders) :
    (orders.startRenderer = true → key = .run) ∧
      (orders.startStepper.isSome = true → key = .replay) ∧
      (orders.startBlinker = true →
        orders.newLap.isSome = true ∧ (key = .lap ∨ key = .reset)) := by
  cases row <;> simp [Orders.none, beginReplay, leaveReplay]

theorem Pressed.run_asks {watch next : Stopwatch} {now : UInt64} {orders : Orders}
    (row : Pressed watch now .run next orders) (rests : watch.meter.running = false)
    (idle : watch.refreshing = false) : orders.startRenderer = true := by
  cases row with
  | started _ => simp [idle]
  | stopped runs => simp [rests] at runs

theorem Pressed.replay_asks {watch next : Stopwatch} {now : UInt64} {orders : Orders}
    (row : Pressed watch now .replay next orders) (live : watch.replay.active = false) :
    orders.startStepper.isSome = true := by
  cases row with
  | replayBegun _ => rfl
  | replayLeft replays => simp [live] at replays

theorem Pressed.lap_asks {watch next : Stopwatch} {now : UInt64} {orders : Orders}
    (row : Pressed watch now .lap next orders) (added : orders.newLap.isSome = true) :
    orders.startBlinker = !watch.blinker.active := by
  cases row with
  | lapIgnored _ => simp [Orders.none] at added
  | lapAdded _ _ => rfl
  | lapDropped _ _ => simp [Orders.none] at added

theorem Refreshed.counted_before {watch next : Stopwatch} {now : UInt64}
    {outcome : RenderOutcome} (row : Refreshed watch now next outcome) (other : Worker)
    (counted : next.countsOn other = true) : watch.countsOn other = true := by
  cases other with
  | renderer =>
      cases row with
      | ended _ => exact absurd counted Bool.false_ne_true
      | forced _ _ => exact absurd counted Bool.false_ne_true
      | shown _ _ => exact counted
  | stepper session => cases row <;> exact counted
  | blinker => cases row <;> exact counted

theorem ReplayStepped.counted_before {watch next : Stopwatch} {session : UInt32}
    {now : UInt64} {outcome : ReplayOutcome}
    (row : ReplayStepped watch session now next outcome) (other : Worker)
    (counted : next.countsOn other = true) : watch.countsOn other = true := by
  cases other with
  | renderer => cases row <;> exact counted
  | stepper another =>
      cases row with
      | stale _ => exact counted
      | shown _ _ _ => exact counted
      | ended _ _ _ => exact absurd counted Bool.false_ne_true
  | blinker => cases row <;> exact counted

theorem blink_counted_before (watch : Stopwatch) (other : Worker)
    (counted : watch.blink.1.countsOn other = true) : watch.countsOn other = true := by
  simp only [blink, Blinker.tick] at counted
  by_cases left : 0 < watch.blinker.remaining
  · simp only [if_pos left] at counted
    cases other <;> exact counted
  · simp only [if_neg left] at counted
    cases other with
    | renderer => exact counted
    | stepper session => exact counted
    | blinker => exact absurd counted Bool.false_ne_true

theorem Worked.counted_before {watch next : Stopwatch} {now : UInt64} {worker : Worker}
    {goesOn : Bool} (round : Worked watch now worker next goesOn) (other : Worker)
    (counted : next.countsOn other = true) : watch.countsOn other = true := by
  cases round with
  | rendered row => exact row.counted_before other counted
  | stepped row => exact row.counted_before other counted
  | blinked => exact watch.blink_counted_before other counted

end Stopwatch

namespace Instrument

variable {P L : Type} [Sink P Display.Write] [Sink L Switch]

/-- A turn is a key, or the round of a worker, or leaves all but the laps and the mode
as it was. -/
theorem turn_cases (unit : Instrument P L) (turn : Turn) :
    (∃ key, turn = .press key) ∨
      (∃ worker : Worker, turn = worker.turn) ∨
      ∃ book mode, (unit.step turn.op).1.watch = { unit.watch with book, mode } := by
  cases turn with
  | press key => exact .inl ⟨key, rfl⟩
  | renderRound => exact .inr (.inl ⟨.renderer, rfl⟩)
  | replayRound session => exact .inr (.inl ⟨.stepper session, rfl⟩)
  | blinkRound => exact .inr (.inl ⟨.blinker, rfl⟩)
  | readRecord => exact .inr (.inr ⟨_, _, rfl⟩)
  | readInto buffer =>
      refine .inr (.inr ?_)
      simp only [Turn.op, step, readInto]
      split <;> exact ⟨_, _, rfl⟩
  | readPass =>
      have kept := unit.watch.readPass_keeps unit.now
      exact .inr (.inr ⟨_, _, kept⟩)
  | setMode mode => exact .inr (.inr ⟨_, mode, rfl⟩)
  | storeMode text =>
      refine .inr (.inr ?_)
      simp only [Turn.op, step, storeMode]
      split <;> exact ⟨_, _, rfl⟩
  | moveClock move => exact .inr (.inr ⟨_, _, rfl⟩)

/-- A worker is counted on after a turn if it was before, or if the turn is a key that
asks for it. -/
theorem countsOn_turn (unit : Instrument P L) (turn : Turn) (worker : Worker)
    (counted : (unit.step turn.op).1.watch.countsOn worker = true) :
    unit.watch.countsOn worker = true ∨
      ∃ key, turn = .press key ∧ (unit.press key).2.asksFor worker = true := by
  rcases turn_cases unit turn with ⟨key, rfl⟩ | ⟨other, rfl⟩ | ⟨book, mode, same⟩
  · have row := Stopwatch.press_row unit.watch unit.now key
    have pressed : (unit.step (Turn.press key).op).1.watch = _ := watch_press unit key
    rw [pressed, row.countsOn worker, Bool.or_eq_true, Bool.and_eq_true] at counted
    rcases counted with asked | ⟨-, before⟩
    · exact .inr ⟨key, rfl, asked⟩
    · exact .inl before
  · rw [← Crew.work_turn] at counted
    exact .inl ((Crew.work_row unit other).counted_before worker counted)
  · rw [same] at counted
    exact .inl counted

theorem refreshing_turn (unit : Instrument P L) (turn : Turn)
    (follows : unit.watch.meter.running = true → unit.watch.refreshing = true)
    (runs : (unit.step turn.op).1.watch.meter.running = true) :
    (unit.step turn.op).1.watch.refreshing = true := by
  rcases turn_cases unit turn with ⟨key, rfl⟩ | ⟨worker, rfl⟩ | ⟨book, mode, same⟩
  · have row := Stopwatch.press_row unit.watch unit.now key
    have pressed : (unit.step (Turn.press key).op).1.watch = _ := watch_press unit key
    rw [pressed] at runs ⊢
    exact row.refreshing follows runs
  · rw [← Crew.work_turn] at runs ⊢
    exact (Crew.work_row unit worker).refreshing follows runs
  · rw [same] at runs ⊢
    exact follows runs

/-- Among the turns there is a press of the key that was answered by these orders. -/
def Answered (start : Instrument P L) (turns : List Turn) (key : Key) (given : Orders) : Prop :=
  ∃ before rest, turns = before ++ .press key :: rest ∧ ((start.after before).press key).2 = given

theorem Answered.pressed {start : Instrument P L} {turns : List Turn} {key : Key}
    {given : Orders} (answered : start.Answered turns key given) : .press key ∈ turns := by
  obtain ⟨before, rest, rfl, -⟩ := answered
  simp

theorem Answered.snoc {start : Instrument P L} {turns : List Turn} {key : Key}
    {given : Orders} (answered : start.Answered turns key given) (turn : Turn) :
    start.Answered (turns ++ [turn]) key given := by
  obtain ⟨before, rest, rfl, told⟩ := answered
  exact ⟨before, rest ++ [turn], by simp, told⟩

theorem Answered.row {start : Instrument P L} {turns : List Turn} {key : Key}
    {given : Orders} (answered : start.Answered turns key given) :
    ∃ watch now next, Stopwatch.Pressed watch now key next given := by
  obtain ⟨before, rest, -, rfl⟩ := answered
  exact ⟨_, _, _, Stopwatch.press_row (start.after before).watch (start.after before).now key⟩

theorem counted_answered (start : Instrument P L) (worker : Worker)
    (idle : start.watch.countsOn worker = false) (turns : List Turn)
    (counted : (start.after turns).watch.countsOn worker = true) :
    ∃ key given, start.Answered turns key given ∧ given.asksFor worker = true := by
  induction turns using List.reverseRecOn with
  | nil => exact absurd (idle.symm.trans counted) Bool.false_ne_true
  | append_singleton turns turn ih =>
      rw [after_snoc] at counted
      rcases countsOn_turn _ turn worker counted with before | ⟨key, rfl, asked⟩
      · obtain ⟨key, given, answered, asked⟩ := ih before
        exact ⟨key, given, answered.snoc turn, asked⟩
      · exact ⟨key, _, ⟨turns, [], rfl, rfl⟩, asked⟩

theorem after_refreshing (start : Instrument P L)
    (follows : start.watch.meter.running = true → start.watch.refreshing = true)
    (turns : List Turn) (runs : (start.after turns).watch.meter.running = true) :
    (start.after turns).watch.refreshing = true := by
  induction turns using List.reverseRecOn with
  | nil => exact follows runs
  | append_singleton turns turn ih =>
      rw [after_snoc] at runs ⊢
      exact refreshing_turn _ turn ih runs

section

variable (start : Instrument P L) (idle : ∀ worker, start.watch.countsOn worker = false)
  (turns : List Turn)

include idle

theorem unasked_until_run (fresh : .press .run ∉ turns) :
    (start.after turns).watch.refreshing = false := by
  apply eq_false_of_ne_true
  intro counted
  obtain ⟨key, given, answered, asked⟩ :=
    counted_answered start .renderer (idle .renderer) turns counted
  obtain ⟨_, _, _, told⟩ := answered.row
  obtain rfl := told.asked.1 asked
  exact fresh answered.pressed

-- A meter that runs counts on a render worker, and none is counted on.
theorem stopped_until_run (rests : start.watch.meter.running = false)
    (fresh : .press .run ∉ turns) : (start.after turns).watch.meter.running = false := by
  have unasked := unasked_until_run start idle turns fresh
  have follows : start.watch.meter.running = true → start.watch.refreshing = true :=
    fun runs => absurd (rests.symm.trans runs) Bool.false_ne_true
  apply eq_false_of_ne_true
  intro runs
  have counted := after_refreshing start follows turns runs
  exact Bool.false_ne_true (unasked.symm.trans counted)

theorem live_until_replay (fresh : .press .replay ∉ turns) :
    (start.after turns).watch.replay.active = false := by
  apply eq_false_of_ne_true
  intro replays
  have counted := ((start.after turns).watch.countsOn_stepper _).mpr ⟨replays, rfl⟩
  obtain ⟨key, given, answered, asked⟩ := counted_answered start _ (idle _) turns counted
  obtain ⟨_, _, _, told⟩ := answered.row
  have started : given.startStepper.isSome = true := by
    simp only [Orders.asksFor, beq_iff_eq] at asked
    rw [asked]
    rfl
  obtain rfl := told.asked.2.1 started
  exact fresh answered.pressed

/-- A blink that is on though no lap was captured is that of a reset during a replay. -/
theorem blink_of_reset
    (fresh : ∀ given, start.Answered turns .lap given → given.newLap = none)
    (active : (start.after turns).watch.blinker.active = true) :
    ∃ given, start.Answered turns .reset given ∧ given.newLap.isSome = true ∧
      given.startBlinker = true := by
  obtain ⟨key, given, answered, asked⟩ :=
    counted_answered start .blinker (idle .blinker) turns active
  obtain ⟨_, _, _, told⟩ := answered.row
  obtain ⟨lap, rfl | rfl⟩ := told.asked.2.2 asked
  · simp [fresh given answered] at lap
  · exact ⟨given, answered, lap, asked⟩

end

/-- Whatever is done with the instrument, the first key of each kind asks for its
worker: the first key that runs the stopwatch, the first that replays, and the first
that captures a lap. The last finds the blink worker at work only where a reset during
a replay has asked for it, for the lap that it added. -/
structure AsksAnew (start : Instrument P L) : Prop where
  renderer : ∀ turns, .press .run ∉ turns →
    ((start.after turns).press .run).2.startRenderer = true
  stepper : ∀ turns, .press .replay ∉ turns →
    ((start.after turns).press .replay).2.startStepper.isSome = true
  blinker : ∀ turns, (∀ given, start.Answered turns .lap given → given.newLap = none) →
    ((start.after turns).press .lap).2.newLap.isSome = true →
    ((start.after turns).press .lap).2.startBlinker = true ∨
      (start.after turns).watch.blinker.active = true ∧
        ∃ given, start.Answered turns .reset given ∧ given.newLap.isSome = true ∧
          given.startBlinker = true

theorem asksAnew (start : Instrument P L) (rests : start.watch.meter.running = false)
    (idle : ∀ worker, start.watch.countsOn worker = false) : start.AsksAnew := by
  have row := fun turns key =>
    Stopwatch.press_row (start.after turns).watch (start.after turns).now key
  constructor
  · intro turns fresh
    have stopped := stopped_until_run start idle turns rests fresh
    exact (row turns .run).run_asks stopped (unasked_until_run start idle turns fresh)
  · intro turns fresh
    exact (row turns .replay).replay_asks (live_until_replay start idle turns fresh)
  · intro turns fresh added
    have asks := (row turns .lap).lap_asks added
    by_cases active : (start.after turns).watch.blinker.active = true
    · exact .inr ⟨active, blink_of_reset start idle turns fresh active⟩
    · rw [orders_press, asks]
      exact .inl (by simp [active])

end Instrument

end LapTimer
