import LapTimer.Proofs.KeyStrikes

/-! The wakes of a timekeeper. Whenever a worker wakes no task is due, and it is the one that
has to wake first; so where all workers have a period a pause ends when its caller asked for.
-/

namespace LapTimer

/-- What the clock of an instrument says at an instant. -/
def clockAt (instant : Nat) : UInt64 := .ofNat (instant * 1000000)

theorem Orders.length_starts (orders : Orders) : orders.starts.length ≤ 3 := by
  have stepper : (orders.startStepper.map Worker.stepper).toList.length ≤ 1 := by
    cases orders.startStepper <;> simp
  have single : ∀ (asked : Bool) (kind : Worker),
      (if asked then [kind] else []).length ≤ 1 := by
    intro asked kind
    cases asked <;> simp
  have renderer := single orders.startRenderer .renderer
  have blinker := single orders.startBlinker .blinker
  simp only [starts, List.length_append]
  omega

def TimekeeperOp.pause : TimekeeperOp → Nat
  | .sleep millis => millis
  | _ => 0

/-- For how long the caller pauses altogether. -/
def TimekeeperOp.pauses : List TimekeeperOp → Nat
  | [] => 0
  | op :: rest => op.pause + pauses rest

namespace Timekeeper

variable {P L : Type}

/-- At most so many tasks will be run before none is due. -/
def toRun (keeper : Timekeeper P L) : Nat := keeper.ready.length + 3 * keeper.line.queued

theorem nextWake_none (keeper : Timekeeper P L) (none : keeper.nextWake = none) :
    keeper.asleep = [] := by
  simpa [nextWake] using none

theorem nextWake_some (keeper : Timekeeper P L) (instant : Nat)
    (first : keeper.nextWake = some instant) :
    (∃ entry ∈ keeper.asleep, entry.1 = instant) ∧
      ∀ entry ∈ keeper.asleep, instant ≤ entry.1 := by
  obtain ⟨held, least⟩ := List.min?_eq_some_iff.mp first
  exact ⟨List.mem_map.mp held, fun entry inside => least entry.1 (List.mem_map_of_mem inside)⟩

theorem wakeAt_frame (keeper : Timekeeper P L) (instant : Nat) :
    (keeper.wakeAt instant).settings = keeper.settings ∧
      (keeper.wakeAt instant).millis = instant ∧
      (keeper.wakeAt instant).crew.unit.now = clockAt instant := by
  refine ⟨by rw [wakeAt], by rw [wakeAt], ?_⟩
  rw [clockAt, crew_wakeAt]

/-- The clock shows the present instant. Whoever sleeps wakes within one period, and not at
this instant again unless there is no period. -/
structure Punctual (settings : TimerSettings) (keeper : Timekeeper P L) : Prop where
  keeps : keeper.settings = settings
  clock : keeper.crew.unit.now = clockAt keeper.millis
  ahead : ∀ entry ∈ keeper.asleep, keeper.millis + min 1 (period settings entry.2) ≤ entry.1
  within : ∀ entry ∈ keeper.asleep, entry.1 ≤ keeper.millis + period settings entry.2

variable {settings : TimerSettings}

theorem Punctual.same {keeper next : Timekeeper P L} (punctual : keeper.Punctual settings)
    (same : next.settings = keeper.settings) (now : next.crew.unit.now = keeper.crew.unit.now)
    (millis : next.millis = keeper.millis) (asleep : next.asleep ⊆ keeper.asleep) :
    next.Punctual settings where
  keeps := same.trans punctual.keeps
  clock := by rw [now, millis, punctual.clock]
  ahead entry held := millis ▸ punctual.ahead entry (asleep held)
  within entry held := millis ▸ punctual.within entry (asleep held)

theorem Punctual.later {keeper : Timekeeper P L} (punctual : keeper.Punctual settings)
    (entry : Nat × Worker) (held : entry ∈ keeper.asleep) : keeper.millis ≤ entry.1 :=
  Nat.le_trans (Nat.le_add_right _ _) (punctual.ahead entry held)

variable [Sink P Display.Write] [Sink L Switch]

/-- What a key does to the agenda: it may take rounds off, and it adds those that were
asked for. -/
theorem press_agenda (keeper : Timekeeper P L) (key : Key) :
    (keeper.press key).1.settings = keeper.settings ∧
      (keeper.press key).1.millis = keeper.millis ∧
      (keeper.press key).1.asleep ⊆ keeper.asleep ∧
      (keeper.press key).1.ready.length ≤ keeper.ready.length + 3 := by
  have few := (keeper.crew.press key).2.length_starts
  simp only [press, List.length_append, List.length_map]
  split
  · refine ⟨rfl, rfl, ?_, Nat.add_le_add (List.length_filter_le _ keeper.ready) few⟩
    exact fun entry held => (List.mem_filter.mp held).1
  · exact ⟨rfl, rfl, fun _ held => held, Nat.add_le_add_left few _⟩

theorem readKeys_agenda (keeper : Timekeeper P L) :
    keeper.readKeys.1.settings = keeper.settings ∧
      keeper.readKeys.1.millis = keeper.millis ∧
      keeper.readKeys.1.asleep ⊆ keeper.asleep ∧
      keeper.readKeys.1.ready.length ≤ keeper.ready.length + 3 := by
  unfold readKeys
  cases Key.ofEdges? keeper.keys.edges with
  | none => exact ⟨rfl, rfl, fun _ held => held, Nat.le_add_right _ _⟩
  | some key => exact press_agenda keeper key

-- An activation that is taken makes room for the workers that it starts.
theorem toRun_activate (keeper : Timekeeper P L) : keeper.activate.toRun ≤ keeper.toRun := by
  by_cases queued : 0 < keeper.line.queued
  · have fewer := (activate_counts keeper queued).1
    have started := (readKeys_agenda keeper.taken).2.2.2
    have reads : keeper.activate = keeper.taken.readKeys.1 := activate_queued keeper queued
    have same : keeper.taken.ready = keeper.ready := rfl
    rw [← reads, same] at started
    unfold toRun
    omega
  · exact Nat.le_of_eq (congrArg toRun (activate_idle keeper (by omega)))

theorem toRun_serve (turns : Nat) (keeper : Timekeeper P L) :
    (serve turns keeper).toRun ≤ keeper.toRun := by
  induction turns generalizing keeper with
  | zero => exact Nat.le_refl _
  | succ turns ih => exact Nat.le_trans (ih keeper.activate) (toRun_activate keeper)

theorem toRun_task (keeper : Timekeeper P L) (task : Task) :
    (keeper.runTask task).toRun ≤ keeper.toRun := by
  cases task with
  | worker worker => exact Nat.le_refl _
  | handler =>
      simp only [runTask]
      split
      · exact toRun_serve _ keeper
      · exact Nat.le_refl _

theorem ready_runReady (limit : Nat) (keeper : Timekeeper P L) (enough : keeper.toRun ≤ limit) :
    (runReady limit keeper).ready = [] := by
  induction limit generalizing keeper with
  | zero =>
      unfold toRun at enough
      have none : keeper.ready.length = 0 := by omega
      exact List.length_eq_zero_iff.mp none
  | succ limit ih =>
      unfold runReady
      split
      next none => exact none
      next task rest head =>
          apply ih
          have done := toRun_task { keeper with ready := rest } task
          have fewer : toRun { keeper with ready := rest } + 1 = keeper.toRun := by
            simp only [toRun, head, List.length_cons]
            omega
          omega

theorem ready_settle (keeper : Timekeeper P L) : keeper.settle.ready = [] :=
  ready_runReady _ keeper (Nat.le_refl _)

/-- Kept by every task that is due, and by every wake that comes when nothing is due and
passes over no sleeper. -/
structure OnTime (Kept : Timekeeper P L → Prop) : Prop extends AtWork Kept where
  ahead : ∀ keeper, Kept keeper → ∀ entry ∈ keeper.asleep, keeper.millis ≤ entry.1
  wakeAt : ∀ keeper instant, keeper.ready = [] → keeper.millis ≤ instant →
    (∀ entry ∈ keeper.asleep, instant ≤ entry.1) → Kept keeper → Kept (keeper.wakeAt instant)

theorem atWork_millis (instant : Nat) :
    AtWork (P := P) (L := L) fun keeper => keeper.millis = instant where
  handlerTaken _ _ _ same := same
  activate keeper _ same := by
    by_cases queued : 0 < keeper.line.queued
    · rw [activate_queued keeper queued]
      exact (readKeys_agenda _).2.1.trans same
    · rwa [activate_idle keeper (by omega)]
  round _ _ _ _ same := same

theorem millis_settle (keeper : Timekeeper P L) : keeper.settle.millis = keeper.millis :=
  (atWork_millis keeper.millis).settle keeper rfl

namespace OnTime

variable {Kept : Timekeeper P L → Prop}

theorem advanceTo (onTime : OnTime Kept) (target limit : Nat) (keeper : Timekeeper P L)
    (idle : keeper.ready = []) (early : keeper.millis ≤ target) (first : Kept keeper) :
    Kept (advanceTo target limit keeper) := by
  induction limit generalizing keeper with
  | zero => exact first
  | succ limit ih =>
      unfold Timekeeper.advanceTo
      split
      next none =>
          refine onTime.wakeAt keeper target idle early ?_ first
          simp [keeper.nextWake_none none]
      next instant wakes =>
          obtain ⟨⟨sleeper, held, rfl⟩, least⟩ := keeper.nextWake_some instant wakes
          split
          next before =>
              have later := onTime.ahead keeper first sleeper held
              have woken := onTime.wakeAt keeper sleeper.1 idle later least first
              refine ih _ (ready_settle _) ?_ (onTime.settle _ woken)
              rw [millis_settle]
              exact Nat.le_of_lt before
          next after =>
              refine onTime.wakeAt keeper target idle early ?_ first
              exact fun entry inside => Nat.le_trans (Nat.le_of_not_lt after) (least entry inside)

theorem sleep (onTime : OnTime Kept) (keeper : Timekeeper P L) (millis : Nat)
    (first : Kept keeper) : Kept (keeper.sleep millis) := by
  unfold Timekeeper.sleep
  split
  · exact first
  · refine onTime.advanceTo _ _ _ (ready_settle keeper) ?_ (onTime.settle keeper first)
    rw [millis_settle]
    exact Nat.le_add_right _ _

end OnTime

theorem punctual_start (panel : P) (lamps : L) :
    (start settings panel lamps).Punctual settings where
  keeps := rfl
  clock := by simp [start, clockAt, Instrument.darken, Instrument.lampsOff]
  ahead _ held := absurd held List.not_mem_nil
  within _ held := absurd held List.not_mem_nil

theorem now_crewPress (crew : Crew P L) (key : Key) :
    (crew.press key).1.unit.now = crew.unit.now := by
  rw [Crew.press_follow, Crew.unit_follow]
  exact Instrument.now_carryOut _ _

theorem punctual_press (keeper : Timekeeper P L) (key : Key)
    (punctual : keeper.Punctual settings) : (keeper.press key).1.Punctual settings := by
  obtain ⟨same, millis, asleep, -⟩ := press_agenda keeper key
  refine punctual.same same ?_ millis asleep
  rw [(press_frame keeper key).1]
  exact now_crewPress keeper.crew key

theorem punctual_readKeys (keeper : Timekeeper P L) (punctual : keeper.Punctual settings) :
    keeper.readKeys.1.Punctual settings := by
  unfold readKeys
  cases Key.ofEdges? keeper.keys.edges with
  | none => exact punctual.same rfl rfl rfl (List.Subset.refl _)
  | some key =>
      exact (punctual_press keeper key punctual).same rfl rfl rfl (List.Subset.refl _)

theorem now_round (crew : Crew P L) (worker : Worker) :
    (crew.round worker).1.unit.now = crew.unit.now := by
  rcases Crew.round_unit crew worker with same | turned
  · rw [same]
  · rw [turned, ← Crew.work_turn]
    exact Crew.now_work crew.unit worker

theorem punctual_round (keeper : Timekeeper P L) (worker : Worker)
    (punctual : keeper.Punctual settings) :
    (keeper.runTask (.worker worker)).Punctual settings := by
  have cases : ∀ entry ∈ (keeper.runTask (.worker worker)).asleep,
      entry ∈ keeper.asleep ∨ entry = (keeper.millis + period settings worker, worker) := by
    intro entry held
    simp only [runTask, punctual.keeps] at held
    split at held
    · simpa using held
    · exact .inl held
  constructor
  · exact punctual.keeps
  · exact (now_round keeper.crew worker).trans punctual.clock
  · intro entry held
    rcases cases entry held with before | rfl
    · exact punctual.ahead entry before
    · exact Nat.add_le_add_left (Nat.min_le_right _ _) _
  · intro entry held
    rcases cases entry held with before | rfl
    · exact punctual.within entry before
    · exact Nat.le_refl _

theorem atWork_punctual : AtWork (P := P) (L := L) (Punctual settings) where
  handlerTaken _ _ _ punctual := punctual.same rfl rfl rfl (List.Subset.refl _)
  activate keeper _ punctual := by
    by_cases queued : 0 < keeper.line.queued
    · rw [activate_queued keeper queued]
      exact punctual_readKeys _ (punctual.same rfl rfl rfl (List.Subset.refl _))
    · rwa [activate_idle keeper (by omega)]
  round keeper worker _ _ punctual :=
    punctual_round _ worker (punctual.same rfl rfl rfl (List.Subset.refl _))

theorem onTime_punctual : OnTime (P := P) (L := L) (Punctual settings) where
  toAtWork := atWork_punctual
  ahead _ punctual := punctual.later
  wakeAt keeper instant _ later _ punctual := by
    have sleeps : ∀ entry ∈ (keeper.wakeAt instant).asleep,
        entry ∈ keeper.asleep ∧ instant < entry.1 := by simp [wakeAt]
    obtain ⟨same, millis, clock⟩ := wakeAt_frame keeper instant
    refine ⟨same.trans punctual.keeps, by rw [clock, millis], ?_, ?_⟩
    · intro entry held
      have after := (sleeps entry held).2
      rw [millis]
      omega
    · intro entry held
      have soon := punctual.within entry (sleeps entry held).1
      rw [millis]
      omega

theorem advance_arrives (positive : ∀ worker, 0 < period settings worker) (target limit : Nat)
    (keeper : Timekeeper P L) (punctual : keeper.Punctual settings) (idle : keeper.ready = [])
    (early : keeper.millis ≤ target) (enough : target ≤ keeper.millis + limit) :
    (advanceTo target limit keeper).millis = target := by
  induction limit generalizing keeper with
  | zero => exact Nat.le_antisymm early enough
  | succ limit ih =>
      unfold advanceTo
      split
      · exact (wakeAt_frame keeper target).2.1
      next instant wakes =>
          obtain ⟨⟨sleeper, held, rfl⟩, least⟩ := keeper.nextWake_some instant wakes
          split
          next before =>
              -- The sleeper has a period, so the wake brings the target nearer.
              have later := punctual.ahead sleeper held
              have rests := positive sleeper.2
              have woken := onTime_punctual.wakeAt keeper sleeper.1 idle
                (punctual.later sleeper held) least punctual
              have now : (keeper.wakeAt sleeper.1).settle.millis = sleeper.1 := by
                rw [millis_settle, (wakeAt_frame keeper sleeper.1).2.1]
              apply ih _ (onTime_punctual.settle _ woken) (ready_settle _) <;> omega
          · exact (wakeAt_frame keeper target).2.1

theorem sleep_arrives (positive : ∀ worker, 0 < period settings worker)
    (keeper : Timekeeper P L) (punctual : keeper.Punctual settings) (millis : Nat) :
    (keeper.sleep millis).millis = keeper.millis + millis := by
  unfold sleep
  split
  next none => rw [none, Nat.add_zero]
  next =>
      have now := millis_settle keeper
      have settled := onTime_punctual.settle keeper punctual
      apply advance_arrives positive _ _ _ settled (ready_settle keeper) <;> omega

end Timekeeper

end LapTimer
