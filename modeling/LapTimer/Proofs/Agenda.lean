import LapTimer.Timekeeper
import LapTimer.Proofs.WorkerProtocol
import Mathlib.Data.List.Count

/-! The agenda of a timekeeper. While its caller sleeps or waits it only takes due tasks and
wakes workers, so what every task and every wake keeps holds all the time. -/

namespace LapTimer

/-- Neither a shutdown nor a write to the devices past the stopwatch. -/
def TimekeeperOp.IsTurn : TimekeeperOp → Prop
  | .shutDown => False
  | .consult op => ∃ turn : Turn, turn.op = op
  | _ => True

variable {P L : Type}

/-- The caller presses the key, or the register that is read holds it. -/
def TimekeeperOp.Presses (keeper : Timekeeper P L) : TimekeeperOp → Key → Prop
  | .press pressed, key => pressed = key
  | .consult (.press pressed), key => pressed = key
  | .readKeys, key => Key.ofEdges? keeper.keys.edges = some key
  | .sleep _, key => Key.ofEdges? keeper.keys.edges = some key
  | _, _ => False

namespace Timekeeper

/-- The rounds of a worker that are on the agenda. -/
def booked (keeper : Timekeeper P L) (worker : Worker) : Nat :=
  keeper.ready.count (.worker worker) + (keeper.asleep.map Prod.snd).count worker

theorem booked_forget (keeper : Timekeeper P L) (whom : Worker → Bool) (worker : Worker) :
    (keeper.forget whom).booked worker = if whom worker then 0 else keeper.booked worker := by
  have asleep : (keeper.asleep.filter fun entry => !whom entry.2).map Prod.snd =
      (keeper.asleep.map Prod.snd).filter fun other => !whom other := by
    rw [List.filter_map]
    rfl
  by_cases called : whom worker = true
  · simp [booked, forget, asleep, called, List.count_eq_zero]
  · rw [if_neg called]
    simp only [booked, forget, asleep]
    rw [List.count_filter (by simp [called]), List.count_filter (by simp [called])]

theorem count_map_worker (workers : List Worker) (worker : Worker) :
    (workers.map Task.worker).count (.worker worker) = workers.count worker :=
  List.count_map_of_injective workers Task.worker (fun _ _ => Task.worker.inj) worker

-- A sleeper either wakes by that instant or sleeps on.
theorem booked_wakeAt (keeper : Timekeeper P L) (instant : Nat) (worker : Worker) :
    (keeper.wakeAt instant).booked worker = keeper.booked worker := by
  have later : (fun entry : Nat × Worker => decide (instant < entry.1)) =
      fun entry => !decide (entry.1 ≤ instant) := by
    funext entry
    rw [← decide_not, decide_eq_decide, Nat.not_le]
  have parted := ((List.filter_append_perm (fun entry : Nat × Worker =>
    decide (entry.1 ≤ instant)) keeper.asleep).map Prod.snd).count_eq worker
  have woken : (keeper.asleep.filter (·.1 ≤ instant)).map (fun entry => Task.worker entry.2) =
      ((keeper.asleep.filter (·.1 ≤ instant)).map Prod.snd).map Task.worker := by
    rw [List.map_map]
    rfl
  rw [List.map_append, List.count_append] at parted
  simp only [booked, wakeAt, List.count_append, woken, count_map_worker, later]
  omega

theorem crew_wakeAt (keeper : Timekeeper P L) (instant : Nat) :
    (keeper.wakeAt instant).crew =
      { keeper.crew with
        unit := { keeper.crew.unit with now := UInt64.ofNat (instant * 1000000) } } := by
  simp only [wakeAt]

theorem keys_wakeAt (keeper : Timekeeper P L) (instant : Nat) :
    (keeper.wakeAt instant).keys = keeper.keys := by
  rw [wakeAt]

variable [Sink P Display.Write] [Sink L Switch]

theorem press_frame (keeper : Timekeeper P L) (key : Key) :
    (keeper.press key).1.crew = (keeper.crew.press key).1 ∧
      (keeper.press key).1.handling = keeper.handling ∧
      (keeper.press key).1.attachable = keeper.attachable ∧
      (keeper.press key).1.line = keeper.line ∧ (keeper.press key).1.keys = keeper.keys := by
  simp only [press]
  split <;> exact ⟨rfl, rfl, rfl, rfl, rfl⟩

theorem booked_press (keeper : Timekeeper P L) (key : Key) (worker : Worker) :
    (keeper.press key).1.booked worker =
      (if (keeper.crew.press key).2.dismissStepper && worker.isStepper then 0
        else keeper.booked worker) +
        if (keeper.crew.press key).2.asksFor worker then 1 else 0 := by
  have started : ∀ kept : Timekeeper P L,
      booked { kept with
        ready := kept.ready ++ (keeper.crew.press key).2.starts.map .worker } worker =
        kept.booked worker + if (keeper.crew.press key).2.asksFor worker then 1 else 0 := by
    intro kept
    rw [← Orders.count_starts, ← count_map_worker]
    simp only [booked, List.count_append]
    omega
  simp only [press]
  rw [started]
  cases (keeper.crew.press key).2.dismissStepper with
  | false => simp [booked]
  | true =>
      simp only [↓reduceIte, booked_forget, Bool.true_and]
      rfl

theorem booked_round (keeper : Timekeeper P L) (worker other : Worker) :
    (keeper.runTask (.worker worker)).booked other =
      keeper.booked other +
        if (keeper.crew.round worker).2 ∧ other = worker then 1 else 0 := by
  simp only [runTask, booked]
  cases (keeper.crew.round worker).2 with
  | false => simp
  | true =>
      simp only [↓reduceIte, List.map_append, List.map_cons, List.map_nil, List.count_append,
        List.count_singleton, true_and, beq_iff_eq, eq_comm (a := worker)]
      omega

theorem attach_cases (keeper : Timekeeper P L) :
    keeper.attachable = false ∧ (keeper.step .attach).1 = keeper ∨
      keeper.attachable = true ∧ (keeper.step .attach).1 = { keeper with
        attachable := false, handling := true, ready := keeper.ready ++ [.handler] } := by
  simp only [step, attach]
  cases attachable : keeper.attachable with
  | false => exact .inl ⟨rfl, rfl⟩
  | true => exact .inr ⟨rfl, rfl⟩

theorem handling_activate (keeper : Timekeeper P L) :
    keeper.activate.handling = keeper.handling := by
  unfold activate
  split
  · unfold readKeys
    cases Key.ofEdges? keeper.keys.edges with
    | none => rfl
    | some key => exact (press_frame _ key).2.1
  · rfl

/-- Kept by every task that is due. -/
structure AtWork (Kept : Timekeeper P L → Prop) : Prop where
  handlerTaken : ∀ keeper rest, keeper.ready = .handler :: rest → Kept keeper →
    Kept { keeper with ready := rest }
  activate : ∀ keeper, keeper.handling = true → Kept keeper → Kept keeper.activate
  round : ∀ keeper worker rest, keeper.ready = .worker worker :: rest → Kept keeper →
    Kept (({ keeper with ready := rest } : Timekeeper P L).runTask (.worker worker))

/-- Kept by every task that is due and by every wake. -/
structure Steady (Kept : Timekeeper P L → Prop) : Prop extends AtWork Kept where
  wakeAt : ∀ keeper instant, Kept keeper → Kept (keeper.wakeAt instant)

theorem runReady_keeps (Kept : Timekeeper P L → Prop)
    (task : ∀ keeper task rest, keeper.ready = task :: rest → Kept keeper →
      Kept (({ keeper with ready := rest } : Timekeeper P L).runTask task))
    (limit : Nat) (keeper : Timekeeper P L) (first : Kept keeper) :
    Kept (runReady limit keeper) := by
  induction limit generalizing keeper with
  | zero => exact first
  | succ limit ih =>
      unfold runReady
      split
      · exact first
      next due rest head => exact ih _ (task keeper due rest head first)

namespace AtWork

variable {Kept : Timekeeper P L → Prop}

theorem serve (atWork : AtWork Kept) (turns : Nat) (keeper : Timekeeper P L)
    (handles : keeper.handling = true) (first : Kept keeper) : Kept (serve turns keeper) := by
  induction turns generalizing keeper with
  | zero => exact first
  | succ turns ih =>
      exact ih keeper.activate ((handling_activate keeper).trans handles)
        (atWork.activate keeper handles first)

theorem task (atWork : AtWork Kept) (keeper : Timekeeper P L) (task : Task) (rest : List Task)
    (head : keeper.ready = task :: rest) (first : Kept keeper) :
    Kept (({ keeper with ready := rest } : Timekeeper P L).runTask task) := by
  cases task with
  | worker worker => exact atWork.round keeper worker rest head first
  | handler =>
      have taken := atWork.handlerTaken keeper rest head first
      simp only [runTask]
      split
      next handles => exact atWork.serve _ _ handles taken
      · exact taken

theorem runReady (atWork : AtWork Kept) (limit : Nat) (keeper : Timekeeper P L)
    (first : Kept keeper) : Kept (runReady limit keeper) :=
  runReady_keeps Kept atWork.task limit keeper first

theorem settle (atWork : AtWork Kept) (keeper : Timekeeper P L) (first : Kept keeper) :
    Kept keeper.settle := atWork.runReady _ keeper first

end AtWork

namespace Steady

variable {Kept : Timekeeper P L → Prop}

theorem advanceTo (steady : Steady Kept) (target limit : Nat) (keeper : Timekeeper P L)
    (first : Kept keeper) : Kept (advanceTo target limit keeper) := by
  induction limit generalizing keeper with
  | zero => exact first
  | succ limit ih =>
      unfold Timekeeper.advanceTo
      split
      · exact steady.wakeAt keeper target first
      next instant wakes =>
          split
          · exact ih _ (steady.settle _ (steady.wakeAt keeper instant first))
          · exact steady.wakeAt keeper target first

theorem sleep (steady : Steady Kept) (keeper : Timekeeper P L) (millis : Nat)
    (first : Kept keeper) : Kept (keeper.sleep millis) := by
  unfold Timekeeper.sleep
  split
  · exact first
  · exact steady.advanceTo _ _ _ (steady.settle keeper first)

end Steady

/-- The instrument came here by turns that press these keys only, and the register holds
no other. -/
structure InTurns (start : Instrument P L) (keys : Key → Prop) (keeper : Timekeeper P L) :
    Prop where
  turns : ∃ turns, keeper.crew.unit = start.after turns ∧
    ∀ key, .press key ∈ turns → keys key
  register : ∀ key, Key.ofEdges? keeper.keys.edges = some key → keys key

theorem InTurns.refl (keeper : Timekeeper P L) :
    InTurns keeper.crew.unit (fun key => Key.ofEdges? keeper.keys.edges = some key) keeper :=
  ⟨⟨[], rfl, by simp⟩, fun _ held => held⟩

theorem InTurns.turned {start : Instrument P L} {keys : Key → Prop}
    {keeper next : Timekeeper P L} (reached : InTurns start keys keeper) (turn : Turn)
    (turned : next.crew.unit = (keeper.crew.unit.step turn.op).1)
    (pressed : ∀ key, turn = .press key → keys key)
    (register : ∀ key, Key.ofEdges? next.keys.edges = some key → keys key) :
    InTurns start keys next := by
  obtain ⟨⟨turns, same, known⟩, -⟩ := reached
  refine ⟨⟨turns ++ [turn], by rw [turned, same, Instrument.after_snoc], ?_⟩, register⟩
  intro key held
  rcases List.mem_append.mp held with before | last
  · exact known key before
  · exact pressed key (List.mem_singleton.mp last).symm

-- What is acknowledged is gone, so the key that was read is not read again.
theorem inTurns_readKeys (start : Instrument P L) (keys : Key → Prop)
    (keeper : Timekeeper P L) (reached : InTurns start keys keeper) :
    InTurns start keys keeper.readKeys.1 := by
  have emptied : ∀ key, Key.ofEdges? 0 = some key → keys key := by
    intro key held
    have none : Key.ofEdges? 0 = none := by decide
    simp [none] at held
  unfold readKeys
  cases held : Key.ofEdges? keeper.keys.edges with
  | none => exact ⟨reached.turns, emptied⟩
  | some key =>
      apply reached.turned (.press key) _ _ emptied
      · show (keeper.press key).1.crew.unit = _
        rw [(press_frame keeper key).1, Crew.press_follow, Crew.unit_follow]
        rfl
      · rintro _ ⟨⟩
        exact reached.register key held

theorem inTurns_round (start : Instrument P L) (keys : Key → Prop) (keeper : Timekeeper P L)
    (worker : Worker) (reached : InTurns start keys keeper) :
    InTurns start keys (keeper.runTask (.worker worker)) := by
  have unit : (keeper.runTask (.worker worker)).crew.unit =
      (keeper.crew.round worker).1.unit := rfl
  rcases Crew.round_unit keeper.crew worker with same | turned
  · refine ⟨?_, reached.register⟩
    rw [unit, same]
    exact reached.turns
  · apply reached.turned worker.turn (unit.trans turned) _ reached.register
    intro key isPress
    cases worker <;> cases isPress

theorem steady_inTurns (start : Instrument P L) (keys : Key → Prop) :
    Steady (InTurns start keys) where
  handlerTaken _ _ _ reached := ⟨reached.turns, reached.register⟩
  activate keeper _ reached := by
    unfold activate
    split
    · exact inTurns_readKeys start keys _ ⟨reached.turns, reached.register⟩
    · exact reached
  round keeper worker rest _ reached :=
    inTurns_round start keys { keeper with ready := rest } worker
      ⟨reached.turns, reached.register⟩
  wakeAt keeper instant reached := by
    apply reached.turned (.moveClock (.setNanos (.ofNat (instant * 1000000))))
    · rw [crew_wakeAt]
      rfl
    · intro key isPress
      cases isPress
    · rw [keys_wakeAt]
      exact reached.register

/-- Short of a shutdown, what an operation does to the instrument are turns. -/
theorem step_turns (keeper : Timekeeper P L) (op : TimekeeperOp) (turn : op.IsTurn) :
    ∃ turns, (keeper.step op).1.crew.unit = keeper.crew.unit.after turns ∧
      ∀ key, .press key ∈ turns → op.Presses keeper key := by
  have none : ∀ next : Timekeeper P L, next.crew = keeper.crew →
      ∃ turns, next.crew.unit = keeper.crew.unit.after turns ∧
        ∀ key, .press key ∈ turns → op.Presses keeper key := by
    intro next same
    exact ⟨[], by rw [same]; rfl, by simp⟩
  cases op with
  | press key =>
      refine ⟨[.press key], ?_, by simp [TimekeeperOp.Presses]⟩
      show (keeper.press key).1.crew.unit = _
      rw [(press_frame keeper key).1, Crew.press_follow, Crew.unit_follow]
      rfl
  | sleep millis =>
      exact ((steady_inTurns _ _).sleep keeper millis (.refl keeper)).turns
  | attach =>
      apply none
      rcases attach_cases keeper with ⟨-, same⟩ | ⟨-, attached⟩
      · rw [same]
      · rw [attached]
  | latch bits => exact none _ rfl
  | raise => exact none _ rfl
  | readKeys => exact (inTurns_readKeys _ _ keeper (.refl keeper)).turns
  | shutDown => exact turn.elim
  | consult op =>
      obtain ⟨turn, rfl⟩ := turn
      refine ⟨[turn], rfl, ?_⟩
      intro key held
      rw [← List.mem_singleton.mp held]
      rfl

/-- Some operation of the run presses the key. -/
def PressedIn (keeper : Timekeeper P L) : List TimekeeperOp → Key → Prop
  | [], _ => False
  | op :: rest, key => op.Presses keeper key ∨ PressedIn (keeper.step op).1 rest key

theorem run_turns (keeper : Timekeeper P L) (ops : List TimekeeperOp)
    (turns : ∀ op ∈ ops, op.IsTurn) :
    ∃ turns, (keeper.run ops).1.crew.unit = keeper.crew.unit.after turns ∧
      ∀ key, .press key ∈ turns → keeper.PressedIn ops key := by
  induction ops generalizing keeper with
  | nil => exact ⟨[], rfl, by simp⟩
  | cons op rest ih =>
      obtain ⟨first, stepped, known⟩ := step_turns keeper op (turns op List.mem_cons_self)
      obtain ⟨later, ran, known'⟩ := ih (keeper.step op).1 fun other held =>
        turns other (List.mem_cons_of_mem op held)
      refine ⟨first ++ later, ?_, ?_⟩
      · rw [Instrument.after_append, ← stepped]
        exact ran
      · intro key held
        rcases List.mem_append.mp held with before | after
        · exact .inl (known key before)
        · exact .inr (known' key after)

end Timekeeper

end LapTimer
