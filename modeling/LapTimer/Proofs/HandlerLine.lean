import LapTimer.Proofs.Agenda

/-! The handler of a timekeeper and its line. Only the caller attaches the handler, once and
for all; a line that is closed stays closed. -/

namespace LapTimer.Timekeeper

variable {P L : Type}

/-- The handler and the receiving end of its line are as they were. -/
structure SameHandler (before after : Timekeeper P L) : Prop where
  handling : after.handling = before.handling
  attachable : after.attachable = before.attachable
  receiving : after.line.receiving = before.line.receiving

theorem SameHandler.refl (keeper : Timekeeper P L) : SameHandler keeper keeper :=
  ⟨rfl, rfl, rfl⟩

theorem SameHandler.trans {first second third : Timekeeper P L}
    (before : SameHandler first second) (after : SameHandler second third) :
    SameHandler first third :=
  ⟨after.handling.trans before.handling, after.attachable.trans before.attachable,
    after.receiving.trans before.receiving⟩

theorem receiving_wait (line : Interrupt) : line.wait.1.receiving = line.receiving := by
  unfold Interrupt.wait
  split
  · rfl
  · split <;> rfl

theorem sameHandler_wakeAt (keeper : Timekeeper P L) (instant : Nat) :
    SameHandler keeper (keeper.wakeAt instant) := by
  simp only [wakeAt]
  exact ⟨rfl, rfl, rfl⟩

/-- What is used up stays used up: the one handler and the receiving end of the line. -/
structure Onward (before after : Timekeeper P L) : Prop where
  attached : before.attachable = false → after.attachable = false
  closed : before.line.receiving = false → after.line.receiving = false

theorem Onward.trans {first second third : Timekeeper P L} (before : Onward first second)
    (after : Onward second third) : Onward first third :=
  ⟨fun taken => after.attached (before.attached taken),
    fun shut => after.closed (before.closed shut)⟩

theorem SameHandler.onward {before after : Timekeeper P L} (same : SameHandler before after) :
    Onward before after :=
  ⟨same.attachable.trans, same.receiving.trans⟩

theorem raise_closed (keeper : Timekeeper P L) (shut : keeper.line.receiving = false) :
    keeper.raise.2 = false := by
  simp [raise, Interrupt.raise, shut]

variable [Sink P Display.Write] [Sink L Switch]

theorem sameHandler_press (keeper : Timekeeper P L) (key : Key) :
    SameHandler keeper (keeper.press key).1 := by
  obtain ⟨-, handling, attachable, line, -⟩ := press_frame keeper key
  exact ⟨handling, attachable, by rw [line]⟩

theorem sameHandler_readKeys (keeper : Timekeeper P L) :
    SameHandler keeper keeper.readKeys.1 := by
  unfold readKeys
  cases Key.ofEdges? keeper.keys.edges with
  | none => exact ⟨rfl, rfl, rfl⟩
  | some key =>
      have ⟨handling, attachable, receiving⟩ := sameHandler_press keeper key
      exact ⟨handling, attachable, receiving⟩

theorem sameHandler_activate (keeper : Timekeeper P L) :
    SameHandler keeper keeper.activate := by
  have receiving := receiving_wait keeper.line
  unfold activate
  split
  next line waited =>
      have taken : SameHandler keeper { keeper with line } := by
        rw [waited] at receiving
        exact ⟨rfl, rfl, receiving⟩
      exact taken.trans (sameHandler_readKeys _)
  · exact .refl keeper

theorem sameHandler_round (keeper : Timekeeper P L) (worker : Worker) :
    SameHandler keeper (keeper.runTask (.worker worker)) := by
  simp only [runTask]
  exact ⟨rfl, rfl, rfl⟩

theorem steady_sameHandler (before : Timekeeper P L) : Steady (SameHandler before) where
  handlerTaken _ _ _ same := ⟨same.handling, same.attachable, same.receiving⟩
  activate keeper _ same := same.trans (sameHandler_activate keeper)
  round keeper worker rest _ same :=
    have taken : SameHandler keeper { keeper with ready := rest } := ⟨rfl, rfl, rfl⟩
    (same.trans taken).trans (sameHandler_round _ worker)
  wakeAt keeper instant same := same.trans (sameHandler_wakeAt keeper instant)

theorem sameHandler_callOff (keeper : Timekeeper P L) (whom : Worker → Bool) :
    SameHandler keeper (keeper.callOff whom) := by
  unfold callOff
  split
  · exact (steady_sameHandler keeper).settle _ ⟨rfl, rfl, rfl⟩
  · exact .refl keeper

theorem onward_close (keeper : Timekeeper P L) (stage : Closing) :
    Onward keeper (keeper.close stage) := by
  cases stage with
  | detachHandler =>
      simp only [close]
      split
      · have detached : Onward keeper { keeper with
            handling := false
            line := keeper.line.dropReceiver
            ready := keeper.ready.filter (· != .handler) } := ⟨id, fun _ => rfl⟩
        exact detached.trans ((steady_sameHandler _).settle _ (.refl _)).onward
      · exact (SameHandler.refl keeper).onward
  | haltWatch => exact ⟨id, id⟩
  | endRenderer => exact (sameHandler_callOff keeper Worker.isRenderer).onward
  | endStepper => exact (sameHandler_callOff keeper Worker.isStepper).onward
  | endBlinker => exact (sameHandler_callOff keeper Worker.isBlinker).onward
  | wipeWatch => exact ⟨id, id⟩
  | darken => exact ⟨id, id⟩

theorem onward_closes (stages : List Closing) (keeper : Timekeeper P L) :
    Onward keeper (stages.foldl close keeper) :=
  List.foldlRecOn stages close ⟨id, id⟩ fun closing onward stage _ =>
    onward.trans (onward_close closing stage)

theorem onward_step (keeper : Timekeeper P L) (op : TimekeeperOp) :
    Onward keeper (keeper.step op).1 := by
  cases op with
  | press key => exact (sameHandler_press keeper key).onward
  | sleep millis => exact ((steady_sameHandler keeper).sleep keeper millis (.refl keeper)).onward
  | attach =>
      rcases attach_cases keeper with ⟨-, same⟩ | ⟨-, attached⟩
      · rw [same]
        exact ⟨id, id⟩
      · rw [attached]
        exact ⟨fun _ => rfl, id⟩
  | latch bits => exact ⟨id, id⟩
  | raise =>
      refine ⟨id, fun shut => ?_⟩
      simp only [step, raise, Interrupt.raise, shut, Bool.false_and, Bool.false_eq_true,
        ↓reduceIte]
  | readKeys => exact (sameHandler_readKeys keeper).onward
  | shutDown => exact onward_closes Closing.all keeper
  | consult op => exact ⟨id, id⟩

theorem onward_run (keeper : Timekeeper P L) (ops : List TimekeeperOp) :
    Onward keeper (keeper.run ops).1 :=
  runBy_keeps (Onward keeper) (fun later op onward => onward.trans (onward_step later op)) keeper
    ⟨id, id⟩ ops

theorem attached_run (keeper : Timekeeper P L) (ops : List TimekeeperOp)
    (attached : .attach ∈ ops) : (keeper.run ops).1.attachable = false := by
  induction ops generalizing keeper with
  | nil => exact absurd attached List.not_mem_nil
  | cons op rest ih =>
      rcases List.mem_cons.mp attached with rfl | later
      · have taken : (keeper.step .attach).1.attachable = false := by
          rcases attach_cases keeper with ⟨taken, same⟩ | ⟨-, attached⟩
          · rwa [same]
          · rw [attached]
        exact (onward_run (keeper.step .attach).1 rest).attached taken
      · exact ih (keeper.step op).1 later

end LapTimer.Timekeeper
