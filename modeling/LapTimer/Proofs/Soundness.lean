import LapTimer.Proofs.HandlerLine

/-! Sound timekeepers: each worker that is alive has one round on the agenda, the handler is
due only while it is attached, and the devices work. -/

namespace LapTimer.Timekeeper

variable {P L : Type}

theorem taken_frame (keeper : Timekeeper P L) (task : Task) (rest : List Task)
    (head : keeper.ready = task :: rest) (due : .handler ∈ rest) :
    .handler ∈ keeper.ready := by
  rw [head]
  exact List.mem_cons_of_mem task due

variable [Sink P Display.Write] [Sink L Switch]

theorem handler_press (keeper : Timekeeper P L) (key : Key)
    (due : .handler ∈ (keeper.press key).1.ready) : .handler ∈ keeper.ready := by
  simp only [press, List.mem_append, List.mem_map, reduceCtorEq, and_false, exists_false,
    or_false] at due
  split at due
  · exact (List.mem_filter.mp due).1
  · exact due

/-- The rounds on the agenda are those of the workers that are alive; only a handler
that is attached is due; a handler that was detached has taken the line with it; the
devices work. -/
structure Sound (faces : Registers P Display.Position UInt8) (lights : Registers L Lamp Bool)
    (keeper : Timekeeper P L) : Prop where
  booked : ∀ worker, keeper.booked worker = keeper.crew.workers.count worker
  posted : .handler ∈ keeper.ready → keeper.handling = true
  closed : keeper.attachable = false → keeper.handling = false → keeper.line.receiving = false
  working : keeper.crew.unit.Working faces lights

variable {faces : Registers P Display.Position UInt8} {lights : Registers L Lamp Bool}

theorem sound_start (settings : TimerSettings) (panel : P) (lamps : L)
    (working : faces.Works panel) (lit : lights.Works lamps) :
    (start settings panel lamps).Sound faces lights where
  booked _ := rfl
  posted due := absurd due List.not_mem_nil
  closed taken := absurd taken.symm Bool.false_ne_true
  working :=
    have first : Instrument.Working faces lights { watch := settings.watch, panel, lamps } :=
      ⟨working, lit⟩
    first.darken.lampsOff

theorem Sound.closed_same {keeper next : Timekeeper P L} (sound : keeper.Sound faces lights)
    (same : SameHandler keeper next) (taken : next.attachable = false)
    (unattended : next.handling = false) : next.line.receiving = false := by
  rw [same.receiving]
  exact sound.closed (same.attachable.symm.trans taken) (same.handling.symm.trans unattended)

theorem sound_updateUnit (keeper : Timekeeper P L) (unit : Instrument P L)
    (sound : keeper.Sound faces lights) (working : unit.Working faces lights) :
    (keeper.updateUnit unit).Sound faces lights :=
  ⟨sound.booked, sound.posted, sound.closed, working⟩

theorem working_crewPress (crew : Crew P L) (key : Key)
    (working : crew.unit.Working faces lights) :
    (crew.press key).1.unit.Working faces lights := by
  rw [Crew.press_follow, Crew.unit_follow]
  exact Instrument.working_step faces lights crew.unit working (.press key)

theorem working_round (crew : Crew P L) (worker : Worker)
    (working : crew.unit.Working faces lights) :
    (crew.round worker).1.unit.Working faces lights := by
  rcases Crew.round_unit crew worker with same | turned
  · rwa [same]
  · rw [turned]
    exact Instrument.working_step faces lights crew.unit working worker.turn.op

theorem sound_press (keeper : Timekeeper P L) (key : Key) (sound : keeper.Sound faces lights) :
    (keeper.press key).1.Sound faces lights := by
  have same := sameHandler_press keeper key
  have crew := (press_frame keeper key).1
  constructor
  · intro worker
    rw [booked_press, crew, Crew.press_follow, Crew.count_follow, sound.booked worker]
    rfl
  · intro due
    rw [same.handling]
    exact sound.posted (handler_press keeper key due)
  · exact sound.closed_same same
  · rw [crew]
    exact working_crewPress keeper.crew key sound.working

theorem sound_readKeys (keeper : Timekeeper P L) (sound : keeper.Sound faces lights) :
    keeper.readKeys.1.Sound faces lights := by
  unfold readKeys
  cases Key.ofEdges? keeper.keys.edges with
  | none => exact ⟨sound.booked, sound.posted, sound.closed, sound.working⟩
  | some key =>
      have ⟨booked, posted, closed, working⟩ := sound_press keeper key sound
      exact ⟨booked, posted, closed, working⟩

theorem sound_activate (keeper : Timekeeper P L) (sound : keeper.Sound faces lights) :
    keeper.activate.Sound faces lights := by
  have same := receiving_wait keeper.line
  unfold activate
  split
  next line waited =>
      rw [waited] at same
      apply sound_readKeys
      refine ⟨sound.booked, sound.posted, ?_, sound.working⟩
      intro taken unattended
      exact same.trans (sound.closed taken unattended)
  · exact sound

-- The round was on the agenda, so its worker is alive.
theorem sound_round (keeper : Timekeeper P L) (worker : Worker) (rest : List Task)
    (head : keeper.ready = .worker worker :: rest) (sound : keeper.Sound faces lights) :
    (({ keeper with ready := rest } : Timekeeper P L).runTask (.worker worker)).Sound
      faces lights := by
  have once : ∀ other, booked { keeper with ready := rest } other +
      (if other = worker then 1 else 0) = keeper.crew.workers.count other := by
    intro other
    rw [← sound.booked other]
    simp only [booked, head, List.count_cons, beq_iff_eq, Task.worker.injEq,
      eq_comm (a := worker)]
    omega
  have live : worker ∈ keeper.crew.workers := by
    have alive := once worker
    rw [if_pos rfl] at alive
    exact List.count_pos_iff.mp (by omega)
  have taken : SameHandler keeper { keeper with ready := rest } := ⟨rfl, rfl, rfl⟩
  have same := taken.trans (sameHandler_round { keeper with ready := rest } worker)
  constructor
  · intro other
    have counted := Crew.count_round keeper.crew worker other live
    have alive := once other
    rw [booked_round]
    show _ = (keeper.crew.round worker).1.workers.count other
    rw [counted]
    cases (keeper.crew.round worker).2 <;> by_cases same : other = worker <;>
      simp [same] at alive ⊢ <;> omega
  · intro due
    rw [same.handling]
    exact sound.posted (taken_frame keeper _ rest head due)
  · exact sound.closed_same same
  · exact working_round keeper.crew worker sound.working

theorem sound_handlerTaken (keeper : Timekeeper P L) (rest : List Task)
    (head : keeper.ready = .handler :: rest) (sound : keeper.Sound faces lights) :
    ({ keeper with ready := rest } : Timekeeper P L).Sound faces lights := by
  refine ⟨?_, ?_, sound.closed, sound.working⟩
  · intro worker
    have booked := sound.booked worker
    rw [Timekeeper.booked, head, List.count_cons_of_ne (by simp)] at booked
    exact booked
  · exact fun due => sound.posted (taken_frame keeper .handler rest head due)

theorem sound_wakeAt (keeper : Timekeeper P L) (instant : Nat)
    (sound : keeper.Sound faces lights) : (keeper.wakeAt instant).Sound faces lights := by
  have same := sameHandler_wakeAt keeper instant
  constructor
  · intro worker
    rw [booked_wakeAt, crew_wakeAt]
    exact sound.booked worker
  · intro due
    rw [same.handling]
    have posted : .handler ∈ keeper.ready := by simpa [wakeAt] using due
    exact sound.posted posted
  · exact sound.closed_same same
  · rw [crew_wakeAt]
    exact sound.working.withWatch keeper.crew.unit.watch _

theorem steady_sound : Steady (P := P) (L := L) (Sound faces lights) where
  handlerTaken := sound_handlerTaken
  activate keeper _ := sound_activate keeper
  round := sound_round
  wakeAt := sound_wakeAt

theorem sound_raise (keeper : Timekeeper P L) (sound : keeper.Sound faces lights) :
    keeper.raise.1.Sound faces lights := by
  have receiving : keeper.line.raise.1.receiving = keeper.line.receiving := by
    unfold Interrupt.raise
    split <;> rfl
  constructor
  · intro worker
    refine Eq.trans ?_ (sound.booked worker)
    simp only [raise, booked]
    split <;> simp
  · intro due
    by_cases handles : keeper.handling = true
    · exact handles
    · have idle := eq_false_of_ne_true handles
      simp only [raise, idle, Bool.and_false, Bool.false_and, Bool.false_eq_true,
        ↓reduceIte] at due
      exact absurd (sound.posted due) handles
  · intro taken unattended
    exact receiving.trans (sound.closed taken unattended)
  · exact sound.working

theorem sound_attach (keeper : Timekeeper P L) (sound : keeper.Sound faces lights) :
    (keeper.step .attach).1.Sound faces lights := by
  rcases attach_cases keeper with ⟨-, same⟩ | ⟨-, attached⟩
  · rwa [same]
  · rw [attached]
    refine ⟨?_, fun _ => rfl, fun _ unattended => ?_, sound.working⟩
    · intro worker
      rw [← sound.booked worker]
      simp [booked]
    · exact absurd unattended.symm Bool.false_ne_true

theorem sound_detach (keeper : Timekeeper P L) (sound : keeper.Sound faces lights) :
    (keeper.close .detachHandler).Sound faces lights := by
  simp only [close]
  split
  · apply steady_sound.settle
    refine ⟨?_, ?_, fun _ _ => rfl, sound.working⟩
    · intro worker
      rw [← sound.booked worker]
      simp only [booked]
      rw [List.count_filter (by simp)]
    · intro due
      simp at due
  · exact sound

theorem sound_callOff (keeper : Timekeeper P L) (whom : Worker → Bool)
    (sound : keeper.Sound faces lights) : (keeper.callOff whom).Sound faces lights := by
  unfold callOff
  split
  · apply steady_sound.settle
    refine ⟨?_, ?_, sound.closed, sound.working⟩
    · intro worker
      rw [Crew.count_dismiss]
      show (keeper.forget whom).booked worker = _
      rw [booked_forget, sound.booked worker]
      rfl
    · exact fun due => sound.posted (List.mem_filter.mp due).1
  · exact sound

theorem sound_close (keeper : Timekeeper P L) (stage : Closing)
    (sound : keeper.Sound faces lights) : (keeper.close stage).Sound faces lights := by
  have working := sound.working
  cases stage with
  | detachHandler => exact sound_detach keeper sound
  | haltWatch => exact sound_updateUnit keeper _ sound (working.withWatch _ _)
  | endRenderer => exact sound_callOff keeper Worker.isRenderer sound
  | endStepper => exact sound_callOff keeper Worker.isStepper sound
  | endBlinker => exact sound_callOff keeper Worker.isBlinker sound
  | wipeWatch => exact sound_updateUnit keeper _ sound (working.withWatch _ _)
  | darken => exact sound_updateUnit keeper _ sound working.darken.lampsOff

theorem sound_closes (stages : List Closing) (keeper : Timekeeper P L)
    (sound : keeper.Sound faces lights) : (stages.foldl close keeper).Sound faces lights :=
  List.foldlRecOn stages close sound fun closing sound stage _ =>
    sound_close closing stage sound

theorem sound_step (keeper : Timekeeper P L) (op : TimekeeperOp)
    (sound : keeper.Sound faces lights) : (keeper.step op).1.Sound faces lights := by
  cases op with
  | press key => exact sound_press keeper key sound
  | sleep millis => exact steady_sound.sleep keeper millis sound
  | attach => exact sound_attach keeper sound
  | latch bits => exact ⟨sound.booked, sound.posted, sound.closed, sound.working⟩
  | raise => exact sound_raise keeper sound
  | readKeys => exact sound_readKeys keeper sound
  | shutDown => exact sound_closes Closing.all keeper sound
  | consult op =>
      have working := Instrument.working_step faces lights keeper.crew.unit sound.working op
      exact sound_updateUnit keeper _ sound working

theorem sound_run (settings : TimerSettings) (panel : P) (lamps : L)
    (working : faces.Works panel) (lit : lights.Works lamps) (ops : List TimekeeperOp) :
    ((start settings panel lamps).run ops).1.Sound faces lights :=
  runBy_keeps (Sound faces lights) sound_step _ (sound_start settings panel lamps working lit) ops

end LapTimer.Timekeeper
