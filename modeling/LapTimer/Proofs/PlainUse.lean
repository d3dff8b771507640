import LapTimer.Proofs.FittingLaps
import LapTimer.Proofs.ReplayCourse
import LapTimer.Proofs.Shutdown
import LapTimer.Proofs.UnseenReaders
import LapTimer.Proofs.Wakes

/-! Timekeepers in plain use, whose callers leave the rounds of the workers, the clock and the
devices to them, are kept in order. -/

namespace LapTimer

def InstrumentOp.OnlyReads : InstrumentOp → Prop
  | .readRecord => True
  | .readInto _ => True
  | .readPass => True
  | _ => False

def InstrumentOp.SetsMode : InstrumentOp → Prop
  | .setMode _ => True
  | .storeMode _ => True
  | _ => False

/-- Neither keys nor rounds, neither the clock nor the devices past the timekeeper. -/
def TimekeeperOp.IsPlain : TimekeeperOp → Prop
  | .consult op => op.OnlyReads ∨ op.SetsMode
  | _ => True

theorem Stopwatch.unread_same {watch next : Stopwatch} (same : next.unread = watch.unread) :
    next = { watch with
      book := { watch.book with readCursor := next.book.readCursor } } := by
  obtain ⟨meter, face, ⟨laps, readCursor, replayCursor⟩, replay, blinker, blinks, mode, counted⟩ :=
    next
  simp only [unread, LapBook.unread, mk.injEq, LapBook.mk.injEq] at same
  obtain ⟨rfl, rfl, ⟨rfl, -, rfl⟩, rfl, rfl, rfl, rfl, rfl⟩ := same
  rfl

variable {P L : Type}

/-- The workers are those that are counted on, and the book has room for its laps. -/
structure Crew.Fit (crew : Crew P L) : Prop where
  manned : crew.Manned
  bounded : crew.unit.watch.book.count ≤ LapBook.capacity

theorem Crew.fit_clock (crew : Crew P L) (now : UInt64) (fit : crew.Fit) :
    Crew.Fit { crew with unit := { crew.unit with now } } where
  manned := ⟨fit.manned.counted, fit.manned.refreshing⟩
  bounded := fit.bounded

variable [Sink P Display.Write] [Sink L Switch]

/-- What plain use does to an instrument: it moves the read cursor and sets the mode. -/
theorem Instrument.plain_step (unit : Instrument P L) (op : InstrumentOp)
    (plain : op.OnlyReads ∨ op.SetsMode) :
    ∃ readCursor mode, (unit.step op).1 = { unit with
      watch := { unit.watch with
        book := { unit.watch.book with readCursor }, mode } } := by
  cases op with
  | readRecord =>
      have read := Stopwatch.unread_same (unit.watch.unread_readRecord unit.now)
      exact ⟨_, unit.watch.mode, congrArg (fun watch => { unit with watch }) read⟩
  | readInto buffer =>
      simp only [Instrument.step, readInto]
      split
      · exact ⟨unit.watch.book.readCursor, unit.watch.mode, rfl⟩
      · have read := Stopwatch.unread_same (unit.watch.unread_readRecord unit.now)
        exact ⟨_, unit.watch.mode, congrArg (fun watch => { unit with watch }) read⟩
  | readPass =>
      have read := Stopwatch.unread_same (unit.watch.unread_readPass unit.now)
      exact ⟨_, unit.watch.mode, congrArg (fun watch => { unit with watch }) read⟩
  | setMode mode => exact ⟨unit.watch.book.readCursor, mode, rfl⟩
  | storeMode text =>
      simp only [Instrument.step, storeMode]
      split
      next mode _ => exact ⟨unit.watch.book.readCursor, mode, rfl⟩
      · exact ⟨unit.watch.book.readCursor, unit.watch.mode, rfl⟩
  | _ => exact (plain.elim id id).elim

namespace Crew

theorem bounded_step (unit : Instrument P L) (op : InstrumentOp)
    (bounded : unit.watch.book.count ≤ LapBook.capacity) :
    (unit.step op).1.watch.book.count ≤ LapBook.capacity :=
  Instrument.step_keeps (fun watch => watch.book.count ≤ LapBook.capacity)
    (fun watch now op bounded => watch.step_bounded now op bounded) unit op bounded

theorem fit_press (crew : Crew P L) (key : Key) (fit : crew.Fit) : (crew.press key).1.Fit where
  manned := manned_press crew key fit.manned
  bounded := by
    rw [press_follow, unit_follow]
    exact bounded_step crew.unit (.press key) fit.bounded

theorem fit_round (crew : Crew P L) (worker : Worker) (fit : crew.Fit) :
    (crew.round worker).1.Fit where
  manned := manned_round crew worker fit.manned
  bounded := by
    rcases round_unit crew worker with same | turned
    · rw [same]
      exact fit.bounded
    · rw [turned]
      exact bounded_step crew.unit worker.turn.op fit.bounded

/-- Plain use calls nobody and sends nobody away. -/
theorem fit_consulted (crew : Crew P L) (op : InstrumentOp)
    (plain : op.OnlyReads ∨ op.SetsMode) (fit : crew.Fit) :
    Fit { crew with unit := (crew.unit.step op).1 } := by
  obtain ⟨readCursor, mode, consulted⟩ := crew.unit.plain_step op plain
  rw [consulted]
  refine ⟨⟨?_, fit.manned.refreshing⟩, fit.bounded⟩
  intro worker
  have counted := fit.manned.counted worker
  cases worker <;> exact counted

end Crew

namespace Timekeeper

/-- A timekeeper that has been in plain use only. -/
structure InOrder (faces : Registers P Display.Position UInt8) (lights : Registers L Lamp Bool)
    (settings : TimerSettings) (keeper : Timekeeper P L) : Prop where
  sound : keeper.Sound faces lights
  fit : keeper.crew.Fit
  punctual : keeper.Punctual settings

variable {faces : Registers P Display.Position UInt8} {lights : Registers L Lamp Bool}
  {settings : TimerSettings}

theorem crew_readKeys (keeper : Timekeeper P L) :
    keeper.readKeys.1.crew = keeper.crew ∨
      ∃ key, keeper.readKeys.1.crew = (keeper.crew.press key).1 := by
  unfold readKeys
  cases Key.ofEdges? keeper.keys.edges with
  | none => exact .inl rfl
  | some key => exact .inr ⟨key, (press_frame keeper key).1⟩

theorem inOrder_press (keeper : Timekeeper P L) (key : Key)
    (ordered : keeper.InOrder faces lights settings) :
    (keeper.press key).1.InOrder faces lights settings where
  sound := sound_press keeper key ordered.sound
  punctual := punctual_press keeper key ordered.punctual
  fit := by
    rw [(press_frame keeper key).1]
    exact keeper.crew.fit_press key ordered.fit

theorem fit_readKeys (keeper : Timekeeper P L) (fit : keeper.crew.Fit) :
    keeper.readKeys.1.crew.Fit := by
  rcases crew_readKeys keeper with same | ⟨key, pressed⟩
  · rw [same]
    exact fit
  · rw [pressed]
    exact keeper.crew.fit_press key fit

theorem inOrder_readKeys (keeper : Timekeeper P L)
    (ordered : keeper.InOrder faces lights settings) :
    keeper.readKeys.1.InOrder faces lights settings where
  sound := sound_readKeys keeper ordered.sound
  fit := fit_readKeys keeper ordered.fit
  punctual := punctual_readKeys keeper ordered.punctual

theorem onTime_inOrder : OnTime (P := P) (L := L) (InOrder faces lights settings) where
  handlerTaken keeper rest head ordered :=
    ⟨sound_handlerTaken keeper rest head ordered.sound, ordered.fit,
      atWork_punctual.handlerTaken keeper rest head ordered.punctual⟩
  activate keeper handles ordered := by
    refine ⟨sound_activate keeper ordered.sound, ?_,
      atWork_punctual.activate keeper handles ordered.punctual⟩
    by_cases queued : 0 < keeper.line.queued
    · rw [activate_queued keeper queued]
      exact fit_readKeys keeper.taken ordered.fit
    · rw [activate_idle keeper (by omega)]
      exact ordered.fit
  round keeper worker rest head ordered :=
    ⟨sound_round keeper worker rest head ordered.sound,
      keeper.crew.fit_round worker ordered.fit,
      atWork_punctual.round keeper worker rest head ordered.punctual⟩
  ahead _ ordered := ordered.punctual.later
  wakeAt keeper instant idle later least ordered := by
    refine ⟨sound_wakeAt keeper instant ordered.sound, ?_,
      onTime_punctual.wakeAt keeper instant idle later least ordered.punctual⟩
    rw [crew_wakeAt]
    exact keeper.crew.fit_clock _ ordered.fit

theorem punctual_callOff (keeper : Timekeeper P L) (whom : Worker → Bool)
    (punctual : keeper.Punctual settings) : (keeper.callOff whom).Punctual settings := by
  unfold callOff
  split
  · apply atWork_punctual.settle
    exact punctual.same rfl rfl rfl fun _ held => (List.mem_filter.mp held).1
  · exact punctual

theorem punctual_close (keeper : Timekeeper P L) (stage : Closing)
    (punctual : keeper.Punctual settings) : (keeper.close stage).Punctual settings := by
  cases stage with
  | detachHandler =>
      simp only [close]
      split
      · apply atWork_punctual.settle
        exact punctual.same rfl rfl rfl (List.Subset.refl _)
      · exact punctual
  | endRenderer => exact punctual_callOff keeper Worker.isRenderer punctual
  | endStepper => exact punctual_callOff keeper Worker.isStepper punctual
  | endBlinker => exact punctual_callOff keeper Worker.isBlinker punctual
  | haltWatch => exact punctual.same rfl rfl rfl (List.Subset.refl _)
  | wipeWatch => exact punctual.same rfl rfl rfl (List.Subset.refl _)
  | darken => exact punctual.same rfl rfl rfl (List.Subset.refl _)

theorem punctual_closes (stages : List Closing) (keeper : Timekeeper P L)
    (punctual : keeper.Punctual settings) :
    (stages.foldl close keeper).Punctual settings :=
  List.foldlRecOn stages close punctual fun closing punctual stage _ =>
    punctual_close closing stage punctual

-- Nobody is left, and by its flags the stopwatch counts on nobody.
theorem AtRest.fit {keeper : Timekeeper P L} (rest : keeper.AtRest faces lights) :
    keeper.crew.Fit := by
  refine ⟨⟨?_, ?_⟩, ?_⟩
  · intro worker
    rw [rest.workers, rest.idle worker]
    rfl
  · intro runs
    exact absurd (rest.stopped.symm.trans runs) Bool.false_ne_true
  · rw [rest.book]
    exact Nat.zero_le _

theorem inOrder_shutDown (keeper : Timekeeper P L)
    (ordered : keeper.InOrder faces lights settings) :
    keeper.shutDown.InOrder faces lights settings where
  sound := sound_shutDown keeper ordered.sound
  fit := (shutDown_atRest keeper ordered.sound).fit
  punctual := by
    unfold shutDown
    exact punctual_closes Closing.all keeper ordered.punctual

theorem inOrder_step (keeper : Timekeeper P L) (op : TimekeeperOp) (plain : op.IsPlain)
    (ordered : keeper.InOrder faces lights settings) :
    (keeper.step op).1.InOrder faces lights settings := by
  have sound := sound_step keeper op ordered.sound
  have agenda : ∀ next : Timekeeper P L, next.Sound faces lights → next.crew = keeper.crew →
      next.settings = keeper.settings → next.millis = keeper.millis →
      next.asleep = keeper.asleep → next.InOrder faces lights settings := by
    intro next sound crew same millis asleep
    refine ⟨sound, crew ▸ ordered.fit, ordered.punctual.same same (by rw [crew]) millis ?_⟩
    rw [asleep]
    exact List.Subset.refl _
  cases op with
  | press key => exact inOrder_press keeper key ordered
  | sleep millis => exact onTime_inOrder.sleep keeper millis ordered
  | attach =>
      rcases attach_cases keeper with ⟨-, same⟩ | ⟨-, attached⟩
      · rwa [same]
      · rw [attached] at sound ⊢
        exact agenda _ sound rfl rfl rfl rfl
  | latch bits => exact agenda _ sound rfl rfl rfl rfl
  | raise => exact agenda _ sound rfl rfl rfl rfl
  | readKeys => exact inOrder_readKeys keeper ordered
  | shutDown => exact inOrder_shutDown keeper ordered
  | consult op =>
      refine ⟨sound, keeper.crew.fit_consulted op plain ordered.fit, ?_⟩
      obtain ⟨readCursor, mode, consulted⟩ := keeper.crew.unit.plain_step op plain
      refine ordered.punctual.same rfl ?_ rfl (List.Subset.refl _)
      show (keeper.crew.unit.step op).1.now = _
      rw [consulted]

theorem inOrder_start (settings : TimerSettings) (panel : P) (lamps : L)
    (working : faces.Works panel) (lit : lights.Works lamps) :
    (start settings panel lamps).InOrder faces lights settings where
  sound := sound_start settings panel lamps working lit
  fit := by
    have manned := Crew.manned_start settings 0 panel lamps
    exact ⟨⟨manned.counted, manned.refreshing⟩, Nat.zero_le _⟩
  punctual := punctual_start panel lamps

theorem inOrder_run (settings : TimerSettings) (panel : P) (lamps : L)
    (working : faces.Works panel) (lit : lights.Works lamps) (ops : List TimekeeperOp)
    (plain : ∀ op ∈ ops, op.IsPlain) :
    ((start settings panel lamps).run ops).1.InOrder faces lights settings := by
  have along : Throughout Timekeeper.step (fun _ op => op.IsPlain) (start settings panel lamps)
      ops := throughout_of_mem _ ops fun op held _ => plain op held
  exact along.keeps (InOrder faces lights settings) inOrder_step
    (inOrder_start settings panel lamps working lit)

end Timekeeper

end LapTimer
