import LapTimer.Proofs.KeyStrikes

/-! Operations that are declined. They change nothing at all, so a run goes on as if they had
not been there. -/

namespace LapTimer

theorem LapBook.capture_full (book : LapBook) (time : Reading)
    (full : LapBook.capacity ≤ book.count) : book.capture time = .error (.bookFull capacity) := by
  rw [capture, if_neg (Nat.not_lt.mpr full)]

theorem LapMode.parse_other (text : String) (notZero : Text.trim text ≠ "0")
    (notOne : Text.trim text ≠ "1") :
    LapMode.parse text = .error (.invalidLapMode (Text.trim text)) := by
  unfold parse
  split
  next zero => exact absurd zero notZero
  next one => exact absurd one notOne
  next => rfl

namespace Stopwatch

/-- The lap key adds nothing: the stopwatch rests, or its book is full. -/
def NoLap (watch : Stopwatch) : Prop :=
  watch.meter.running = false ∨ LapBook.capacity ≤ watch.book.count

/-- A reset that can only mark the book: there is no room for the last lap. -/
def OnlyMarks (watch : Stopwatch) : Prop :=
  watch.meter.running = false ∧ watch.replay.active = true ∧
    LapBook.capacity ≤ watch.book.count

/-- The time is gone, and the laps will be once the replay is over. -/
def marked (watch : Stopwatch) : Stopwatch :=
  { watch with meter := {}, face := .zero, replay := { watch.replay with clearAfter := true } }

theorem press_noLap (watch : Stopwatch) (now : UInt64) (none : watch.NoLap) :
    watch.press now .lap = (watch, .none) := by
  by_cases runs : watch.meter.running = true
  · have full : LapBook.capacity ≤ watch.book.count :=
      none.resolve_left fun rests => Bool.false_ne_true (rests.symm.trans runs)
    simp only [press, runs, ↓reduceIte, addLap, LapBook.capture_full _ _ full]
  · simp only [press, if_neg runs]

theorem press_resetRunning (watch : Stopwatch) (now : UInt64)
    (runs : watch.meter.running = true) : watch.press now .reset = (watch, .none) := by
  simp only [press, runs, ↓reduceIte]

theorem press_onlyMarks (watch : Stopwatch) (now : UInt64) (marks : watch.OnlyMarks) :
    watch.press now .reset = (watch.marked, .none) := by
  obtain ⟨rests, replays, full⟩ := marks
  obtain ⟨⟨running, openedAt, banked⟩, face, book, replay, blinker, blinks, mode, refreshing⟩ :=
    watch
  simp only at rests replays full
  simp only [press, rests, Bool.false_eq_true, ↓reduceIte, reset, replays, addLap,
    LapBook.capture_full _ _ full, Meter.reset, marked]

/-- A key that asks for nothing changes nothing, but for the one reset that only marks. -/
theorem press_asks_nothing (watch : Stopwatch) (now : UInt64) (key : Key)
    (nothing : (watch.press now key).2 = .none) :
    (watch.press now key).1 = watch ∨ key = .reset ∧ watch.OnlyMarks := by
  have row := press_row watch now key
  generalize (watch.press now key).1 = next at row ⊢
  generalize (watch.press now key).2 = orders at row nothing
  cases row with
  | lapIgnored _ => exact .inl rfl
  | lapDropped _ _ => exact .inl rfl
  | resetIgnored _ => exact .inl rfl
  | resetDropped rests replays refused =>
      exact .inr ⟨rfl, rests, replays, (LapBook.capture_error _ _ _ refused).1⟩
  | _ => simp [Orders.none, beginReplay, leaveReplay] at nothing

end Stopwatch

variable {P L : Type} [Sink P Display.Write] [Sink L Switch]

namespace Instrument

theorem press_quiet (unit : Instrument P L) (key : Key) (watch : Stopwatch)
    (quiet : unit.watch.press unit.now key = (watch, .none)) :
    unit.press key = ({ unit with watch }, .none) := by
  simp only [press, quiet]
  rfl

/-- What an instrument declines in its present state, with the answer. -/
inductive Declined (unit : Instrument P L) : InstrumentOp → InstrumentResult → Prop
  | size (buffer : List UInt8) (other : buffer.length ≠ Record.size) :
      Declined unit (.readInto buffer)
        (.buffer buffer (.error (.invalidRecordSize Record.size buffer.length)))
  | mode (text : String) (notZero : Text.trim text ≠ "0") (notOne : Text.trim text ≠ "1") :
      Declined unit (.storeMode text) (.stored (.error (.invalidLapMode (Text.trim text))))
  | lap (none : unit.watch.NoLap) : Declined unit (.press .lap) (.orders .none)
  | reset (runs : unit.watch.meter.running = true) :
      Declined unit (.press .reset) (.orders .none)

theorem Declined.step_eq {unit : Instrument P L} {op : InstrumentOp} {result : InstrumentResult}
    (declined : unit.Declined op result) : unit.step op = (unit, result) := by
  cases declined with
  | size buffer other => simp only [step, readInto, Record.requireSize, if_neg other]
  | mode text notZero notOne =>
      simp only [step, storeMode, LapMode.parse_other text notZero notOne]
  | lap none =>
      simp only [step, unit.press_quiet .lap _ (unit.watch.press_noLap unit.now none)]
  | reset runs =>
      simp only [step, unit.press_quiet .reset _ (unit.watch.press_resetRunning unit.now runs)]

end Instrument

namespace Timekeeper

theorem press_quiet (keeper : Timekeeper P L) (key : Key) (unit : Instrument P L)
    (quiet : keeper.crew.unit.press key = (unit, .none)) :
    keeper.press key = (keeper.updateUnit unit, .none) := by
  have crew : keeper.crew.press key = ({ keeper.crew with unit }, .none) := by
    simp only [Crew.press, quiet, Crew.follow, Orders.none, Orders.starts]
    simp
  simp only [press, crew, Orders.none, Orders.starts]
  simp [updateUnit]

/-- What a timekeeper declines, be it asked itself or through its instrument. -/
inductive Declined (keeper : Timekeeper P L) : TimekeeperOp → TimekeeperResult → Prop
  | consulted {op : InstrumentOp} {result : InstrumentResult}
      (declined : keeper.crew.unit.Declined op result) :
      Declined keeper (.consult op) (.consulted result)
  | pressed {key : Key} (declined : keeper.crew.unit.Declined (.press key) (.orders .none)) :
      Declined keeper (.press key) (.orders .none)

theorem Declined.step_eq {keeper : Timekeeper P L} {op : TimekeeperOp}
    {result : TimekeeperResult} (declined : keeper.Declined op result) :
    keeper.step op = (keeper, result) := by
  cases declined with
  | consulted declined => simp only [step, declined.step_eq, updateUnit]
  | @pressed key declined =>
      have stepped := declined.step_eq
      simp only [Instrument.step, Prod.mk.injEq, InstrumentResult.orders.injEq] at stepped
      simp only [step, keeper.press_quiet key _ (Prod.ext stepped.1 stepped.2), updateUnit]

/-- The one run is the other without some of the operations that are declined in it. -/
inductive Sifted : Timekeeper P L → List TimekeeperOp → List TimekeeperOp → Prop
  | nil (keeper : Timekeeper P L) : Sifted keeper [] []
  | left {keeper : Timekeeper P L} {op : TimekeeperOp} {result : TimekeeperResult}
      {ops kept : List TimekeeperOp} (declined : keeper.Declined op result)
      (later : Sifted keeper ops kept) : Sifted keeper (op :: ops) kept
  | kept {keeper : Timekeeper P L} {op : TimekeeperOp} {ops kept : List TimekeeperOp}
      (later : Sifted (keeper.step op).1 ops kept) : Sifted keeper (op :: ops) (op :: kept)

theorem Sifted.run_eq {keeper : Timekeeper P L} {ops kept : List TimekeeperOp}
    (sifted : Sifted keeper ops kept) : (keeper.run kept).1 = (keeper.run ops).1 := by
  induction sifted with
  | nil keeper => rfl
  | @left keeper op result ops kept declined _ ih =>
      have same : (keeper.run (op :: ops)).1 = ((keeper.step op).1.run ops).1 := rfl
      rw [same, declined.step_eq, ih]
  | kept _ ih => exact ih

/--
In every state: what is declined is answered with its reason and leaves everything as it
was, down to the buffer, the cursors and the countdown of the blink. A key that asks for
nothing has done nothing, with one exception: a reset of a replay with a full book adds no
lap, but zeroes the time and marks the book. A register that holds no single key is
acknowledged and does nothing else. So a run ends alike with what it declines and without.
-/
theorem declined_changes_nothing (keeper : Timekeeper P L) :
    let unit := keeper.crew.unit
    let watch := unit.watch
    (∀ buffer : List UInt8, buffer.length ≠ 28 →
      keeper.step (.consult (.readInto buffer)) =
        (keeper, .consulted (.buffer buffer
          (.error (.invalidRecordSize 28 buffer.length))))) ∧
      (∀ text, Text.trim text ≠ "0" → Text.trim text ≠ "1" →
        keeper.step (.consult (.storeMode text)) =
          (keeper, .consulted (.stored (.error (.invalidLapMode (Text.trim text)))))) ∧
      (∀ (book : LapBook) (time : Reading), 128 ≤ book.count →
        book.step (.capture time) = (book, .refused (.bookFull 128))) ∧
      (watch.meter.running = false ∨ 128 ≤ watch.book.count →
        keeper.step (.press .lap) = (keeper, .orders .none)) ∧
      (watch.meter.running = true → keeper.step (.press .reset) = (keeper, .orders .none)) ∧
      (watch.meter.running = false → watch.replay.active = true → 128 ≤ watch.book.count →
        keeper.step (.press .reset) =
          (keeper.updateUnit { unit with watch := { watch with
            meter := {}, face := .zero, replay := { watch.replay with clearAfter := true } } },
            .orders .none)) ∧
      (∀ key, (keeper.press key).2 = .none → (keeper.press key).1 = keeper ∨
        key = .reset ∧ watch.meter.running = false ∧ watch.replay.active = true ∧
          128 ≤ watch.book.count) ∧
      ((∀ key : Key, keeper.keys.edges ≠ key.bit) →
        keeper.step .readKeys =
          ({ keeper with keys := { edges := 0, acks := keeper.keys.acks + 1 } },
            .keys none)) ∧
      ∀ ops kept, Sifted keeper ops kept → (keeper.run kept).1 = (keeper.run ops).1 := by
  intro unit watch
  refine ⟨?_, ?_, ?_, ?_, ?_, ?_, ?_, ?_, fun ops kept sifted => sifted.run_eq⟩
  · intro buffer other
    exact (Declined.consulted (.size buffer other)).step_eq
  · intro text notZero notOne
    exact (Declined.consulted (.mode text notZero notOne)).step_eq
  · intro book time full
    simp only [LapBook.step, book.capture_full time full, LapBook.capacity]
  · intro none
    exact (Declined.pressed (.lap none)).step_eq
  · intro runs
    exact (Declined.pressed (.reset runs)).step_eq
  · intro rests replays full
    have marks := watch.press_onlyMarks unit.now ⟨rests, replays, full⟩
    simp only [step, keeper.press_quiet .reset _ (unit.press_quiet .reset _ marks)]
    rfl
  · intro key nothing
    have given : (watch.press unit.now key).2 = .none := by
      simpa only [press, Crew.press, Instrument.orders_press] using nothing
    rcases watch.press_asks_nothing unit.now key given with same | marks
    · left
      have quiet := unit.press_quiet key watch (Prod.ext same given)
      rw [keeper.press_quiet key _ quiet]
      rfl
    · exact .inr marks
  · intro unknown
    simp only [step, keeper.readKeys_other unknown]
    rfl

end Timekeeper

end LapTimer
