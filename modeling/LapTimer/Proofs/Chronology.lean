import LapTimer.Proofs.LimitLatch
import LapTimer.Proofs.ReplayCourse

/-! Laps in the order of time. A reset during a replay breaks it, but it marks the book, and
the mark stands until the laps are gone. -/

namespace LapTimer

/-- What a replay shows for laps, from the time of the lap before them on. -/
def shownTimes (mode : LapMode) : Option Reading → List Lap → List Reading
  | _, [] => []
  | previous, lap :: rest =>
      mode.value lap.time previous :: shownTimes mode (some lap.time) rest

theorem getElem?_shownTimes (mode : LapMode) (previous : Option Reading) (laps : List Lap)
    (place : Nat) :
    (shownTimes mode previous laps)[place]? =
      laps[place]?.map fun lap =>
        mode.value lap.time
          (if place = 0 then previous else laps[place - 1]?.map (·.time)) := by
  induction laps generalizing previous place with
  | nil => rfl
  | cons lap rest ih =>
      cases place with
      | zero => rfl
      | succ place =>
          rw [shownTimes, List.getElem?_cons_succ, List.getElem?_cons_succ, ih]
          cases place <;> rfl

theorem length_shownTimes (mode : LapMode) (previous : Option Reading) (laps : List Lap) :
    (shownTimes mode previous laps).length = laps.length := by
  induction laps generalizing previous with
  | nil => rfl
  | cons lap rest ih => rw [shownTimes, List.length_cons, List.length_cons, ih]

/-- The splits from a reading on add up to the last lap: each of them is exact. -/
theorem sum_splits (before : Reading) (laps : List Lap)
    (readable : before.inRange = true ∧ ∀ lap ∈ laps, lap.time.inRange = true)
    (after : ∀ lap ∈ laps, before ≤ lap.time)
    (ordered : laps.Pairwise fun earlier later => earlier.time ≤ later.time) :
    before.total.toNat + ((shownTimes .split (some before) laps).map (·.total.toNat)).sum =
      ((laps.getLast?.map (·.time)).getD before).total.toNat := by
  induction laps generalizing before with
  | nil => rfl
  | cons lap rest ih =>
      have fits := readable.2 lap List.mem_cons_self
      have gap := Reading.total_add_sub lap.time before fits readable.1
        (after lap List.mem_cons_self)
      obtain ⟨next, ordered⟩ := List.pairwise_cons.mp ordered
      have later := ih lap.time
        ⟨fits, fun lap member => readable.2 lap (List.mem_cons_of_mem _ member)⟩ next ordered
      have last : (((lap :: rest).getLast?.map (·.time)).getD before) =
          ((rest.getLast?.map (·.time)).getD lap.time) := by
        rw [List.getLast?_cons]
        cases rest.getLast? <;> rfl
      rw [last, ← later, ← gap, shownTimes, List.map_cons, List.sum_cons, Nat.add_assoc]
      rfl

/-- The times shown are the first lap and then from each lap to the next, nothing of them
lost to saturation. -/
structure ExactSplits (laps : List Lap) (shown : List Reading) : Prop where
  length : shown.length = laps.length
  first : shown.head? = laps.head?.map (·.time)
  next : ∀ place lap later, laps[place]? = some lap → laps[place + 1]? = some later →
    shown[place + 1]? = some (later.time.sub lap.time) ∧
      lap.time.total.toNat + (later.time.sub lap.time).total.toNat = later.time.total.toNat
  sum : ∀ last, laps.getLast? = some last →
    (shown.map (·.total.toNat)).sum = last.time.total.toNat

theorem splits_exact (laps : List Lap) (readable : ∀ lap ∈ laps, lap.time.inRange = true)
    (ordered : laps.Pairwise fun earlier later => earlier.time ≤ later.time) :
    ExactSplits laps (shownTimes .split none laps) := by
  have zeroFits : Reading.zero.inRange = true := by decide
  constructor
  · exact length_shownTimes .split none laps
  · cases laps with
    | nil => rfl
    | cons lap rest =>
        have fits := readable lap List.mem_cons_self
        exact congrArg some (Reading.sub_zero lap.time fits)
  · intro place lap later held held'
    constructor
    · rw [getElem?_shownTimes, held']
      simp [held, LapMode.value]
    · apply Reading.total_add_sub _ _ (readable later (List.mem_of_getElem? held'))
        (readable lap (List.mem_of_getElem? held))
      obtain ⟨less, rfl⟩ := List.getElem?_eq_some_iff.mp held
      obtain ⟨less', rfl⟩ := List.getElem?_eq_some_iff.mp held'
      exact List.pairwise_iff_getElem.mp ordered _ _ less less' (Nat.lt_succ_self _)
  · intro last ends
    have after : ∀ lap ∈ laps, Reading.zero ≤ lap.time := by
      intro lap member
      rw [Reading.le_iff_total _ _ zeroFits (readable lap member), Reading.total_zero]
      exact Nat.zero_le _
    have start : shownTimes .split none laps = shownTimes .split (some .zero) laps := by
      cases laps <;> rfl
    have sum := sum_splits .zero laps ⟨zeroFits, readable⟩ after ordered
    rw [ends, Reading.total_zero, Nat.zero_add, ← start] at sum
    exact sum

namespace Stopwatch

/-- Every lap is a reading, none is later than the lap after it, none later than now. -/
structure Chronological (watch : Stopwatch) (now : UInt64) : Prop where
  readable : ∀ lap ∈ watch.book.laps, lap.time.inRange = true
  ordered : watch.book.laps.Pairwise fun earlier later => earlier.time ≤ later.time
  past : ∀ lap ∈ watch.book.laps, lap.time ≤ watch.reading now

theorem chronological_empty (watch : Stopwatch) (now : UInt64) (empty : watch.book = {}) :
    watch.Chronological now := by
  constructor <;> simp [empty]

theorem Chronological.later {watch : Stopwatch} {now later : UInt64}
    (stands : watch.Chronological now) (le : now ≤ later) : watch.Chronological later := by
  refine ⟨stands.readable, stands.ordered, ?_⟩
  intro lap member
  have grows : watch.reading now ≤ watch.reading later :=
    Reading.ofNanos_mono _ _ (Meter.elapsed_mono watch.meter now later le)
  exact Reading.le_trans _ _ _ (stands.past lap member) grows

theorem reading_kept (watch : Stopwatch) (now : UInt64) (op : WatchOp)
    (kept : ¬ AcceptsReset watch op) : (watch.step now op).1.reading now = watch.reading now := by
  rw [reading, reading, Meter.reading, Meter.reading]
  rcases meter_kept watch now op kept with same | ⟨asked, unreset, moved⟩
  · rw [same]
  · rw [moved, Meter.elapsed_step watch.meter now asked unreset]

-- A lap is captured at the time of its instant, which no lap before it exceeds.
theorem chronological_step (watch : Stopwatch) (now : UInt64) (op : WatchOp)
    (kept : ¬ AcceptsReset watch op) (stands : watch.Chronological now) :
    (watch.step now op).1.Chronological now := by
  have still := reading_kept watch now op kept
  cases step_change watch now op with
  | added lap _ _ _ time grown _ =>
      constructor
      · rw [grown, List.forall_mem_append, List.forall_mem_singleton, time]
        exact ⟨stands.readable, Reading.inRange_ofNanos _⟩
      · rw [grown, List.pairwise_append]
        refine ⟨stands.ordered, List.pairwise_singleton _ _, ?_⟩
        intro earlier member later added
        rw [List.mem_singleton.mp added, time]
        exact stands.past earlier member
      · rw [grown, still, List.forall_mem_append, List.forall_mem_singleton, time]
        exact ⟨stands.past, Reading.le_refl _⟩
  | cleared _ _ emptied _ => exact chronological_empty _ now emptied
  | unchanged _ _ same _ =>
      constructor
      · rw [same]
        exact stands.readable
      · rw [same]
        exact stands.ordered
      · rw [same, still]
        exact stands.past

theorem reset_marks (watch : Stopwatch) (now : UInt64) (op : WatchOp)
    (reset : AcceptsReset watch op) (replays : watch.replay.active = true) :
    (watch.step now op).1.replay.clearAfter = true := by
  obtain ⟨rfl, rests⟩ := reset
  have row := press_row watch now .reset
  simp only [step]
  generalize (watch.press now .reset).1 = next at row ⊢
  generalize (watch.press now .reset).2 = orders at row
  cases row with
  | resetIgnored runs => exact absurd (rests.symm.trans runs) Bool.false_ne_true
  | resetCleared _ live => exact absurd (live.symm.trans replays) Bool.false_ne_true
  | resetAdded => rfl
  | resetDropped => rfl

/-- The mark goes with the laps, and nothing else leaves a book unmarked that a reset has met
during a replay. -/
theorem unmarked_step (watch : Stopwatch) (now : UInt64) (op : WatchOp)
    (unmarked : (watch.step now op).1.replay.clearAfter = false) :
    ClearsLaps watch now op ∨ ¬ AcceptsReset watch op ∧ watch.replay.clearAfter = false := by
  by_cases reset : AcceptsReset watch op
  · refine .inl (.inl ⟨reset, eq_false_of_ne_true ?_⟩)
    intro replays
    exact Bool.false_ne_true (unmarked.symm.trans (reset_marks watch now op reset replays))
  · by_cases clears : ClearsLaps watch now op
    · exact .inl clears
    · have same : (watch.step now op).1.replay.clearAfter = watch.replay.clearAfter := by
        apply step_clearAfter watch now op reset
        · intro wiped
          exact clears (.inr (.inr wiped))
        · intro marked ends
          exact clears (.inr (.inl ⟨ends, marked⟩))
      exact .inr ⟨reset, same.symm.trans unmarked⟩

theorem unmarked_chronological (watch : Stopwatch) (now : UInt64) (op : WatchOp)
    (stands : watch.replay.clearAfter = false → watch.Chronological now)
    (unmarked : (watch.step now op).1.replay.clearAfter = false) :
    (watch.step now op).1.Chronological now := by
  rcases unmarked_step watch now op unmarked with clears | ⟨kept, before⟩
  · cases step_change watch now op with
    | added _ _ keeps => exact absurd clears keeps
    | cleared _ _ emptied => exact chronological_empty _ now emptied
    | unchanged _ keeps => exact absurd clears keeps
  · exact chronological_step watch now op kept (stands before)

theorem chronological_run (watch : Stopwatch) (first last : UInt64)
    (ops : List (UInt64 × WatchOp)) (forward : Forward first ops last)
    (stands : watch.replay.clearAfter = false → watch.Chronological first)
    (unmarked : (watch.run ops).1.replay.clearAfter = false) :
    (watch.run ops).1.Chronological last := by
  induction ops generalizing watch first with
  | nil => exact (stands unmarked).later forward
  | cons entry rest ih =>
      obtain ⟨now, op⟩ := entry
      apply ih (watch.step now op).1 now forward.2 ?_ unmarked
      exact unmarked_chronological watch now op fun before => (stands before).later forward.1

/-- The steps of a session and nothing else. -/
def onlySteps (session : UInt32) (instants : List UInt64) : List (UInt64 × WatchOp) :=
  instants.map fun now => (now, .stepReplay session)

-- No lap is added meanwhile, so at every step the laps seen are the whole book.
theorem AtPlace.run_steps {session : UInt32} {first : List Lap} {place seen : Nat}
    {watch : Stopwatch} (stands : AtPlace session first place seen watch)
    (whole : watch.book.count = seen) (inside : place ≤ seen) (instants : List UInt64)
    (enough : place + instants.length = seen + 1) :
    ∃ orders, (watch.run (onlySteps session instants)).2 =
      (shownTimes watch.mode
          (if place = 0 then none else watch.book.laps[place - 1]?.map (·.time))
          (watch.book.laps.drop place)).map (fun value => .replay (.lap value)) ++
        [.replay (.finished orders)] := by
  induction instants generalizing place watch with
  | nil =>
      rw [List.length_nil] at enough
      omega
  | cons now rest ih =>
      rw [List.length_cons] at enough
      by_cases room : place < seen
      · obtain ⟨lap, found, stepped⟩ := stands.step_lap now room
        have next := (stands.step_shows now room).2
        rw [whole] at next
        simp only [roundAt, stepped] at next
        obtain ⟨orders, later⟩ := ih next whole room (by omega)
        have drop : watch.book.laps.drop place = lap :: watch.book.laps.drop (place + 1) := by
          obtain ⟨less, rfl⟩ := List.getElem?_eq_some_iff.mp found
          exact List.drop_eq_getElem_cons less
        simp only [Nat.add_one_ne_zero, ↓reduceIte, Nat.add_sub_cancel, found,
          Option.map_some] at later
        refine ⟨orders, ?_⟩
        simp only [onlySteps, List.map_cons, runBy, timed, step, stepped, drop, shownTimes,
          List.cons_append]
        exact congrArg _ later
      · obtain ⟨⟨orders, finished⟩, -⟩ := stands.step_finishes now (Nat.le_of_not_lt room)
        have alone : rest = [] := List.length_eq_zero_iff.mp (by omega)
        have drop : watch.book.laps.drop place = [] := by
          apply List.drop_eq_nil_of_le
          exact Nat.le_trans (Nat.le_of_eq whole) (Nat.le_of_not_lt room)
        simp only [roundAt] at finished
        refine ⟨orders, ?_⟩
        simp only [alone, drop, onlySteps, List.map_cons, List.map_nil, runBy, timed, step,
          shownTimes, finished, List.nil_append]

/-- On a clock that goes forward, in every state without a mark on the book all laps are
readings, none later than the lap after it and none later than the time. So a replay of
splits that is begun there and stepped to its end shows the first lap and then the time
from each lap to the next, all exact, and they add up to the last lap. -/
theorem laps_chronological (settings : TimerSettings) (ops : List (UInt64 × WatchOp))
    (now : UInt64) (forward : Forward 0 ops now)
    (unmarked : (settings.watch.run ops).1.replay.clearAfter = false) :
    let watch := (settings.watch.run ops).1
    watch.Chronological now ∧
      (watch.replay.active = false → watch.mode = .split →
        ∀ instant instants, instants.length = watch.book.count + 1 →
          let begun := (watch.press instant .replay).1
          ∃ shown orders, ExactSplits watch.book.laps shown ∧
            (begun.run (onlySteps begun.replay.session instants)).2 =
              shown.map (fun value => .replay (.lap value)) ++ [.replay (.finished orders)]) := by
  intro watch
  have stands : watch.Chronological now := by
    apply chronological_run settings.watch 0 now ops forward ?_ unmarked
    exact fun _ => chronological_empty _ 0 rfl
  refine ⟨stands, ?_⟩
  intro live splits instant instants enough begun
  have bounded : watch.book.count ≤ LapBook.capacity :=
    run_bounded settings.watch ops (Nat.zero_le _)
  have laps : begun.book.laps = watch.book.laps := by
    simp only [begun, press, live]
    rfl
  have mode : begun.mode = .split := by
    simp only [begun, press, live]
    exact splits
  have start := AtPlace.begun watch instant live bounded
  have count : begun.book.count = watch.book.count := congrArg List.length laps
  obtain ⟨orders, shown⟩ := start.run_steps rfl (Nat.zero_le _) instants
    (by rw [Nat.zero_add, enough, count])
  rw [mode, if_pos rfl, List.drop_zero, laps] at shown
  exact ⟨_, orders, splits_exact watch.book.laps stands.readable stands.ordered, shown⟩

/-- A first book was cleared after a replay that had met a reset; the laps of a second one
are shown. -/
theorem laps_chronological_splits :
    let settings : TimerSettings := { mode := .split }
    let ops : List (UInt64 × WatchOp) :=
      [(0, .press .run), (61000000000, .press .lap), (70000000000, .press .run),
        (71000000000, .press .replay), (72000000000, .press .reset),
        (73000000000, .press .replay), (80000000000, .press .run),
        (85500000000, .press .lap), (200250000000, .press .lap)]
    let instants : List UInt64 := [205000000000, 208000000000, 211000000000]
    let watch := (settings.watch.run ops).1
    let begun := (watch.press 202000000000 .replay).1
    Forward 0 ops 201000000000 ∧ watch.replay.clearAfter = false ∧
      watch.replay.active = false ∧ watch.mode = .split ∧
      watch.Chronological 201000000000 ∧
      watch.book.laps.map (·.time) = [⟨0, 5, 50⟩, ⟨2, 0, 25⟩] ∧
      ∃ shown orders, ExactSplits watch.book.laps shown ∧ shown[1]? = some ⟨1, 54, 75⟩ ∧
        (begun.run (onlySteps begun.replay.session instants)).2 =
          shown.map (fun value => .replay (.lap value)) ++ [.replay (.finished orders)] := by
  intro settings ops instants watch begun
  have forward : Forward 0 ops 201000000000 := by simp [ops, Forward]
  have unmarked : watch.replay.clearAfter = false := by decide
  have live : watch.replay.active = false := by decide
  have splits : watch.mode = .split := by decide
  obtain ⟨stands, replayed⟩ := laps_chronological settings ops 201000000000 forward unmarked
  obtain ⟨shown, orders, exactly, told⟩ := replayed live splits 202000000000 instants (by decide)
  have second := (exactly.next 0 ⟨0, ⟨0, 5, 50⟩⟩ ⟨1, ⟨2, 0, 25⟩⟩ (by decide) (by decide)).1
  exact ⟨forward, unmarked, live, splits, stands, by decide, shown, orders, exactly, second, told⟩

end Stopwatch

end LapTimer
