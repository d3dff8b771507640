import LapTimer.Proofs.Transitions
import LapTimer.Settings

/-! Resets that follow each other. During a replay each of them after the first adds a lap of
no time. -/

namespace LapTimer

/-- Laps of no time, numbered on from a count. -/
def zeroLaps (count extra : Nat) : List Lap :=
  (List.range' count extra).map fun index => ⟨.ofNat index, .zero⟩

namespace Stopwatch

def pressResets (watch : Stopwatch) (times : List UInt64) : Stopwatch :=
  times.foldl (fun watch now => (watch.press now .reset).1) watch

/-- Reset during a replay and not run since. As long as there is room for a lap, the one
that the reset added has left the blinker armed and the read cursor on a lap. -/
structure HeldBack (watch : Stopwatch) : Prop where
  replays : watch.replay.active = true
  pending : watch.replay.clearAfter = true
  meter : watch.meter = {}
  face : watch.face = .zero
  armed : watch.book.count < LapBook.capacity →
    (watch.blinker.arm watch.blinks).1 = watch.blinker
  reads : watch.book.count < LapBook.capacity → watch.book.readCursor ≠ .tail

theorem meter_reset (meter : Meter) (rests : meter.running = false) : meter.reset.1 = {} := by
  obtain ⟨running, openedAt, banked⟩ := meter
  simp only at rests
  subst rests
  rfl

theorem heldBack_reset (watch : Stopwatch) (now : UInt64)
    (rests : watch.meter.running = false) (replays : watch.replay.active = true) :
    (watch.press now .reset).1.HeldBack := by
  have row := press_row watch now .reset
  generalize (watch.press now .reset).1 = next at row ⊢
  generalize (watch.press now .reset).2 = orders at row
  have zero := meter_reset watch.meter rests
  cases row with
  | resetIgnored runs => simp [rests] at runs
  | resetCleared _ live => simp [replays] at live
  | @resetAdded book lap _ _ captured =>
      have cursor := (LapBook.capture_ok _ _ _ _ captured).2.2.2.2
      refine ⟨replays, rfl, zero, rfl, fun _ => rfl, fun _ => ?_⟩
      show book.readCursor ≠ .tail
      rw [cursor]
      split
      · exact nofun
      next elsewhere => exact elsewhere
  | resetDropped _ _ refused =>
      have full := (LapBook.capture_error _ _ _ refused).1
      have noRoom : ¬ watch.book.count < LapBook.capacity := Nat.not_lt_of_le full
      exact ⟨replays, rfl, zero, rfl, fun room => absurd room noRoom,
        fun room => absurd room noRoom⟩

theorem HeldBack.rests {watch : Stopwatch} (held : watch.HeldBack) :
    watch.meter.running = false := by
  rw [held.meter]

theorem HeldBack.reading {watch : Stopwatch} (held : watch.HeldBack) (now : UInt64) :
    watch.reading now = .zero := by
  rw [Stopwatch.reading, held.meter]
  exact Meter.reading_reset {} now rfl

/-- A book with laps of no time after those that it has. -/
def withZeroLaps (watch : Stopwatch) (extra : Nat) : Stopwatch :=
  { watch with
    book := { watch.book with laps := watch.book.laps ++ zeroLaps watch.book.count extra } }

theorem withZeroLaps_none (watch : Stopwatch) : watch.withZeroLaps 0 = watch := by
  simp [withZeroLaps, zeroLaps]

theorem count_withZeroLaps (watch : Stopwatch) (extra : Nat) :
    (watch.withZeroLaps extra).book.count = watch.book.count + extra := by
  simp [withZeroLaps, zeroLaps, LapBook.count]

theorem withZeroLaps_add (watch : Stopwatch) (extra more : Nat) :
    (watch.withZeroLaps extra).withZeroLaps more = watch.withZeroLaps (extra + more) := by
  have count := watch.count_withZeroLaps extra
  rw [withZeroLaps, count]
  simp only [withZeroLaps, zeroLaps, List.append_assoc, ← List.map_append,
    List.range'_append_1]

theorem HeldBack.withZeroLaps {watch : Stopwatch} (held : watch.HeldBack) (extra : Nat) :
    (watch.withZeroLaps extra).HeldBack := by
  obtain ⟨replays, pending, meter, face, armed, reads⟩ := held
  have smaller : (watch.withZeroLaps extra).book.count < LapBook.capacity →
      watch.book.count < LapBook.capacity := by
    rw [count_withZeroLaps]
    omega
  exact ⟨replays, pending, meter, face, fun room => armed (smaller room),
    fun room => reads (smaller room)⟩

/-- One more lap of no time, if there is room, and else nothing. -/
theorem HeldBack.reset {watch : Stopwatch} (held : watch.HeldBack) (now : UInt64) :
    (watch.press now .reset).1 =
      watch.withZeroLaps (min 1 (LapBook.capacity - watch.book.count)) := by
  have row := press_row watch now .reset
  generalize (watch.press now .reset).1 = next at row ⊢
  generalize (watch.press now .reset).2 = orders at row
  have meter : watch.meter.reset.1 = watch.meter := by
    rw [meter_reset watch.meter held.rests, held.meter]
  have replay : { watch.replay with clearAfter := true } = watch.replay := by
    rw [← held.pending]
  cases row with
  | resetIgnored runs => simp [held.rests] at runs
  | resetCleared _ live => simp [held.replays] at live
  | @resetAdded book lap _ _ captured =>
      obtain ⟨room, rfl, laps, replayCursor, readCursor⟩ := LapBook.capture_ok _ _ _ _ captured
      have one : min 1 (LapBook.capacity - watch.book.count) = 1 := by omega
      have longer : book = { watch.book with
          laps := watch.book.laps ++ zeroLaps watch.book.count 1 } := by
        rw [held.reading] at laps
        rw [if_neg (held.reads room)] at readCursor
        obtain ⟨_, _, _⟩ := book
        simp only at laps replayCursor readCursor
        rw [laps, replayCursor, readCursor]
        rfl
      rw [one, longer, held.armed room, meter, replay, ← held.face]
      rfl
  | resetDropped _ _ refused =>
      have full := (LapBook.capture_error _ _ _ refused).1
      have none : min 1 (LapBook.capacity - watch.book.count) = 0 := by omega
      rw [none, withZeroLaps_none, meter, replay, ← held.face]

theorem HeldBack.pressResets {watch : Stopwatch} (held : watch.HeldBack)
    (times : List UInt64) :
    watch.pressResets times =
      watch.withZeroLaps (min times.length (LapBook.capacity - watch.book.count)) := by
  induction times generalizing watch with
  | nil => rw [List.length_nil, Nat.zero_min, withZeroLaps_none, Stopwatch.pressResets,
      List.foldl_nil]
  | cons now rest ih =>
      have later := ih (held.withZeroLaps (min 1 (LapBook.capacity - watch.book.count)))
      rw [count_withZeroLaps, withZeroLaps_add] at later
      rw [Stopwatch.pressResets, List.foldl_cons, held.reset now, ← Stopwatch.pressResets, later,
        List.length_cons]
      congr 1
      omega

/-- A reset that was refused, or that has cleared the laps, has nothing to do again. -/
theorem reset_settles (watch : Stopwatch) (first second : UInt64)
    (other : watch.meter.running = true ∨ watch.replay.active = false) :
    ((watch.press first .reset).1.press second .reset).1 = (watch.press first .reset).1 := by
  by_cases runs : watch.meter.running = true
  · simp [press, runs]
  · have rests := eq_false_of_ne_true runs
    have live := other.resolve_left runs
    simp [press, reset, rests, live, meter_reset, LapBook.clear]

theorem pressResets_settled (watch : Stopwatch) (times : List UInt64)
    (settles : ∀ now, (watch.press now .reset).1 = watch) : watch.pressResets times = watch := by
  induction times with
  | nil => rfl
  | cons now rest ih => rwa [pressResets, List.foldl_cons, settles now]

/--
Resets after a first one, at any times. Where the first was refused because the meter ran,
or met no replay, they change nothing. Where it met a replay, each of them adds one lap of
no time as long as the book has room, and all else stays as the first has left it. So
pressing the key again is harmless but during a replay with room for another lap.
-/
theorem reset_repeated (watch : Stopwatch) (first : UInt64) (again : List UInt64) :
    let once := (watch.press first .reset).1
    let room := LapBook.capacity - once.book.count
    (watch.meter.running = true ∨ watch.replay.active = false →
        once.pressResets again = once) ∧
      (watch.meter.running = false → watch.replay.active = true →
        once.pressResets again = once.withZeroLaps (min again.length room)) ∧
      ∀ second, (once.press second .reset).1 = once ↔
        watch.meter.running = true ∨ watch.replay.active = false ∨ room = 0 := by
  intro once room
  refine ⟨?_, ?_, ?_⟩
  · intro other
    exact pressResets_settled once again fun now => reset_settles watch first now other
  · intro rests replays
    exact (heldBack_reset watch first rests replays).pressResets again
  · intro second
    by_cases other : watch.meter.running = true ∨ watch.replay.active = false
    · have same := reset_settles watch first second other
      exact iff_of_true same (or_assoc.mp (.inl other))
    · rw [not_or, Bool.not_eq_true, Bool.not_eq_false] at other
      have held := heldBack_reset watch first other.1 other.2
      rw [held.reset second, other.1, other.2]
      constructor
      · intro same
        have count : once.book.count + min 1 room = once.book.count := by
          rw [← count_withZeroLaps]
          exact congrArg (fun watch => watch.book.count) same
        have noRoom : room = 0 := by omega
        exact .inr (.inr noRoom)
      · intro noRoom
        have none : room = 0 := by simpa using noRoom
        show once.withZeroLaps (min 1 room) = once
        rw [none, Nat.min_zero, withZeroLaps_none]

/-- A second reset during a replay adds a lap of no time to the one that keeps the last. -/
theorem second_reset_adds_lap :
    ¬ ∀ (before : List (UInt64 × WatchOp)) (first second : UInt64),
      let watch := (({} : TimerSettings).watch.run before).1
      let once := (watch.press first .reset).1
      (once.press second .reset).1.book.laps = once.book.laps := by
  intro same
  have laps := same [(0, .press .run), (1000000000, .press .run), (1000000000, .press .replay)]
    1000000000 1000000000
  exact absurd laps (by decide)

end Stopwatch

end LapTimer
