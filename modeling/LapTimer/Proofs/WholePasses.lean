import LapTimer.Proofs.ReadPasses
import LapTimer.Proofs.ReaderWays

/-! Whole passes. A pass leaves the cursor at the first lap, where it stays until a lap is
added, the laps are cleared or a record is read on its own. -/

namespace LapTimer

namespace LapBook

/-- The laps from the read cursor to the tail. -/
def ahead (book : LapBook) : List Lap :=
  match book.readCursor with
  | .lap place => book.laps.drop place
  | .tail => []

/-- The book with its read cursor where an end mark leaves it. -/
def rewound (book : LapBook) : LapBook :=
  { book with readCursor := if book.laps.isEmpty then book.readCursor else .lap 0 }

theorem length_ahead (book : LapBook) : book.ahead.length = book.lapsLeft := by
  unfold ahead lapsLeft
  cases book.readCursor with
  | lap place => exact List.length_drop
  | tail => rfl

theorem lapsLeft_le (book : LapBook) : book.lapsLeft ≤ book.count := by
  unfold lapsLeft
  split
  · exact Nat.sub_le _ _
  · exact Nat.zero_le _

theorem readNext_ended (book : LapBook) (left : book.lapsLeft = 0) :
    book.readNext.1 = book.rewound := by
  cases none : book.laps.isEmpty with
  | true => simp [readNext, rewound, none]
  | false =>
      cases stands : book.readCursor with
      | tail => simp [readNext, rewound, none, stands]
      | lap place =>
          have past : book.laps.length ≤ place := by
            simp only [lapsLeft, stands, count] at left
            omega
          simp [readNext, rewound, none, stands, get?, List.getElem?_eq_none past]

theorem ahead_beyond (book : LapBook) {place : Nat} {lap : Lap}
    (stands : book.readCursor = .lap place) (found : book.laps[place]? = some lap) :
    book.ahead = lap :: ahead { book with readCursor := book.beyond place } := by
  obtain ⟨inside, rfl⟩ := List.getElem?_eq_some_iff.mp found
  simp only [ahead, stands, beyond]
  rw [List.drop_eq_getElem_cons inside]
  by_cases more : place + 1 < book.count
  · simp only [if_pos more]
  · simp only [if_neg more, List.drop_eq_nil_of_le (Nat.le_of_not_lt more)]

theorem rewound_beyond (book : LapBook) {place : Nat} {lap : Lap}
    (found : book.laps[place]? = some lap) :
    rewound { book with readCursor := book.beyond place } = book.rewound := by
  have held : book.laps.isEmpty = false := by
    rw [List.isEmpty_eq_false_iff]
    exact List.ne_nil_of_mem (List.mem_of_getElem? found)
  simp [rewound, held]

/-- The read cursor stands where a pass begins. -/
def AtHead (book : LapBook) : Prop := book.laps = [] ∨ book.readCursor = .lap 0

theorem atHead_rewound (book : LapBook) : book.rewound.AtHead := by
  cases none : book.laps.isEmpty with
  | true => exact .inl (List.isEmpty_iff.mp none)
  | false => exact .inr (by simp [rewound, none])

theorem AtHead.ahead {book : LapBook} (head : book.AtHead) : book.ahead = book.laps := by
  rcases head with none | first
  · unfold LapBook.ahead
    split <;> simp [none]
  · simp [LapBook.ahead, first]

/-- A book that is not read and keeps its laps keeps its read cursor. -/
theorem AtHead.step {book : LapBook} (head : book.AtHead) (op : BookOp) (other : op ≠ .readNext)
    (kept : (book.step op).1.laps = book.laps) : (book.step op).1.AtHead := by
  cases op with
  | capture time =>
      simp only [LapBook.step] at kept ⊢
      cases captured : book.capture time with
      | ok added =>
          have grown := (capture_ok book added.1 time added.2 captured).2.2.1
          simp [captured, grown] at kept
      | error error => exact head
  | clear => exact .inl rfl
  | readNext => exact absurd rfl other
  | rewind => exact head
  | replayNext =>
      have same := laps_replayNext book
      rcases head with none | first
      · exact .inl (same.trans none)
      · exact .inr ((readCursor_replayNext book).trans first)

end LapBook

namespace Stopwatch

theorem current_readRecord (watch : Stopwatch) (now : UInt64) :
    (watch.readRecord now).2.current = watch.reading now := by
  unfold readRecord
  cases watch.book.readNext with
  | mk book step => cases step <;> rfl

theorem readRecord_lap (watch : Stopwatch) (now : UInt64)
    (goes : (watch.readRecord now).2.isEnd = false) :
    ∃ place lap, watch.book.readCursor = .lap place ∧ watch.book.laps[place]? = some lap ∧
      watch.readRecord now =
        ({ watch with book := { watch.book with readCursor := watch.book.beyond place } },
          ⟨watch.reading now, lap.time, false⟩) := by
  rcases watch.book.readNext_cases with ⟨place, lap, stands, found, read⟩ | ⟨-, empty | tail⟩
  · exact ⟨place, lap, stands, found, by simp only [readRecord, read, Record.ofStep]⟩
  · simp [readRecord, empty, Record.ofStep] at goes
  · simp [readRecord, tail, Record.ofStep] at goes

/-- What a pass reads and what it leaves, by the reads that it makes. -/
theorem readPass_eq (watch : Stopwatch) (now : UInt64) :
    watch.readPass now = ({ watch with book := watch.book.rewound },
      ⟨watch.reading now, watch.book.ahead.map Lap.time⟩) := by
  induction watch using readPass.induct now with
  | case1 watch read ends =>
      have left := watch.lapsLeft_ended now ends
      have none : watch.book.ahead = [] := by
        rw [← List.length_eq_zero_iff, LapBook.length_ahead, left]
      have moved : read.1 = { watch with book := watch.book.rewound } := by
        rw [← LapBook.readNext_ended watch.book left]
        rfl
      rw [readPass, dif_pos ends, none, current_readRecord, moved]
      rfl
  | case2 watch read goes final pass rest ih =>
      obtain ⟨place, lap, stands, found, lapped⟩ :=
        watch.readRecord_lap now (eq_false_of_ne_true goes)
      have back := watch.book.rewound_beyond found
      rw [readPass, dif_neg goes, ih, watch.book.ahead_beyond stands found]
      simp only [read, lapped, back, List.map_cons]
      rfl

/-- Where a pass begins the cursor stays, with any operation that reads no record and keeps
the laps. -/
theorem atHead_step (watch : Stopwatch) (now : UInt64) (op : WatchOp)
    (head : watch.book.AtHead) (unread : op ≠ .readRecord)
    (same : (watch.step now op).1.book.laps = watch.book.laps) :
    (watch.step now op).1.book.AtHead := by
  rcases watch.book_step now op with still | ⟨change, reads, moved⟩
  · rwa [still]
  · rw [moved] at same ⊢
    exact head.step change (fun read => unread (reads read)) same

end Stopwatch

namespace Instrument

variable {P L : Type}

theorem readPass_eq (unit : Instrument P L) :
    unit.readPass = ({ unit with watch := { unit.watch with book := unit.watch.book.rewound } },
      ⟨unit.reading, unit.watch.book.ahead.map Lap.time⟩) := by
  simp only [readPass, Stopwatch.readPass_eq, reading]

variable [Sink P Display.Write] [Sink L Switch]

/-- No lap was added and none was cleared between one instrument and another, and records
were read on their own only if `reads`. -/
inductive Between (reads : Prop) (unit : Instrument P L) : Instrument P L → Prop
  | nothing : Between reads unit unit
  | operated {later : Instrument P L} (before : Between reads unit later) (op : InstrumentOp)
      (allowed : op.ReadsRecord → reads)
      (same : (later.step op).1.watch.book.laps = later.watch.book.laps) :
      Between reads unit (later.step op).1
  | inside {later : Instrument P L} (before : Between reads unit later) (now : UInt64)
      (op : WatchOp) (allowed : op = .readRecord → reads)
      (same : (later.watch.step now op).1.book.laps = later.watch.book.laps) :
      Between reads unit { later with watch := (later.watch.step now op).1 }

theorem Between.laps {reads : Prop} {unit later : Instrument P L}
    (between : Between reads unit later) :
    later.watch.book.laps = unit.watch.book.laps := by
  induction between with
  | nothing => rfl
  | operated before op allowed same ih => exact same.trans ih
  | inside before now op allowed same ih => exact same.trans ih

theorem Between.atHead {unit later : Instrument P L} (between : Between False unit later)
    (head : unit.watch.book.AtHead) : later.watch.book.AtHead := by
  induction between with
  | nothing => exact head
  | @operated later before op allowed same ih =>
      rcases watch_step later op with rfl | still | ⟨inner, reads, moved⟩
      · simp only [Instrument.step, readPass_eq]
        exact LapBook.atHead_rewound _
      · rwa [still]
      · rw [moved] at same ⊢
        exact later.watch.atHead_step later.now inner ih (fun read => allowed (reads read)) same
  | @inside later before now op allowed same ih =>
      exact later.watch.atHead_step now op ih allowed same

/-- Wherever the read cursor stands, a pass comes to no more plain reads than one for each
lap in the book and one for the end mark. It has the laps from the cursor to the tail and
the present reading, and moves nothing but the cursor, which then stands at the first lap.
So a later pass has all laps, unless a lap was added, the laps were cleared or a record was
read on its own in between: that would have moved the cursor that all readers share. -/
theorem pass_exact (unit : Instrument P L) :
    let book := unit.watch.book
    let after := unit.readPass.1
    (∃ reads ≤ book.count + 1,
        after = (unit.run (List.replicate reads .readRecord)).1 ∧
          PassTold unit.readPass.2 (unit.run (List.replicate reads .readRecord)).2) ∧
      unit.readPass.2 = ⟨unit.reading, book.ahead.map Lap.time⟩ ∧
      after = { unit with watch := { unit.watch with
        book := { book with readCursor := after.watch.book.readCursor } } } ∧
      (0 < book.count → after.watch.book.readCursor = .lap 0) ∧
      ∀ later, Between False after later →
        later.readPass.2 = ⟨later.reading, book.laps.map Lap.time⟩ := by
  intro book after
  have moved : after = { unit with watch := { unit.watch with book := book.rewound } } :=
    congrArg Prod.fst unit.readPass_eq
  obtain ⟨alike, told⟩ := unit.readPass_plain
  refine ⟨⟨book.lapsLeft + 1, Nat.succ_le_succ book.lapsLeft_le, alike, told⟩, ?_, ?_, ?_, ?_⟩
  · rw [readPass_eq]
  · rw [moved]
    rfl
  · intro held
    have full : book.laps.isEmpty = false :=
      List.isEmpty_eq_false_iff.mpr (List.ne_nil_of_length_pos held)
    rw [moved]
    simp [LapBook.rewound, full]
  · intro later between
    have head : after.watch.book.AtHead := by
      rw [moved]
      exact book.atHead_rewound
    have laps : after.watch.book.laps = book.laps := by
      rw [moved]
      rfl
    rw [readPass_eq, (between.atHead head).ahead, between.laps, laps]

/-- Of two laps one was read before a pass. The next pass comes after the watch was stopped,
time went by and yet another pass was made. -/
theorem pass_exact_resumed :
    let fresh : Instrument Display.Panel LampBank :=
      { watch := ({} : TimerSettings).watch, panel := {}, lamps := {} }
    let unit := (fresh.run [.press .run, .moveClock (.advanceSeconds 1), .press .lap,
      .moveClock (.advanceSeconds 1), .press .lap, .readRecord]).1
    let stopped := (unit.readPass.1.step (.press .run)).1
    let later := ((stopped.step (.moveClock (.advanceSeconds 1))).1.step .readPass).1
    Between False unit.readPass.1 later ∧
      unit.readPass.2 = ⟨⟨0, 2, 0⟩, [⟨0, 2, 0⟩]⟩ ∧
      unit.readPass.1.watch.book.readCursor = .lap 0 ∧
      later.readPass.2 = ⟨⟨0, 2, 0⟩, [⟨0, 1, 0⟩, ⟨0, 2, 0⟩]⟩ := by
  intro fresh unit stopped later
  obtain ⟨-, now, -, first, next⟩ := unit.pass_exact
  have pressed : Between False unit.readPass.1 stopped :=
    .operated .nothing (.press .run) id (by rw [readPass_eq]; decide +kernel)
  have waits : ∀ (any : Instrument Display.Panel LampBank) (move : ClockMove),
      (any.step (.moveClock move)).1.watch.book.laps = any.watch.book.laps := fun _ _ => rfl
  have passes : ∀ any : Instrument Display.Panel LampBank,
      (any.step .readPass).1.watch.book.laps = any.watch.book.laps :=
    fun any => by simp only [Instrument.step, readPass_eq]; rfl
  have between : Between False unit.readPass.1 later :=
    (pressed.operated _ id (waits stopped _)).operated _ id (passes _)
  refine ⟨between, now.trans (by decide +kernel), first (by decide +kernel),
    (next later between).trans ?_⟩
  simp only [later, stopped, Instrument.step, readPass_eq]
  decide +kernel

/-- Two laps are held and a pass is made. One more read takes the first lap, and the pass
after it has only the second. -/
theorem read_between_takes_lap :
    ¬ ∀ unit later : Instrument Display.Panel LampBank, unit.Reached →
      Between True unit.readPass.1 later →
      later.readPass.2.laps = unit.watch.book.laps.map Lap.time := by
  intro all
  let fresh : Instrument Display.Panel LampBank :=
    { watch := ({} : TimerSettings).watch, panel := {}, lamps := {} }
  let ops : List InstrumentOp := [.press .run, .moveClock (.advanceSeconds 1), .press .lap,
    .moveClock (.advanceSeconds 1), .press .lap]
  have reached : fresh.Reached := .new {} 0 fresh.panel fresh.lamps
  have read : Between True (fresh.run ops).1.readPass.1 _ :=
    .operated .nothing .readRecord (fun _ => trivial) (LapBook.laps_readNext _)
  have taken := all _ _ (reached.run ops) read
  simp only [Instrument.step, readPass_eq] at taken
  exact absurd taken (by decide)

end Instrument

end LapTimer
