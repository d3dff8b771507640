import LapTimer.Stopwatch

/-! A pass of the sequential reader: records up to the next end mark. -/

namespace LapTimer

structure Pass where
  /-- The time on the end mark. -/
  current : Reading
  laps : List Reading
  deriving DecidableEq, Repr

/-- The number of laps from the read cursor to the tail. -/
def LapBook.lapsLeft (book : LapBook) : Nat :=
  match book.readCursor with
  | .lap i => book.count - i
  | .tail => 0

theorem LapBook.lapsLeft_readNext {book next : LapBook} {time : Reading}
    (read : book.readNext = (next, .lap time)) : next.lapsLeft < book.lapsLeft := by
  unfold LapBook.readNext at read
  split at read
  · simp at read
  · split at read
    next i stands =>
      split at read
      next lap found =>
        have inside : i < book.count := (List.getElem?_eq_some_iff.mp found).1
        simp only [Prod.mk.injEq, ReadStep.lap.injEq] at read
        obtain ⟨rfl, -⟩ := read
        simp only [LapBook.lapsLeft, LapBook.beyond, stands]
        split
        next after moved =>
          split at moved
          · simp only [Cursor.lap.injEq] at moved
            have same : ∀ s : Cursor, LapBook.count { book with readCursor := s } = book.count :=
              fun _ => rfl
            rw [same]
            omega
          · simp at moved
        · omega
      next => simp at read
    next => simp at read

namespace Stopwatch

theorem lapsLeft_readRecord {watch : Stopwatch} {now : UInt64}
    (lap : (watch.readRecord now).2.isEnd = false) :
    (watch.readRecord now).1.book.lapsLeft < watch.book.lapsLeft := by
  unfold readRecord at lap ⊢
  cases read : watch.book.readNext with
  | mk next step =>
      rw [read] at lap
      cases step with
      | empty => simp [Record.ofStep] at lap
      | tail => simp [Record.ofStep] at lap
      | lap time => exact LapBook.lapsLeft_readNext read

/-- Reads up to and with the next end mark. -/
def readPass (watch : Stopwatch) (now : UInt64) : Stopwatch × Pass :=
  let read := watch.readRecord now
  if _ : read.2.isEnd then (read.1, ⟨read.2.current, []⟩)
  else
    let (final, pass) := read.1.readPass now
    (final, { pass with laps := read.2.lap :: pass.laps })
termination_by watch.book.lapsLeft
decreasing_by exact lapsLeft_readRecord (eq_false_of_ne_true ‹_›)

end Stopwatch

end LapTimer
