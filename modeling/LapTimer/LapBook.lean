import LapTimer.Error
import LapTimer.Reading
import LapTimer.Run

/-! The lap book: up to 128 laps in the order of their capture, with a cursor for the readers,
who begin anew after each end mark, and a cursor for the replay. -/

namespace LapTimer

structure Lap where
  index : UInt64
  time : Reading
  deriving DecidableEq, Repr, Inhabited

inductive Cursor where
  | lap (index : Nat)
  | tail
  deriving DecidableEq, Repr, Inhabited

inductive ReadStep where
  | empty
  | lap (time : Reading)
  | tail
  deriving DecidableEq, Repr

structure LapBook where
  laps : List Lap := []
  readCursor : Cursor := .tail
  replayCursor : Cursor := .tail
  deriving DecidableEq, Repr

namespace LapBook

def capacity : Nat := 128

def count (book : LapBook) : Nat := book.laps.length

def capture (book : LapBook) (time : Reading) : Except Error (LapBook × Lap) :=
  if book.count < capacity then
    let lap : Lap := ⟨.ofNat book.count, time⟩
    .ok ({ book with
        laps := book.laps ++ [lap]
        readCursor := if book.readCursor = .tail then .lap 0 else book.readCursor }, lap)
  else .error (.bookFull capacity)

def clear (_ : LapBook) : LapBook := {}

def get? (book : LapBook) (index : Nat) : Option Lap := book.laps[index]?

/-- The cursor past a lap. -/
def beyond (book : LapBook) (index : Nat) : Cursor :=
  if index + 1 < book.count then .lap (index + 1) else .tail

/-- The end mark sends the cursor back to the first lap. -/
def readNext (book : LapBook) : LapBook × ReadStep :=
  if book.laps.isEmpty then (book, .empty)
  else
    match book.readCursor with
    | .lap i =>
        match book.get? i with
        | some lap => ({ book with readCursor := book.beyond i }, .lap lap.time)
        | none => ({ book with readCursor := .lap 0 }, .tail)
    | .tail => ({ book with readCursor := .lap 0 }, .tail)

def rewind (book : LapBook) : LapBook :=
  { book with replayCursor := if book.laps.isEmpty then .tail else .lap 0 }

/-- The lap under the replay cursor with the lap before it. -/
def replayNext (book : LapBook) : LapBook × Option (Lap × Option Lap) :=
  match book.replayCursor with
  | .tail => (book, none)
  | .lap i =>
      match book.get? i with
      | none => (book, none)
      | some lap =>
          let previous := if i = 0 then none else book.get? (i - 1)
          ({ book with replayCursor := book.beyond i }, some (lap, previous))

end LapBook

inductive BookOp where
  | capture (time : Reading)
  | clear
  | readNext
  | rewind
  | replayNext
  deriving DecidableEq, Repr

inductive BookResult where
  | captured (lap : Lap)
  | refused (error : Error)
  | read (step : ReadStep)
  | replay (shown : Option (Lap × Option Lap))
  | done
  deriving DecidableEq, Repr

def LapBook.step (book : LapBook) : BookOp → LapBook × BookResult
  | .capture time =>
      match book.capture time with
      | .ok (next, lap) => (next, .captured lap)
      | .error error => (book, .refused error)
  | .clear => (book.clear, .done)
  | .readNext =>
      let (next, step) := book.readNext
      (next, .read step)
  | .rewind => (book.rewind, .done)
  | .replayNext =>
      let (next, shown) := book.replayNext
      (next, .replay shown)

abbrev LapBook.run (book : LapBook) (ops : List BookOp) : LapBook × List BookResult :=
  runBy step book ops

end LapTimer
