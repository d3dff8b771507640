import LapTimer.LapBook

/-! What a sequential read gives, and its written form of 28 bytes: six little-endian words for
the two times, one byte for the end mark and three bytes of zero. -/

namespace LapTimer

structure Record where
  current : Reading
  lap : Reading
  isEnd : Bool
  deriving DecidableEq, Repr

namespace Record

def size : Nat := 28

def ofStep (current : Reading) : ReadStep → Record
  | .lap time => ⟨current, time, false⟩
  | .empty => ⟨current, .zero, true⟩
  | .tail => ⟨current, .zero, true⟩

/-- The four bytes of a word, the lowest first. -/
def wordBytes (w : UInt32) : List UInt8 :=
  [w.toUInt8, (w / 256).toUInt8, (w / 65536).toUInt8, (w / 16777216).toUInt8]

def wordOf (a b c d : UInt8) : UInt32 :=
  a.toUInt32 + b.toUInt32 * 256 + c.toUInt32 * 65536 + d.toUInt32 * 16777216

def readingBytes (r : Reading) : List UInt8 :=
  wordBytes r.centis.toUInt32 ++ wordBytes r.seconds.toUInt32 ++ wordBytes r.minutes.toUInt32

def toBytes (r : Record) : List UInt8 :=
  readingBytes r.current ++ readingBytes r.lap ++ [if r.isEnd then 1 else 0, 0, 0, 0]

def readingOf (centis seconds minutes : UInt32) : Reading :=
  .ofCentis (Saturating.add32
    (Saturating.add32 (Saturating.mul32 minutes 6000) (Saturating.mul32 seconds 100)) centis)

def wordAt (bytes : List UInt8) (i : Nat) : UInt32 :=
  wordOf (bytes.getD i 0) (bytes.getD (i + 1) 0) (bytes.getD (i + 2) 0) (bytes.getD (i + 3) 0)

def readingAt (bytes : List UInt8) (i : Nat) : Reading :=
  readingOf (wordAt bytes i) (wordAt bytes (i + 4)) (wordAt bytes (i + 8))

/-- Refuses a length that is not the size of a record. -/
def requireSize (length : Nat) : Except Error Unit :=
  if length = size then .ok () else .error (.invalidRecordSize size length)

/-- Reads any bytes of the right size. -/
def ofBytes (bytes : List UInt8) : Except Error Record :=
  match requireSize bytes.length with
  | .ok () => .ok ⟨readingAt bytes 0, readingAt bytes 12, bytes.getD 24 0 != 0⟩
  | .error error => .error error

/-- A buffer with some of its bytes, from a place on, written over. -/
def writeAt (buffer : List UInt8) (place : Nat) (bytes : List UInt8) : List UInt8 :=
  buffer.take place ++ bytes ++ buffer.drop (place + bytes.length)

/-- Writes the record over a buffer, part by part. A buffer of another size stays
as it was. -/
def encodeInto (r : Record) (buffer : List UInt8) : List UInt8 × Except Error Nat :=
  match requireSize buffer.length with
  | .ok () =>
      let timed := writeAt (writeAt buffer 0 (readingBytes r.current)) 12 (readingBytes r.lap)
      let marked := writeAt timed 24 [if r.isEnd then 1 else 0]
      (writeAt marked 25 [0, 0, 0], .ok size)
  | .error error => (buffer, .error error)

end Record

end LapTimer
