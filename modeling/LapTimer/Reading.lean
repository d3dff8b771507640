import LapTimer.Saturating

/-! A reading of the face: minutes, seconds and hundredths. The fields are bytes and may hold
more than a face can show; conversions from counts stop at the greatest reading, 99:59.99. -/

namespace LapTimer

structure Reading where
  minutes : UInt8
  seconds : UInt8
  centis : UInt8
  deriving DecidableEq, Repr, Inhabited

namespace Reading

def nanosPerCenti : UInt64 := 10_000_000

def nanosPerMilli : UInt64 := 1_000_000

def nanosPerSecond : UInt64 := 1_000_000_000

/-- Nanoseconds of the greatest reading. -/
def limitNanos : UInt64 := 5_999_990_000_000

def zero : Reading := ⟨0, 0, 0⟩

def greatest : Reading := ⟨99, 59, 99⟩

def inRange (r : Reading) : Bool :=
  r.minutes ≤ 99 && r.seconds ≤ 59 && r.centis ≤ 99

def ofFields? (minutes seconds centis : UInt8) : Option Reading :=
  let r : Reading := ⟨minutes, seconds, centis⟩
  if r.inRange then some r else none

def isZero (r : Reading) : Bool := r == zero

/-- Truncates to whole hundredths. -/
def ofNanos (nanos : UInt64) : Reading :=
  if limitNanos ≤ nanos then greatest
  else
    let centis := nanos / nanosPerCenti
    ⟨(centis / 6000).toUInt8, (centis / 100 % 60).toUInt8, (centis % 100).toUInt8⟩

/-- The reading in hundredths of a second; also of one that does not fit. -/
def total (r : Reading) : UInt32 :=
  r.minutes.toUInt32 * 6000 + r.seconds.toUInt32 * 100 + r.centis.toUInt32

def toNanos (r : Reading) : UInt64 := r.total.toUInt64 * nanosPerCenti

def ofCentis (centis : UInt32) : Reading := ofNanos (centis.toUInt64 * nanosPerCenti)

/-- The time from `b` to `a`, zero where `b` is later. -/
def sub (a b : Reading) : Reading := ofCentis (Saturating.sub32 a.total b.total)

/-- Field by field, minutes first. -/
def compare (a b : Reading) : Ordering :=
  (Ord.compare a.minutes b.minutes).then
    ((Ord.compare a.seconds b.seconds).then (Ord.compare a.centis b.centis))

instance : Ord Reading := ⟨compare⟩

/-- The six digits from the most significant on; a field of a hundred or more
has a first digit above nine. -/
def digits (r : Reading) : List UInt8 :=
  [r.minutes / 10, r.minutes % 10, r.seconds / 10, r.seconds % 10,
    r.centis / 10, r.centis % 10]

/-- At least two decimal digits. -/
def twoDigits (n : UInt8) : String :=
  if n < 10 then "0" ++ toString n.toNat else toString n.toNat

def text (r : Reading) : String :=
  twoDigits r.minutes ++ ":" ++ twoDigits r.seconds ++ "." ++ twoDigits r.centis

end Reading

end LapTimer
