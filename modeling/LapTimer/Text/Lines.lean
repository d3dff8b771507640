/-! Bytes cut into lines, without the newlines and the carriage returns before them. -/

namespace LapTimer.Text

/-- A line without the carriage return at its end, given last byte first. -/
def closeLine : List UInt8 → List UInt8
  | 0x0d :: seen => seen.reverse
  | seen => seen.reverse

/-- `seen` holds the bytes of the line so far, last first. -/
def linesFrom (seen : List UInt8) : List UInt8 → List (List UInt8)
  | [] => if seen.isEmpty then [] else [seen.reverse]
  | b :: rest =>
      if b == 0x0a then closeLine seen :: linesFrom [] rest else linesFrom (b :: seen) rest

def lines (bytes : List UInt8) : List (List UInt8) := linesFrom [] bytes

end LapTimer.Text
