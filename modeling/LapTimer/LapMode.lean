import LapTimer.Error
import LapTimer.Reading
import LapTimer.Text.Blank

/-! What a replay shows for a lap: the time since the start or since the lap before it. -/

namespace LapTimer

inductive LapMode where
  | absolute
  | split
  deriving DecidableEq, Repr, Inhabited

namespace LapMode

def number : LapMode → UInt8
  | absolute => 0
  | split => 1

def ofNumber? : UInt8 → Option LapMode
  | 0 => some absolute
  | 1 => some split
  | _ => none

/-- Reads a mode from its digit, with white space around it. The error carries
the text without that white space. -/
def parse (text : String) : Except Error LapMode :=
  match Text.trim text with
  | "0" => .ok absolute
  | "1" => .ok split
  | other => .error (.invalidLapMode other)

def value (mode : LapMode) (lap : Reading) (previous : Option Reading) : Reading :=
  match mode with
  | absolute => lap
  | split => lap.sub (previous.getD .zero)

end LapMode

end LapTimer
