import LapTimer.Timekeeper
import LapTimer.Display.Panel
import LapTimer.Text.Bytes
import LapTimer.Text.Lines

/-! A timekeeper at a terminal. The word of a key presses it as a hand would, through the
register and the interrupt line. -/

namespace LapTimer.Console

abbrev Session := Timekeeper Display.Panel LampBank

def greeting : String :=
  "commands: run, lap, replay, reset, read, laps, count, mode [0|1], quit\n"

/-- A timekeeper with its handler at work. -/
def start (settings : TimerSettings) : Session :=
  let session : Session := .start settings {} {}
  match session.attach with
  | .ok attached => attached.settle
  | .error _ => session

def press (session : Session) (key : Key) : Session :=
  ((session.latch key.bit).raise).1.settle

def passText (pass : Pass) : String :=
  "Current time: " ++ pass.current.text ++ "\n" ++
    String.join (pass.laps.mapIdx fun i lap =>
      "Lap " ++ toString (i + 1) ++ ": " ++ lap.text ++ "\n")

def storeMode (session : Session) (text : String) : Session × String :=
  let (unit, outcome) := session.crew.unit.storeMode text
  (session.updateUnit unit,
    match outcome with
    | .ok _ => ""
    | .error error => error.message ++ "\n")

/-- What one line of input leads to. -/
inductive Reply where
  | say (session : Session) (text : String)
  | quit

def command (session : Session) : List String → Reply
  | "read" :: _ =>
      let (unit, pass) := session.crew.unit.readPass
      .say (session.updateUnit unit) (passText pass)
  | "laps" :: _ => .say session session.crew.unit.lapsText
  | "count" :: _ => .say session session.crew.unit.lapCountText
  | "mode" :: value :: _ =>
      let (next, text) := storeMode session value
      .say next text
  | ["mode"] => .say session session.crew.unit.modeText
  | "quit" :: _ => .quit
  | "exit" :: _ => .quit
  | _ => .say session ""

def line (session : Session) (text : String) : Reply :=
  match Text.words text with
  | [] => .say session ""
  | word :: rest =>
      match Key.ofText? word with
      | some key => .say (press session key) ""
      | none => command session (word :: rest)

/-- A whole session at one instant: its exit code and what it printed. -/
def run (session : Session) (printed : String) : List (List UInt8) → Nat × String
  | [] => (0, printed)
  | bytes :: rest =>
      match Text.ofUtf8? bytes with
      | none => (1, printed)
      | some text =>
          match line session text with
          | .say next said => run next (printed ++ said) rest
          | .quit => (0, printed)

def runInput (input : List UInt8) : Nat × String :=
  run (start {}) greeting (Text.lines input)

end LapTimer.Console
