import LapTimer.Console

/-! The command line: one line of standard input at a time. -/

namespace LapTimer.Terminal

/-- Bytes up to and with the next newline, or up to the end of the input. -/
partial def readLine (input : IO.FS.Stream) (seen : List UInt8) : IO (List UInt8) := do
  let bytes ← input.read 1
  match bytes.data.toList with
  | [] => return seen.reverse
  | b :: _ => if b == 0x0a then return (b :: seen).reverse else readLine input (b :: seen)

partial def converse (input output : IO.FS.Stream) (session : Console.Session)
    (last : Nat) : IO UInt32 := do
  let bytes ← readLine input []
  if bytes.isEmpty then return 0
  let now ← IO.monoMsNow
  match Text.ofUtf8? bytes with
  | none =>
      IO.eprintln "Error: stream did not contain valid UTF-8"
      return 1
  | some text =>
      match Console.line (session.sleep (now - last)) text with
      | .say next said =>
          output.putStr said
          output.flush
          converse input output next now
      | .quit => return 0

def converseFromStart : IO UInt32 := do
  let input ← IO.getStdin
  let output ← IO.getStdout
  output.putStr Console.greeting
  output.flush
  converse input output (Console.start {}) (← IO.monoMsNow)

end LapTimer.Terminal

def main : IO UInt32 := LapTimer.Terminal.converseFromStart
