import LapTimer.Text.Blank

/-! The four keys and the register that latches them. Two keys at once mean none. -/

namespace LapTimer

inductive Key where
  | run
  | lap
  | replay
  | reset
  deriving DecidableEq, Repr, Inhabited

namespace Key

def all : List Key := [run, lap, replay, reset]

def bit : Key → UInt32
  | run => 1
  | lap => 2
  | replay => 4
  | reset => 8

def ofEdges? (edges : UInt32) : Option Key := all.find? (·.bit == edges)

/-- The words by which a key is typed. -/
def words : Key → List String
  | run => ["run", "start", "stop", "1"]
  | lap => ["lap", "2"]
  | replay => ["replay", "list", "3"]
  | reset => ["reset", "4"]

/-- White space around the word and the case of ASCII letters do not matter. -/
def ofText? (text : String) : Option Key :=
  let word := Text.lowerAscii (Text.trim text)
  all.find? (·.words.contains word)

end Key

structure EdgeRegister where
  edges : UInt32 := 0
  /-- How often the register was acknowledged. -/
  acks : UInt32 := 0
  deriving DecidableEq, Repr

namespace EdgeRegister

def latch (register : EdgeRegister) (bits : UInt32) : EdgeRegister :=
  { register with edges := register.edges ||| bits }

def press (register : EdgeRegister) (key : Key) : EdgeRegister := register.latch key.bit

def acknowledge (register : EdgeRegister) : EdgeRegister :=
  { register with edges := 0, acks := register.acks + 1 }

end EdgeRegister

end LapTimer
