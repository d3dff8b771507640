import LapTimer.Sink

/-! The three indicator lamps. A bank of lamps knows which are lit and every switching it took.
-/

namespace LapTimer

inductive Lamp where
  | running
  | replay
  | lap
  deriving DecidableEq, Repr, Inhabited

namespace Lamp

def all : List Lamp := [running, replay, lap]

def bit : Lamp → UInt32
  | running => 1
  | replay => 2
  | lap => 4

end Lamp

abbrev Switch := Lamp × Bool

structure LampBank where
  running : Bool := false
  replay : Bool := false
  lap : Bool := false
  past : Array Switch := #[]
  refusing : Bool := false
  deriving DecidableEq

namespace LampBank

def isOn (bank : LampBank) : Lamp → Bool
  | .running => bank.running
  | .replay => bank.replay
  | .lap => bank.lap

def switch (bank : LampBank) (lamp : Lamp) (on : Bool) : LampBank :=
  let switched := match lamp with
    | .running => { bank with running := on }
    | .replay => { bank with replay := on }
    | .lap => { bank with lap := on }
  { switched with past := bank.past.push (lamp, on) }

instance : Sink LampBank Switch where
  put bank w := if bank.refusing then (bank, some "refused") else (bank.switch w.1 w.2, none)

def register (bank : LampBank) : UInt32 :=
  Lamp.all.foldl (fun bits lamp => if bank.isOn lamp then bits ||| lamp.bit else bits) 0

/-- How often the lamp was switched, whether or not that changed it. -/
def switchings (bank : LampBank) (lamp : Lamp) : Nat := bank.past.countP (·.1 == lamp)

/-- How often the lamp was switched on. -/
def lightings (bank : LampBank) (lamp : Lamp) : Nat := bank.past.count (lamp, true)

end LampBank

/-- Switches all lamps off, one after the other. -/
def Lamp.allOff : List Switch := Lamp.all.map (·, false)

end LapTimer
