import LapTimer.Display.Segments

/-! Panels of six digits: one that can be read back and may refuse, and one that is read as
text. -/

namespace LapTimer.Display

structure Panel where
  digits : Vector UInt8 6 := Vector.replicate 6 off
  /-- Number of writes that were not refused. -/
  writes : Nat := 0
  refusing : Bool := false
  deriving DecidableEq

namespace Panel

def write (panel : Panel) (position : Position) (code : UInt8) : Panel :=
  { panel with
    digits := panel.digits.set position.index code
    writes := panel.writes + 1 }

def code (panel : Panel) (position : Position) : UInt8 := panel.digits[position.index]

instance : Sink Panel Write where
  put panel w := if panel.refusing then (panel, some "refused") else (panel.write w.1 w.2, none)

def isDark (panel : Panel) : Bool := panel.digits.all (· == off)

/-- The reading on the panel. There is none on a blank panel, where a digit has
no decimal code, and where the digits make no reading that fits the face. -/
def reading? (panel : Panel) : Option Reading :=
  if panel.isDark then none
  else
    match panel.digits.toList.mapM digitOf? with
    | some [a, b, c, d, e, f] => Reading.ofFields? (a * 10 + b) (c * 10 + d) (e * 10 + f)
    | _ => none

def text (panel : Panel) : String := textOf panel.digits

end Panel

structure TextPanel where
  digits : Vector UInt8 6 := Vector.replicate 6 off
  deriving DecidableEq

namespace TextPanel

def write (panel : TextPanel) (position : Position) (code : UInt8) : TextPanel :=
  if panel.digits[position.index] = code then panel
  else { panel with digits := panel.digits.set position.index code }

instance : Sink TextPanel Write where
  put panel w := (panel.write w.1 w.2, none)

def text (panel : TextPanel) : String := textOf panel.digits

end TextPanel

end LapTimer.Display
