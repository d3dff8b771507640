import LapTimer.Reading
import LapTimer.Sink

/-! A reading as writes to six seven-segment digits. A face that reads zero is dark. -/

namespace LapTimer.Display

inductive Position where
  | minuteTens
  | minuteUnits
  | secondTens
  | secondUnits
  | centiTens
  | centiUnits
  deriving DecidableEq, Repr, Inhabited

namespace Position

def all : List Position :=
  [minuteTens, minuteUnits, secondTens, secondUnits, centiTens, centiUnits]

def index : Position → Fin 6
  | minuteTens => 0
  | minuteUnits => 1
  | secondTens => 2
  | secondUnits => 3
  | centiTens => 4
  | centiUnits => 5

end Position

abbrev Write := Position × UInt8

def off : UInt8 := 0

/-- The codes of the digits 0 to 9; bit 0 is the top segment, bit 6 the middle one. -/
def digitCodes : List UInt8 :=
  [0x3f, 0x06, 0x5b, 0x4f, 0x66, 0x6d, 0x7d, 0x07, 0x7f, 0x6f]

def codeOf (digit : UInt8) : UInt8 := digitCodes.getD digit.toNat off

def digitOf? (code : UInt8) : Option UInt8 :=
  (digitCodes.findIdx? (· == code)).map (·.toUInt8)

def digitChar (code : UInt8) : Char :=
  match digitOf? code with
  | some digit => Char.ofNat (48 + digit.toNat)
  | none => '-'

def textOf (digits : Vector UInt8 6) : String :=
  match digits.toList.map digitChar with
  | [a, b, c, d, e, f] => String.ofList [a, b, ':', c, d, '.', e, f]
  | _ => ""

def codes (r : Reading) : List Write :=
  Position.all.zip (r.digits.map codeOf)

def dark : List Write := Position.all.map (·, off)

/-- The writes that bring a reading on the face, from the left. -/
def face (r : Reading) : List Write := if r.isZero then dark else codes r

variable {σ : Type} [Sink σ Write]

def render (device : σ) (r : Reading) : σ × Option String := Sink.putAll device (face r)

def blank (device : σ) : σ × Option String := Sink.putAll device dark

end LapTimer.Display
