import LapTimer.Text.Unprintable
import LapTimer.Text.GraphemeExtend

/-! Text in double quotes, written so that it shows every character it holds. -/

namespace LapTimer.Text

def hexNumber (n : Nat) : List Char := Nat.toDigits 16 n

/-- The fillers of the Hangul script: they count as letters and leave no mark. -/
def isHangulFiller (c : Char) : Bool :=
  c = '\u115f' || c = '\u1160' || c = '\u3164' || c = '\uffa0'

/-- The halfwidth sound marks of katakana, which have the property Grapheme_Extend
and yet stand in a cell of their own. -/
def isHalfwidthSoundMark (c : Char) : Bool :=
  c = '\uff9e' || c = '\uff9f'

/-- The character would attach to the one before it. -/
def isAttaching (c : Char) : Bool :=
  isGraphemeExtend c && !isHalfwidthSoundMark c

def quotedChar (c : Char) : List Char :=
  if c = '\x00' then ['\\', '0']
  else if c = '\t' then ['\\', 't']
  else if c = '\r' then ['\\', 'r']
  else if c = '\n' then ['\\', 'n']
  else if c = '"' then ['\\', '"']
  else if c = '\\' then ['\\', '\\']
  else if isAttaching c || isUnprintable c || isHangulFiller c then
    ['\\', 'u', '\x7b'] ++ hexNumber c.toNat ++ ['\x7d']
  else [c]

def quoted (s : String) : String :=
  String.ofList ('"' :: s.toList.flatMap quotedChar ++ ['"'])

end LapTimer.Text
