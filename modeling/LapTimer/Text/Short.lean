/-! Text of at most 64 bytes in UTF-8. A longer text is cut before the first character that
does not fit. -/

namespace LapTimer.Text

/-- The longest beginning of `cs` that fits in `room` bytes. -/
def takeBytes (room : Nat) : List Char → List Char
  | [] => []
  | c :: rest =>
      if c.utf8Size ≤ room then c :: takeBytes (room - c.utf8Size) rest else []

theorem utf8ByteSize_cons (c : Char) (cs : List Char) :
    (String.ofList (c :: cs)).utf8ByteSize = c.utf8Size + (String.ofList cs).utf8ByteSize := by
  rw [String.ofList_cons, String.utf8ByteSize_append, String.utf8ByteSize_singleton]

theorem utf8ByteSize_takeBytes (room : Nat) (cs : List Char) :
    (String.ofList (takeBytes room cs)).utf8ByteSize ≤ room := by
  induction cs generalizing room with
  | nil => simp [takeBytes]
  | cons c rest ih =>
      simp only [takeBytes]
      split
      next fits =>
        rw [utf8ByteSize_cons]
        have := ih (room - c.utf8Size)
        omega
      next => simp

def shortBytes : Nat := 64

structure Short where
  text : String
  fits : text.utf8ByteSize ≤ shortBytes
  deriving DecidableEq

namespace Short

def cut (s : String) : Short :=
  ⟨String.ofList (takeBytes shortBytes s.toList), utf8ByteSize_takeBytes shortBytes s.toList⟩

def ofString? (s : String) : Option Short :=
  if fits : s.utf8ByteSize ≤ shortBytes then some ⟨s, fits⟩ else none

end Short

end LapTimer.Text
