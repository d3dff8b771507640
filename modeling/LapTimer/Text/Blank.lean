/-! White space in the sense of the Unicode property White_Space, and text without it. -/

namespace LapTimer.Text

/-- The characters with the property White_Space. Zero-width characters such as
U+200B and U+FEFF are not among them. -/
def isBlank (c : Char) : Bool :=
  let n := c.toNat
  (9 ≤ n && n ≤ 13) || n == 0x20 || n == 0x85 || n == 0xa0 || n == 0x1680 ||
    (0x2000 ≤ n && n ≤ 0x200a) || n == 0x2028 || n == 0x2029 || n == 0x202f ||
    n == 0x205f || n == 0x3000

def trimStart (cs : List Char) : List Char := cs.dropWhile isBlank

def trimEnd (cs : List Char) : List Char := (cs.reverse.dropWhile isBlank).reverse

def trim (s : String) : String := String.ofList (trimEnd (trimStart s.toList))

/-- The words of a list of characters; `current` is the word read so far, last
character first. -/
def wordsFrom (current : List Char) : List Char → List (List Char)
  | [] => if current.isEmpty then [] else [current.reverse]
  | c :: rest =>
      if isBlank c then
        if current.isEmpty then wordsFrom [] rest
        else current.reverse :: wordsFrom [] rest
      else wordsFrom (c :: current) rest

def words (s : String) : List String := (wordsFrom [] s.toList).map String.ofList

/-- ASCII letters in lower case, all else as it is. -/
def lowerAscii (s : String) : String := String.ofList (s.toList.map Char.toLower)

end LapTimer.Text
