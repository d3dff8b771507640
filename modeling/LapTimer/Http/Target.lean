/-! The target of a request and the path it names. -/

namespace LapTimer.Http.Target

def isSchemeChar (c : Char) : Bool :=
  c.isAlphanum || c == '+' || c == '-' || c == '.' || c == '~'

/-- The character ends a path. -/
def isPathEnd (c : Char) : Bool := c == '?' || c == '#'

/-- The rest of a target from the end of its host on; none where no scheme stands
in front. -/
def afterHost? (target : List Char) : Option (List Char) :=
  match target.dropWhile isSchemeChar with
  | ':' :: '/' :: '/' :: rest => some (rest.dropWhile fun c => !(c == '/' || isPathEnd c))
  | _ => none

def upToEnd (target : List Char) : List Char := target.takeWhile fun c => !isPathEnd c

def path (target : List Char) : List Char :=
  match afterHost? target with
  | none => upToEnd target
  | some rest => if upToEnd rest = [] then ['/'] else upToEnd rest

end LapTimer.Http.Target
