import LapTimer.Json.Value

/-! Types with a JSON form: single values, structures and choices. A structure is read from an
object with its fields in any order, or from an array of all of them. -/

namespace LapTimer

class Form (α : Type) where
  toJson : α → Json
  ofJson? : Json → Option α

namespace Form

variable {α : Type}

def write [Form α] (a : α) : List UInt8 := (toJson a).bytes

def read? [Form α] (bytes : List UInt8) : Option α := (Json.parse? bytes).bind ofJson?

def natBelow? (bound : Nat) : Json → Option Nat
  | .number digits => (Json.natOf? digits).filter (· < bound)
  | _ => none

instance : Form Bool where
  toJson := .bool
  ofJson?
    | .bool value => some value
    | _ => none

instance : Form UInt8 where
  toJson n := Json.ofNat n.toNat
  ofJson? json := (natBelow? UInt8.size json).map .ofNat

instance : Form UInt16 where
  toJson n := Json.ofNat n.toNat
  ofJson? json := (natBelow? UInt16.size json).map .ofNat

instance : Form UInt32 where
  toJson n := Json.ofNat n.toNat
  ofJson? json := (natBelow? UInt32.size json).map .ofNat

instance : Form UInt64 where
  toJson n := Json.ofNat n.toNat
  ofJson? json := (natBelow? UInt64.size json).map .ofNat

instance : Form String where
  toJson := Json.ofString
  ofJson?
    | .text raw => Json.textOf? raw
    | _ => none

instance [Form α] : Form (List α) where
  toJson items := .array (items.map toJson)
  ofJson?
    | .array items => items.mapM ofJson?
    | _ => none

/-- A structure as an object; a field without a value is left out. -/
def ofFields (fields : List (String × Option Json)) : Json :=
  .object (fields.filterMap fun field => field.2.map fun json => (Json.escape field.1, json))

/-- The member of a name: none, one, or a refusal where there are more. -/
def member? (members : List (String × Json)) (name : String) : Option (Option Json) :=
  match members.filter (·.1 == name) with
  | [] => some none
  | [found] => some (some found.2)
  | _ => none

def fields? (names : List String) : Json → Option (List (Option Json))
  | .array items => if items.length = names.length then some (items.map some) else none
  | .object members => do
      let texts ← members.mapM fun m => (Json.textOf? m.1).map fun name => (name, m.2)
      names.mapM (member? texts)
  | _ => none

def required [Form α] (field : Option Json) : Option α := field.bind ofJson?

def omittable [Form α] : Option Json → Option (Option α)
  | none => some none
  | some .null => some none
  | some json => (ofJson? json).map some

def ofName (name : String) : Json := Json.ofString name

/-- The one of a list of choices whose name the value gives. -/
def choice? (choices : List α) (name : α → String) : Json → Option α
  | .text raw => (Json.textOf? raw).bind fun text => choices.find? (name · == text)
  | .object [(raw, .null)] =>
      (Json.textOf? raw).bind fun text => choices.find? (name · == text)
  | _ => none

end Form

end LapTimer
