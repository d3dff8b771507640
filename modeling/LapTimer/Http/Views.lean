import LapTimer.Instrument
import LapTimer.Json.Forms

/-! What the network surface answers with, and the one request body that it reads. -/

namespace LapTimer

structure Envelope (α : Type) where
  success : Bool
  data : Option α := none
  error : Option String := none
  deriving DecidableEq

def Envelope.ok {α : Type} (data : α) : Envelope α := { success := true, data := some data }

def Envelope.fail {α : Type} (message : String) : Envelope α :=
  { success := false, error := some message }

structure StateView where
  running : Bool
  currentTime : String
  elapsedCentis : UInt32
  replaying : Bool
  clearAfter : Bool
  lapCount : UInt64
  mode : UInt8
  deriving DecidableEq

structure LapView where
  index : UInt64
  time : String
  deriving DecidableEq

structure CountView where
  count : UInt64
  deriving DecidableEq

structure ModeView where
  mode : UInt8
  deriving DecidableEq

/-- The end mark has no lap. -/
structure RecordView where
  currentTime : String
  lap : Option String
  isEnd : Bool
  deriving DecidableEq

structure ModeRequest where
  mode : UInt8
  deriving DecidableEq

def StateView.ofStatus (status : Status) : StateView where
  running := status.running
  currentTime := status.elapsed.text
  elapsedCentis := status.elapsed.total
  replaying := status.replaying
  clearAfter := status.clearAfter
  lapCount := status.lapCount
  mode := status.mode.number

def LapView.ofLap (lap : Lap) : LapView := ⟨lap.index, lap.time.text⟩

def RecordView.ofRecord (record : Record) : RecordView where
  currentTime := record.current.text
  lap := if record.isEnd then none else some record.lap.text
  isEnd := record.isEnd

open Form

def Envelope.json {α : Type} (data : α → Json) (envelope : Envelope α) : Json :=
  ofFields [("success", some (toJson envelope.success)), ("data", envelope.data.map data),
    ("error", envelope.error.map toJson)]

instance {α : Type} [Form α] : Form (Envelope α) where
  toJson := Envelope.json toJson
  ofJson? json := do
    match ← fields? ["success", "data", "error"] json with
    | [success, data, error] => return ⟨← required success, ← omittable data, ← omittable error⟩
    | _ => none

instance : Form StateView where
  toJson view :=
    ofFields [("running", some (toJson view.running)),
      ("current_time", some (toJson view.currentTime)),
      ("elapsed_centis", some (toJson view.elapsedCentis)),
      ("replaying", some (toJson view.replaying)),
      ("pending_clear", some (toJson view.clearAfter)),
      ("laps_count", some (toJson view.lapCount)), ("laps_mode", some (toJson view.mode))]
  ofJson? json := do
    match ← fields? ["running", "current_time", "elapsed_centis", "replaying", "pending_clear",
        "laps_count", "laps_mode"] json with
    | [running, current, centis, replaying, clearAfter, count, mode] =>
        return ⟨← required running, ← required current, ← required centis, ← required replaying,
          ← required clearAfter, ← required count, ← required mode⟩
    | _ => none

instance : Form LapView where
  toJson view := ofFields [("index", some (toJson view.index)), ("time", some (toJson view.time))]
  ofJson? json := do
    match ← fields? ["index", "time"] json with
    | [index, time] => return ⟨← required index, ← required time⟩
    | _ => none

instance : Form CountView where
  toJson view := ofFields [("count", some (toJson view.count))]
  ofJson? json := do
    match ← fields? ["count"] json with
    | [count] => return ⟨← required count⟩
    | _ => none

instance : Form ModeView where
  toJson view := ofFields [("mode", some (toJson view.mode))]
  ofJson? json := do
    match ← fields? ["mode"] json with
    | [mode] => return ⟨← required mode⟩
    | _ => none

instance : Form RecordView where
  toJson view :=
    ofFields [("current_time", some (toJson view.currentTime)), ("lap", view.lap.map toJson),
      ("is_end", some (toJson view.isEnd))]
  ofJson? json := do
    match ← fields? ["current_time", "lap", "is_end"] json with
    | [current, lap, isEnd] => return ⟨← required current, ← omittable lap, ← required isEnd⟩
    | _ => none

instance : Form ModeRequest where
  toJson request := ofFields [("mode", some (toJson request.mode))]
  ofJson? json := do
    match ← fields? ["mode"] json with
    | [mode] => return ⟨← required mode⟩
    | _ => none

end LapTimer
