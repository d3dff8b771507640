import LapTimer.Display.Segments
import LapTimer.Json.Form
import LapTimer.Settings

/-! The JSON forms of readings, keys, lamps, laps, records, snapshots and settings. -/

namespace LapTimer

open Form

instance : Form Reading where
  toJson r :=
    ofFields [("minutes", some (toJson r.minutes)), ("seconds", some (toJson r.seconds)),
      ("centiseconds", some (toJson r.centis))]
  ofJson? json := do
    match ← fields? ["minutes", "seconds", "centiseconds"] json with
    | [minutes, seconds, centis] =>
        return ⟨← required minutes, ← required seconds, ← required centis⟩
    | _ => none

def Key.formName : Key → String
  | .run => "toggle_run"
  | .lap => "capture_lap"
  | .replay => "toggle_replay"
  | .reset => "reset"

instance : Form Key where
  toJson key := ofName key.formName
  ofJson? := choice? Key.all Key.formName

def Lamp.formName : Lamp → String
  | .running => "running"
  | .replay => "replay"
  | .lap => "lap"

instance : Form Lamp where
  toJson lamp := ofName lamp.formName
  ofJson? := choice? Lamp.all Lamp.formName

def Display.Position.formName : Display.Position → String
  | .minuteTens => "minute_tens"
  | .minuteUnits => "minute_units"
  | .secondTens => "second_tens"
  | .secondUnits => "second_units"
  | .centiTens => "centi_tens"
  | .centiUnits => "centi_units"

instance : Form Display.Position where
  toJson position := ofName position.formName
  ofJson? := choice? Display.Position.all Display.Position.formName

def LapMode.formName : LapMode → String
  | .absolute => "absolute"
  | .split => "split"

instance : Form LapMode where
  toJson mode := ofName mode.formName
  ofJson? := choice? [.absolute, .split] LapMode.formName

instance : Form Lap where
  toJson lap := ofFields [("index", some (toJson lap.index)), ("time", some (toJson lap.time))]
  ofJson? json := do
    match ← fields? ["index", "time"] json with
    | [index, time] => return ⟨← required index, ← required time⟩
    | _ => none

instance : Form Record where
  toJson record :=
    ofFields [("current", some (toJson record.current)), ("lap", some (toJson record.lap)),
      ("is_end", some (toJson record.isEnd))]
  ofJson? json := do
    match ← fields? ["current", "lap", "is_end"] json with
    | [current, lap, isEnd] => return ⟨← required current, ← required lap, ← required isEnd⟩
    | _ => none

instance : Form Status where
  toJson status :=
    ofFields [("running", some (toJson status.running)),
      ("elapsed", some (toJson status.elapsed)),
      ("replaying", some (toJson status.replaying)),
      ("pending_clear", some (toJson status.clearAfter)),
      ("lap_count", some (toJson status.lapCount)), ("mode", some (toJson status.mode))]
  ofJson? json := do
    match ← fields? ["running", "elapsed", "replaying", "pending_clear", "lap_count", "mode"]
        json with
    | [running, elapsed, replaying, clearAfter, lapCount, mode] =>
        return ⟨← required running, ← required elapsed, ← required replaying,
          ← required clearAfter, ← required lapCount, ← required mode⟩
    | _ => none

instance : Form Text.Short where
  toJson short := Json.ofString short.text
  ofJson? json := (ofJson? json).bind Text.Short.ofString?

instance : Form TimerSettings where
  toJson settings :=
    ofFields [("render_interval_ms", some (toJson settings.renderMillis)),
      ("replay_interval_ms", some (toJson settings.replayMillis)),
      ("blink_interval_ms", some (toJson settings.blinkMillis)),
      ("blink_toggles", some (toJson settings.blinks)),
      ("lap_mode", some (toJson settings.mode)),
      ("irq_queue_depth", some (toJson settings.queueDepth))]
  ofJson? json := do
    match ← fields? ["render_interval_ms", "replay_interval_ms", "blink_interval_ms",
        "blink_toggles", "lap_mode", "irq_queue_depth"] json with
    | [render, replay, blink, toggles, mode, depth] =>
        return ⟨← required render, ← required replay, ← required blink, ← required toggles,
          ← required mode, ← required depth⟩
    | _ => none

instance : Form DeviceSettings where
  toJson settings :=
    ofFields [("name", some (toJson settings.name)), ("id", some (toJson settings.id))]
  ofJson? json := do
    match ← fields? ["name", "id"] json with
    | [name, id] => return ⟨← required name, ← required id⟩
    | _ => none

instance : Form WebSettings where
  toJson settings :=
    ofFields [("port", some (toJson settings.port)),
      ("cors_permissive", some (toJson settings.welcome)),
      ("enabled", some (toJson settings.enabled))]
  ofJson? json := do
    match ← fields? ["port", "cors_permissive", "enabled"] json with
    | [port, welcome, enabled] =>
        return ⟨← required port, ← required welcome, ← required enabled⟩
    | _ => none

instance : Form Settings where
  toJson settings :=
    ofFields [("chrono", some (toJson settings.timer)), ("device", some (toJson settings.device)),
      ("web", some (toJson settings.web))]
  ofJson? json := do
    match ← fields? ["chrono", "device", "web"] json with
    | [timer, device, web] => return ⟨← required timer, ← required device, ← required web⟩
    | _ => none

end LapTimer
