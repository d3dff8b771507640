import LapTimer.LapMode
import LapTimer.Stopwatch
import LapTimer.Text.Short

/-! What can be set. A period or a depth of zero is raised to one where it is set by hand, but
taken as it is from a stored form. -/

namespace LapTimer

structure TimerSettings where
  renderMillis : UInt32 := 10
  replayMillis : UInt32 := 3000
  blinkMillis : UInt32 := 200
  blinks : UInt8 := 10
  mode : LapMode := .absolute
  queueDepth : UInt64 := 8
  deriving DecidableEq

structure DeviceSettings where
  name : Text.Short := .cut "rs-chrono"
  id : Text.Short := .cut "chrono0"
  deriving DecidableEq

structure WebSettings where
  port : UInt16 := 8080
  /-- Requests from all origins are welcome. -/
  welcome : Bool := true
  enabled : Bool := true
  deriving DecidableEq

structure Settings where
  timer : TimerSettings := {}
  device : DeviceSettings := {}
  web : WebSettings := {}
  deriving DecidableEq

namespace TimerSettings

def withRenderMillis (settings : TimerSettings) (millis : UInt32) : TimerSettings :=
  { settings with renderMillis := max millis 1 }

def withReplayMillis (settings : TimerSettings) (millis : UInt32) : TimerSettings :=
  { settings with replayMillis := max millis 1 }

def withBlinkMillis (settings : TimerSettings) (millis : UInt32) : TimerSettings :=
  { settings with blinkMillis := max millis 1 }

def withBlinks (settings : TimerSettings) (toggles : UInt8) : TimerSettings :=
  { settings with blinks := toggles }

def withMode (settings : TimerSettings) (mode : LapMode) : TimerSettings :=
  { settings with mode }

def withQueueDepth (settings : TimerSettings) (depth : UInt64) : TimerSettings :=
  { settings with queueDepth := max depth 1 }

/-- A stopped stopwatch without laps. -/
def watch (settings : TimerSettings) : Stopwatch :=
  { blinks := settings.blinks, mode := settings.mode }

end TimerSettings

def DeviceSettings.withName (settings : DeviceSettings) (name : String) : DeviceSettings :=
  { settings with name := .cut name }

def DeviceSettings.withId (settings : DeviceSettings) (id : String) : DeviceSettings :=
  { settings with id := .cut id }

/-- The address of the network surface: every interface, one port. -/
def WebSettings.address (settings : WebSettings) : String :=
  "0.0.0.0:" ++ toString settings.port.toNat

end LapTimer
