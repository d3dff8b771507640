import LapTimer.Text.Quoted

/-! What an operation can refuse, and why. -/

namespace LapTimer

inductive Error where
  | invalidRecordSize (expected found : Nat)
  | invalidLapMode (text : String)
  | bookFull (capacity : Nat)
  | display (reason : String)
  | lamp (reason : String)
  | handlerAttached
  deriving DecidableEq, Repr

def Error.message : Error → String
  | .invalidRecordSize expected found =>
      "invalid record size (expected " ++ toString expected ++ " bytes, found " ++
        toString found ++ " bytes)"
  | .invalidLapMode text => "invalid lap mode " ++ Text.quoted text ++ " (expected 0 or 1)"
  | .bookFull capacity => "lap ledger full (" ++ toString capacity ++ " records)"
  | .display reason => "display write failed: " ++ reason
  | .lamp reason => "led write failed: " ++ reason
  | .handlerAttached => "deferred handler already attached"

end LapTimer
