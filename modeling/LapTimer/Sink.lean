/-! Output devices. A device may refuse any write for reasons of its own, and a sequence of
writes stops at the first refusal. -/

namespace LapTimer

/-- A device of type `σ` that takes writes of type `ω`. -/
class Sink (σ : Type) (ω : outParam Type) where
  /-- The device after one attempt, with the reason where the write was refused. -/
  put : σ → ω → σ × Option String

variable {σ ω : Type}

def Sink.putAll [Sink σ ω] (device : σ) : List ω → σ × Option String
  | [] => (device, none)
  | write :: rest =>
      match Sink.put device write with
      | (next, none) => Sink.putAll next rest
      | (next, some reason) => (next, some reason)

/-- `attempts` holds the newest attempt first. -/
structure Logged (σ ω : Type) where
  device : σ
  attempts : List ω := []

instance [Sink σ ω] : Sink (Logged σ ω) ω where
  put logged write :=
    let (next, refusal) := Sink.put logged.device write
    (⟨next, write :: logged.attempts⟩, refusal)

/-- `budget` is the number of attempts that still reach the device; without
one, all of them do. -/
structure Rationed (σ : Type) where
  device : σ
  budget : Option Nat := none

instance [Sink σ ω] : Sink (Rationed σ) ω where
  put rationed write :=
    match rationed.budget with
    | some 0 => (rationed, some "out of budget")
    | some (left + 1) =>
        let (next, refusal) := Sink.put rationed.device write
        (⟨next, some left⟩, refusal)
    | none =>
        let (next, refusal) := Sink.put rationed.device write
        (⟨next, none⟩, refusal)

end LapTimer
