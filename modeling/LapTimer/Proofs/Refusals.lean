import LapTimer.Proofs.DeviceFrame
import LapTimer.Proofs.Moments

/-! Refused writes. As long as the stopwatches and the clocks inside two instruments are the
same, nothing tells their devices apart but a look at them. -/

namespace LapTimer

/-- A step of an instrument, or a half of one: a worker may be held up between what it
decides and what it writes, and others may take steps in between. -/
inductive Act where
  | whole (op : InstrumentOp)
  | decide (op : WatchOp)
  | carryOut (orders : Orders)

inductive ActResult where
  | whole (result : InstrumentResult)
  | decided (result : WatchResult)
  | carriedOut

namespace Instrument

variable {P L : Type}

/-- The instrument without its devices. -/
def inside (unit : Instrument P L) : Stopwatch × UInt64 := (unit.watch, unit.now)

variable [Sink P Display.Write] [Sink L Switch]

def act (unit : Instrument P L) : Act → Instrument P L × ActResult
  | .whole op =>
      let (next, result) := unit.step op
      (next, .whole result)
  | .decide op =>
      let (watch, result) := unit.watch.step unit.now op
      ({ unit with watch }, .decided result)
  | .carryOut orders => (unit.carryOut orders, .carriedOut)

variable {Q M : Type} [Sink Q Display.Write] [Sink M Switch]

theorem step_alike (unit : Instrument P L) (other : Instrument Q M)
    (alike : unit.inside = other.inside) (op : InstrumentOp) :
    (unit.step op).2 = (other.step op).2 ∧
      (unit.step op).1.inside = (other.step op).1.inside := by
  obtain ⟨watch, now, panel, lamps⟩ := unit
  obtain ⟨watch', now', panel', lamps'⟩ := other
  obtain ⟨rfl, rfl⟩ := Prod.mk.inj alike
  cases op with
  | press key =>
      simp only [step, press, inside, watch_carryOut, now_carryOut, and_self]
  | renderRound =>
      obtain ⟨moved, told, still⟩ := renderRound_frame ⟨watch, now, panel, lamps⟩
      obtain ⟨moved', told', still'⟩ := renderRound_frame ⟨watch, now, panel', lamps'⟩
      simp only [step, inside, moved, told, still, moved', told', still', and_self]
  | replayRound session =>
      obtain ⟨moved, told, still⟩ := replayRound_frame ⟨watch, now, panel, lamps⟩ session
      obtain ⟨moved', told', still'⟩ := replayRound_frame ⟨watch, now, panel', lamps'⟩ session
      simp only [step, inside, moved, told, still, moved', told', still', and_self]
  | blinkRound =>
      obtain ⟨moved, told, still⟩ := blinkRound_frame (⟨watch, now, panel, lamps⟩ : Instrument P L)
      obtain ⟨moved', told', still'⟩ :=
        blinkRound_frame (⟨watch, now, panel', lamps'⟩ : Instrument Q M)
      simp only [step, inside, moved, told, still, moved', told', still', and_self]
  | readInto buffer =>
      simp only [step, readInto]
      cases Record.requireSize buffer.length with
      | error error => exact ⟨rfl, rfl⟩
      | ok => exact ⟨rfl, rfl⟩
  | storeMode text =>
      simp only [step, storeMode]
      cases LapMode.parse text with
      | error error => exact ⟨rfl, rfl⟩
      | ok mode => exact ⟨rfl, rfl⟩
  | renderWhen wanted r =>
      simp only [step, renderWhen]
      split <;> exact ⟨rfl, rfl⟩
  | showLap session r =>
      simp only [step, showLap]
      split <;> exact ⟨rfl, rfl⟩
  | _ => exact ⟨rfl, rfl⟩

theorem act_alike (unit : Instrument P L) (other : Instrument Q M)
    (alike : unit.inside = other.inside) (act : Act) :
    (unit.act act).2 = (other.act act).2 ∧ (unit.act act).1.inside = (other.act act).1.inside := by
  cases act with
  | whole op =>
      obtain ⟨told, moved⟩ := step_alike unit other alike op
      exact ⟨congrArg ActResult.whole told, moved⟩
  | decide op =>
      obtain ⟨watch, now⟩ := Prod.mk.inj alike
      simp only [Instrument.act, inside, watch, now, and_self]
  | carryOut orders =>
      simpa only [Instrument.act, inside, watch_carryOut, now_carryOut, true_and] using alike

/-- What a run tells without a look at the devices. -/
def course (unit : Instrument P L) (acts : List Act) :
    List (Moment (Stopwatch × UInt64) Act ActResult) :=
  (moments act unit acts).map fun moment => ⟨moment.op, moment.result, moment.left.inside⟩

theorem course_alike (unit : Instrument P L) (other : Instrument Q M)
    (alike : unit.inside = other.inside) (acts : List Act) :
    unit.course acts = other.course acts := by
  induction acts generalizing unit other with
  | nil => rfl
  | cons first rest ih =>
      obtain ⟨told, moved⟩ := act_alike unit other alike first
      have later := ih (unit.act first).1 (other.act first).1 moved
      simp only [course] at later
      simp only [course, moments, List.map_cons, told, moved, later]

/-- Whichever writes the devices of two instruments refuse, each step has the same result
on both and leaves the same stopwatch and clock in them. -/
theorem refusals_unseen (watch : Stopwatch) (now : UInt64) (panel : P) (lamps : L)
    (panel' : Q) (lamps' : M) (acts : List Act) :
    course (⟨watch, now, panel, lamps⟩ : Instrument P L) acts =
      course (⟨watch, now, panel', lamps'⟩ : Instrument Q M) acts := by
  apply course_alike
  rfl

end Instrument

end LapTimer
