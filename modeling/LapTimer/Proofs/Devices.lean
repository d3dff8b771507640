import LapTimer.Display.Panel
import LapTimer.Lamp
import Mathlib.Logic.Function.Basic

/-! Devices that can be read back. A device of registers takes every write while it works, and
a write sets the register that it names and no other. -/

namespace LapTimer

/-- A device that holds one value at each place: a write that it takes sets the cell that it
names, and one that it refuses sets none. -/
structure Cells (σ ι α : Type) [DecidableEq ι] [Sink σ (ι × α)] where
  value : σ → ι → α
  taken : ∀ device write, (Sink.put device write).2 = none →
    value (Sink.put device write).1 = Function.update (value device) write.1 write.2
  refused : ∀ device write reason, (Sink.put device write).2 = some reason →
    value (Sink.put device write).1 = value device

/-- Cells of which it is known when every write is taken. -/
structure Registers (σ ι α : Type) [DecidableEq ι] [Sink σ (ι × α)] extends Cells σ ι α where
  Works : σ → Prop
  put_taken : ∀ device write, Works device → (Sink.put device write).2 = none
  works_put : ∀ device write, Works device → Works (Sink.put device write).1

namespace Registers

variable {σ ι α : Type} [DecidableEq ι] [Sink σ (ι × α)]

theorem value_put (registers : Registers σ ι α) (device : σ) (write : ι × α) (place : ι)
    (works : registers.Works device) :
    registers.value (Sink.put device write).1 place =
      if place = write.1 then write.2 else registers.value device place := by
  rw [registers.taken device write (registers.put_taken device write works),
    Function.update_apply]

theorem value_put_same (registers : Registers σ ι α) (device : σ)
    (works : registers.Works device) (place : ι) (value : α) :
    registers.value (Sink.put device (place, value)).1 place = value := by
  rw [registers.value_put device (place, value) place works, if_pos rfl]

theorem value_put_other (registers : Registers σ ι α) (device : σ)
    (works : registers.Works device) (place : ι) (value : α) (another : ι)
    (apart : another ≠ place) :
    registers.value (Sink.put device (place, value)).1 another =
      registers.value device another := by
  rw [registers.value_put device (place, value) another works, if_neg apart]

theorem putAll_cons (registers : Registers σ ι α) (device : σ)
    (works : registers.Works device) (write : ι × α) (rest : List (ι × α)) :
    Sink.putAll device (write :: rest) = Sink.putAll (Sink.put device write).1 rest := by
  have taken := registers.put_taken device write works
  rw [Sink.putAll]
  cases put : Sink.put device write with
  | mk next refusal =>
      rw [put] at taken
      subst taken
      rfl

theorem works_putAll (registers : Registers σ ι α) (device : σ)
    (works : registers.Works device) (writes : List (ι × α)) :
    registers.Works (Sink.putAll device writes).1 := by
  induction writes generalizing device with
  | nil => exact works
  | cons write rest ih =>
      rw [putAll_cons registers device works]
      exact ih _ (registers.works_put device write works)

theorem value_putAll_other (registers : Registers σ ι α) (device : σ)
    (works : registers.Works device) (writes : List (ι × α)) (place : ι)
    (other : place ∉ writes.map Prod.fst) :
    registers.value (Sink.putAll device writes).1 place = registers.value device place := by
  induction writes generalizing device with
  | nil => rfl
  | cons write rest ih =>
      rw [List.map_cons, List.mem_cons, not_or] at other
      rw [putAll_cons registers device works,
        ih _ (registers.works_put device write works) other.2,
        value_put_other registers device works write.1 write.2 place other.1]

theorem value_putAll_held (registers : Registers σ ι α) (device : σ)
    (works : registers.Works device) (writes : List (ι × α))
    (once : (writes.map Prod.fst).Nodup) (write : ι × α) (held : write ∈ writes) :
    registers.value (Sink.putAll device writes).1 write.1 = write.2 := by
  induction writes generalizing device with
  | nil => simp at held
  | cons first rest ih =>
      obtain ⟨fresh, once⟩ := List.nodup_cons.mp once
      have works' := registers.works_put device first works
      rw [putAll_cons registers device works]
      rcases List.mem_cons.mp held with rfl | held
      · rw [value_putAll_other registers _ works' rest write.1 fresh]
        exact value_put_same registers device works write.1 write.2
      · exact ih _ works' once held

/-- The registers of a device that refuses every write while a flag is up. -/
def ofFlag (value : σ → ι → α) (refusing : σ → Bool) (set : σ → ι × α → σ)
    (puts : ∀ device write, Sink.put device write =
      if refusing device then (device, some "refused") else (set device write, none))
    (sets : ∀ device write,
      value (set device write) = Function.update (value device) write.1 write.2)
    (stays : ∀ device write, refusing (set device write) = refusing device) :
    Registers σ ι α where
  value := value
  Works device := refusing device = false
  taken device write done := by
    cases up : refusing device with
    | false => simp only [puts, up, Bool.false_eq_true, ↓reduceIte, sets]
    | true => simp [puts, up] at done
  refused device write reason told := by
    cases up : refusing device with
    | false => simp [puts, up] at told
    | true => simp only [puts, up, ↓reduceIte]
  put_taken device write works := by simp [puts, works]
  works_put device write works := by simp [puts, works, stays]

/-- The registers at some places, as the writes that would set them. -/
def readBack (registers : Registers σ ι α) (device : σ) (places : List ι) : List (ι × α) :=
  places.map fun place => (place, registers.value device place)

theorem readBack_putAll (registers : Registers σ ι α) (device : σ)
    (works : registers.Works device) (writes : List (ι × α))
    (once : (writes.map Prod.fst).Nodup) :
    registers.readBack (Sink.putAll device writes).1 (writes.map Prod.fst) = writes := by
  rw [readBack, List.map_map]
  apply (List.map_congr_left ?_).trans (List.map_id writes)
  intro write held
  have set := value_putAll_held registers device works writes once write held
  exact Prod.ext rfl set

end Registers

theorem LampBank.isOn_switch (bank : LampBank) (lamp : Lamp) (on : Bool) :
    (bank.switch lamp on).isOn = Function.update bank.isOn lamp on := by
  funext other
  rw [Function.update_apply]
  cases lamp <;> cases other <;> rfl

def LampBank.registers : Registers LampBank Lamp Bool :=
  .ofFlag isOn refusing (fun bank write => bank.switch write.1 write.2) (fun _ _ => rfl)
    (fun bank write => bank.isOn_switch write.1 write.2)
    (fun bank write => by cases write.1 <;> rfl)

theorem LampBank.register_unlit (bank : LampBank)
    (unlit : ∀ lamp, LampBank.registers.value bank lamp = false) : bank.register = 0 := by
  have off : ∀ lamp, bank.isOn lamp = false := unlit
  simp [register, Lamp.all, off]

theorem Lamp.unlit_allOff {L : Type} [Sink L Switch] (lights : Registers L Lamp Bool) (lamps : L)
    (works : lights.Works lamps) (lamp : Lamp) :
    lights.value (Sink.putAll lamps Lamp.allOff).1 lamp = false := by
  have once : (Lamp.allOff.map Prod.fst).Nodup := by decide
  have held : (lamp, false) ∈ Lamp.allOff := by cases lamp <;> decide
  exact lights.value_putAll_held lamps works Lamp.allOff once (lamp, false) held

namespace Display

theorem index_injective (a b : Position) (same : a.index = b.index) : a = b := by
  have stands : ∀ position : Position, Position.all[position.index]? = some position := by
    intro position
    cases position <;> rfl
  exact Option.some.inj ((stands a).symm.trans (same ▸ stands b))

theorem Panel.code_write (panel : Panel) (position : Position) (code : UInt8) :
    (panel.write position code).code = Function.update panel.code position code := by
  funext other
  rw [Function.update_apply]
  by_cases same : other = position
  · simp [Panel.write, Panel.code, same]
  · have apart : (position.index : Nat) ≠ other.index :=
      fun met => same (index_injective _ _ (Fin.ext met.symm))
    simp [Panel.write, Panel.code, same, apart]

def Panel.registers : Registers Panel Position UInt8 :=
  .ofFlag code refusing (fun panel write => panel.write write.1 write.2) (fun _ _ => rfl)
    (fun panel write => panel.code_write write.1 write.2) (fun _ _ => rfl)

theorem Panel.isDark_off (panel : Panel)
    (dark : ∀ position, Panel.registers.value panel position = off) :
    panel.isDark = true := by
  rw [isDark, Vector.all_eq_true]
  intro place inside
  obtain ⟨position, same⟩ : ∃ position : Position, position.index = ⟨place, inside⟩ := by
    match place, inside with
    | 0, _ => exact ⟨.minuteTens, rfl⟩
    | 1, _ => exact ⟨.minuteUnits, rfl⟩
    | 2, _ => exact ⟨.secondTens, rfl⟩
    | 3, _ => exact ⟨.secondUnits, rfl⟩
    | 4, _ => exact ⟨.centiTens, rfl⟩
    | 5, _ => exact ⟨.centiUnits, rfl⟩
  have set : panel.code position = off := dark position
  simp only [code, same] at set
  exact beq_iff_eq.mpr set

theorem face_places (r : Reading) : (face r).map Prod.fst = Position.all := by
  unfold face
  split <;> rfl

section

variable {P : Type} [Sink P Write]

/-- The six digits, from the left, are the ones that show this reading. -/
def Shows (faces : Registers P Position UInt8) (panel : P) (r : Reading) : Prop :=
  faces.readBack panel Position.all = face r

theorem works_render (faces : Registers P Position UInt8) (panel : P)
    (works : faces.Works panel) (r : Reading) : faces.Works (render panel r).1 :=
  faces.works_putAll panel works (face r)

theorem shows_render (faces : Registers P Position UInt8) (panel : P)
    (works : faces.Works panel) (r : Reading) : Shows faces (render panel r).1 r := by
  have once : ((face r).map Prod.fst).Nodup := by
    rw [face_places]
    decide
  have set := faces.readBack_putAll panel works (face r) once
  rwa [face_places] at set

theorem shows_zero_iff (faces : Registers P Position UInt8) (panel : P) :
    Shows faces panel .zero ↔ ∀ position, faces.value panel position = off := by
  have zero : face .zero = dark := rfl
  rw [Shows, zero, Registers.readBack, dark, List.map_inj_left]
  constructor
  · intro same position
    have held : position ∈ Position.all := by cases position <;> decide
    exact congrArg Prod.snd (same position held)
  · intro same position held
    rw [same position]

theorem dark_blank (faces : Registers P Position UInt8) (panel : P)
    (works : faces.Works panel) (position : Position) :
    faces.value (blank panel).1 position = off :=
  (shows_zero_iff faces _).mp (shows_render faces panel works .zero) position

end

end Display

end LapTimer
