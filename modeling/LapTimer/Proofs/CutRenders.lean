import Mathlib.Data.List.Basic
import LapTimer.Proofs.Devices

/-! Renders that a device cuts short, by whatever rule its state follows. What is left are the
new codes up to the refused write and the old ones from there on. -/

namespace LapTimer

variable {σ ω : Type}

/-- The device takes the writes one after the other and is `reached` after the last. -/
inductive Took [Sink σ ω] : σ → List ω → σ → Prop where
  | nil (device : σ) : Took device [] device
  | cons {device next reached : σ} {write : ω} {rest : List ω}
      (taken : Sink.put device write = (next, none)) (later : Took next rest reached) :
      Took device (write :: rest) reached

/-- The device takes the writes before this place and refuses the one that stands there. -/
def RefusesAt [Sink σ ω] (device : σ) (writes : List ω) (place : Nat) (reason : String) :
    Prop :=
  ∃ reached write, Took device (writes.take place) reached ∧ writes[place]? = some write ∧
    (Sink.put reached write).2 = some reason

section Attempts

variable [Sink σ ω]

theorem Took.putAll {device reached : σ} {writes : List ω}
    (took : Took device writes reached) (past rest : List ω) :
    Sink.putAll (⟨device, past⟩ : Logged σ ω) (writes ++ rest) =
      Sink.putAll (⟨reached, writes.reverse ++ past⟩ : Logged σ ω) rest := by
  induction took generalizing past with
  | nil => rfl
  | @cons device next _ write rest taken _ ih =>
      have put : Sink.put (⟨device, past⟩ : Logged σ ω) write =
          (⟨next, write :: past⟩, none) := by
        simp only [Sink.put, taken]
      rw [List.cons_append, Sink.putAll, put]
      simp [ih]

-- What is logged are the attempts, so a log changes nothing behind it.
theorem putAll_logged (device : σ) (past writes : List ω) :
    (Sink.putAll (⟨device, past⟩ : Logged σ ω) writes).1.device =
        (Sink.putAll device writes).1 ∧
      (Sink.putAll (⟨device, past⟩ : Logged σ ω) writes).2 =
        (Sink.putAll device writes).2 := by
  induction writes generalizing device past with
  | nil => exact ⟨rfl, rfl⟩
  | cons write rest ih =>
      rcases answer : Sink.put device write with ⟨next, _ | reason⟩
      · simpa [Sink.putAll, Sink.put, answer] using ih next (write :: past)
      · simp [Sink.putAll, Sink.put, answer]

theorem took_of_done (device : σ) (writes : List ω)
    (done : (Sink.putAll device writes).2 = none) :
    Took device writes (Sink.putAll device writes).1 := by
  induction writes generalizing device with
  | nil => exact .nil device
  | cons write rest ih =>
      rcases answer : Sink.put device write with ⟨next, _ | reason⟩
      · rw [Sink.putAll, answer] at done ⊢
        exact .cons answer (ih next done)
      · rw [Sink.putAll, answer] at done
        cases done

/-- There is nothing between a device that takes all writes and one that stops at a place. -/
theorem took_or_refuses (device : σ) (writes : List ω) :
    (∃ reached, Took device writes reached) ∨
      ∃ place reason, place < writes.length ∧ RefusesAt device writes place reason := by
  induction writes generalizing device with
  | nil => exact .inl ⟨device, .nil device⟩
  | cons write rest ih =>
      rcases answer : Sink.put device write with ⟨next, _ | reason⟩
      · rcases ih next with ⟨reached, took⟩ | ⟨place, reason, inside, refuses⟩
        · exact .inl ⟨reached, .cons answer took⟩
        · obtain ⟨reached, last, took, stands⟩ := refuses
          exact .inr ⟨place + 1, reason, Nat.succ_lt_succ inside, reached, last,
            .cons answer took, stands⟩
      · exact .inr ⟨0, reason, Nat.succ_pos _, device, write, .nil device, rfl, by rw [answer]⟩

/-- A write that is refused is the last attempt. -/
theorem RefusesAt.putAll {device : σ} {writes : List ω} {place : Nat} {reason : String}
    (refuses : RefusesAt device writes place reason) :
    ∃ reached write, Took device (writes.take place) reached ∧
      (Sink.put reached write).2 = some reason ∧
      Sink.putAll ({ device } : Logged σ ω) writes =
        (⟨(Sink.put reached write).1, (writes.take (place + 1)).reverse⟩, some reason) := by
  obtain ⟨reached, write, took, stands, refused⟩ := refuses
  obtain ⟨inside, here⟩ := List.getElem?_eq_some_iff.mp stands
  have cut : writes = writes.take place ++ write :: writes.drop (place + 1) := by
    rw [← here, ← List.drop_eq_getElem_cons inside, List.take_append_drop]
  have attempted : writes.take (place + 1) = writes.take place ++ [write] := by
    rw [List.take_add_one, stands, Option.toList_some]
  refine ⟨reached, write, took, refused, ?_⟩
  conv => lhs; rw [cut]
  rcases answer : Sink.put reached write with ⟨next, _ | _⟩
  · rw [answer] at refused
    cases refused
  · rw [answer] at refused
    cases refused
    rw [took.putAll, attempted, Sink.putAll]
    simp [Sink.put, answer]

end Attempts

namespace Cells

variable {ι α : Type} [DecidableEq ι] [Sink σ (ι × α)]

/-- The values after writes to some places, each of which gets its own value. -/
theorem value_took (cells : Cells σ ι α) (code : ι → α) (places : List ι)
    {device reached : σ}
    (took : Took device (places.map fun place => (place, code place)) reached) (place : ι) :
    cells.value reached place =
      if place ∈ places then code place else cells.value device place := by
  induction places generalizing device with
  | nil =>
      cases took
      simp
  | cons first rest ih =>
      cases took with
      | cons taken later =>
          have moved := cells.taken device (first, code first) (by rw [taken])
          rw [taken] at moved
          rw [ih later, moved]
          by_cases same : place = first
          · simp [same]
          · simp [same]

/-- A ration decides how many writes reach the device, and changes none of them. -/
def rationed (cells : Cells σ ι α) : Cells (Rationed σ) ι α where
  value device := cells.value device.device
  taken := by
    rintro ⟨device, _ | _ | left⟩ write done
    · exact cells.taken device write done
    · cases done
    · exact cells.taken device write done
  refused := by
    rintro ⟨device, _ | _ | left⟩ write reason told
    · exact cells.refused device write reason told
    · rfl
    · exact cells.refused device write reason told

end Cells

namespace Display

/-- The code that a reading has at a digit. -/
def codeAt (r : Reading) (position : Position) : UInt8 :=
  if r.isZero then off else codeOf (r.digits.getD position.index 0)

/-- One write for each digit, from the left. -/
def sixWrites (code : Position → UInt8) : List Write :=
  Position.all.map fun position => (position, code position)

theorem face_writes (r : Reading) : face r = sixWrites (codeAt r) := by
  unfold face sixWrites codeAt
  split <;> rfl

theorem mem_take_all (position : Position) (place : Nat) :
    position ∈ Position.all.take place ↔ position.index < place := by
  have held : position ∈ Position.all := by cases position <;> decide
  have stands : Position.all.idxOf position = position.index := by cases position <;> rfl
  rw [List.mem_take_iff_idxOf_lt held, stands]

variable [Sink σ Write]

/-- How a call that should have written six codes ends at a refused write. -/
structure CutShort (cells : Cells σ Position UInt8) (before : σ) (code : Position → UInt8)
    (place : Nat) (reason : String) (after : Logged σ Write × Option String) : Prop where
  attempts : after.1.attempts.reverse = (sixWrites code).take (place + 1)
  told : after.2 = some reason
  left : ∀ position, cells.value after.1.device position =
    if position.index < place then code position else cells.value before position

/-- How a call that writes six codes ends where all of them are taken. -/
structure WholeFace (cells : Cells σ Position UInt8) (code : Position → UInt8)
    (after : Logged σ Write × Option String) : Prop where
  attempts : after.1.attempts.reverse = sixWrites code
  told : after.2 = none
  left : ∀ position, cells.value after.1.device position = code position

theorem cutShort_writes (cells : Cells σ Position UInt8) (device : σ)
    (code : Position → UInt8) (place : Nat) (reason : String)
    (refuses : RefusesAt device (sixWrites code) place reason) :
    CutShort cells device code place reason
      (Sink.putAll ({ device } : Logged σ Write) (sixWrites code)) := by
  obtain ⟨reached, write, took, refused, ends⟩ := refuses.putAll
  rw [ends]
  refine ⟨List.reverse_reverse _, rfl, fun position => ?_⟩
  rw [sixWrites, ← List.map_take] at took
  rw [cells.refused reached write reason refused, cells.value_took code _ took position]
  simp only [mem_take_all]

theorem value_whole (cells : Cells σ Position UInt8) {device reached : σ}
    (code : Position → UInt8) (took : Took device (sixWrites code) reached)
    (position : Position) : cells.value reached position = code position := by
  have held : position ∈ Position.all := by cases position <;> decide
  rw [cells.value_took code Position.all took position, if_pos held]

theorem wholeFace_writes (cells : Cells σ Position UInt8) (device reached : σ)
    (code : Position → UInt8) (took : Took device (sixWrites code) reached) :
    WholeFace cells code (Sink.putAll ({ device } : Logged σ Write) (sixWrites code)) := by
  have ends : Sink.putAll ({ device } : Logged σ Write) (sixWrites code) =
      (⟨reached, (sixWrites code).reverse⟩, none) := by
    simpa [Sink.putAll] using took.putAll [] []
  rw [ends]
  exact ⟨List.reverse_reverse _, rfl, value_whole cells code took⟩

/-- The first refused write of a render, and of a blanking, ends it: the writes are tried
from the left up to that one, its reason is told, and what was written before it stays.
Where no write is refused each digit is written once, and one of the two is the case. A
render that gets through leaves its own codes, whatever the device went through before; and
a log shows all this without changing it. -/
theorem render_leaves_prefix (cells : Cells σ Position UInt8) (device : σ) (r : Reading) :
    (∀ code, (∃ reached, Took device (sixWrites code) reached) ∨
        ∃ place reason, place < 6 ∧ RefusesAt device (sixWrites code) place reason) ∧
      (∀ place reason, RefusesAt device (sixWrites (codeAt r)) place reason →
        CutShort cells device (codeAt r) place reason
          (render ({ device } : Logged σ Write) r)) ∧
      (∀ reached, Took device (sixWrites (codeAt r)) reached →
        WholeFace cells (codeAt r) (render ({ device } : Logged σ Write) r)) ∧
      (∀ place reason, RefusesAt device (sixWrites fun _ => off) place reason →
        CutShort cells device (fun _ => off) place reason
          (blank ({ device } : Logged σ Write))) ∧
      (∀ reached, Took device (sixWrites fun _ => off) reached →
        WholeFace cells (fun _ => off) (blank ({ device } : Logged σ Write))) ∧
      (∀ (later : σ) (other : Reading), (render later other).2 = none →
        ∀ position, cells.value (render later other).1 position = codeAt other position) ∧
      render device r = ((render ({ device } : Logged σ Write) r).1.device,
        (render ({ device } : Logged σ Write) r).2) ∧
      blank device = ((blank ({ device } : Logged σ Write)).1.device,
        (blank ({ device } : Logged σ Write)).2) := by
  have unlogged (writes : List Write) : Sink.putAll device writes =
      ((Sink.putAll ({ device } : Logged σ Write) writes).1.device,
        (Sink.putAll ({ device } : Logged σ Write) writes).2) :=
    Prod.ext (putAll_logged device [] writes).1.symm (putAll_logged device [] writes).2.symm
  refine ⟨fun code => took_or_refuses device (sixWrites code), ?_, ?_, ?_, ?_, ?_,
    unlogged (face r), unlogged dark⟩
  · intro place reason refuses
    rw [render, face_writes]
    exact cutShort_writes cells device (codeAt r) place reason refuses
  · intro reached took
    rw [render, face_writes]
    exact wholeFace_writes cells device reached (codeAt r) took
  · exact fun place reason => cutShort_writes cells device (fun _ => off) place reason
  · exact fun reached => wholeFace_writes cells device reached fun _ => off
  · intro later other done position
    have took := took_of_done later (face other) done
    rw [face_writes] at took
    rw [render, face_writes]
    exact value_whole cells (codeAt other) took position

/-- The fourth write of a reading is refused, so three digits are new and three are old.
The next reading covers them all; a dark face takes six writes too, or none. -/
theorem render_leaves_prefix_rationed :
    let cells := Panel.registers.toCells.rationed
    let digits : Vector UInt8 6 := #v[0x3f, 0xff, 0, 0x06, 0x7f, 1]
    let device : Rationed Panel := { device := { digits }, budget := some 3 }
    let refusing : Rationed Panel := { device := { digits, refusing := true } }
    let r : Reading := ⟨12, 34, 56⟩
    let mended : Rationed Panel := { (render device r).1 with budget := none }
    RefusesAt device (sixWrites (codeAt r)) 3 "out of budget" ∧
      CutShort cells device (codeAt r) 3 "out of budget"
        (render ({ device } : Logged (Rationed Panel) Write) r) ∧
      mended.device.digits = #v[0x06, 0x5b, 0x4f, 0x06, 0x7f, 1] ∧
      (render mended ⟨0, 0, 7⟩).2 = none ∧
      (∀ position,
        cells.value (render mended ⟨0, 0, 7⟩).1 position = codeAt ⟨0, 0, 7⟩ position) ∧
      WholeFace cells (codeAt ⟨0, 0, 7⟩)
        (render ({ device := mended } : Logged (Rationed Panel) Write) ⟨0, 0, 7⟩) ∧
      WholeFace cells (fun _ => off)
        (blank ({ device := mended } : Logged (Rationed Panel) Write)) ∧
      CutShort cells refusing (fun _ => off) 0 "refused"
        (blank ({ device := refusing } : Logged (Rationed Panel) Write)) := by
  intro cells digits device refusing r mended
  obtain ⟨-, cut, -, -, -, covers, -⟩ := render_leaves_prefix cells device r
  obtain ⟨-, -, whole, -, wholeDark, -⟩ := render_leaves_prefix cells mended ⟨0, 0, 7⟩
  obtain ⟨-, -, -, cutDark, -⟩ := render_leaves_prefix cells refusing r
  have refuses : RefusesAt device (sixWrites (codeAt r)) 3 "out of budget" :=
    ⟨_, _, .cons rfl (.cons rfl (.cons rfl (.nil _))), rfl, rfl⟩
  refine ⟨refuses, cut 3 _ refuses, by decide, rfl, covers mended ⟨0, 0, 7⟩ rfl, ?_, ?_, ?_⟩
  · exact whole _ (took_of_done mended _ rfl)
  · exact wholeDark _ (took_of_done mended _ rfl)
  · exact cutDark 0 _ ⟨_, _, .nil _, rfl, rfl⟩

end Display

end LapTimer
