import LapTimer.Proofs.JsonViews

/-! Printing and reading back. Each type with a form has a lawful one, put together from the
lawful forms of its fields. -/

namespace LapTimer.Form

instance : Lawful UInt16 where
  written n := .number (Json.numeral_digitsOf n.toNat)
  present _ := nofun
  reads n := by
    simp only [ofJson?, toJson, natBelow?_ofNat n.toNat_lt_size, Option.map_some,
      UInt16.ofNat_toNat]

-- A short text is written as it is, and as it fits it is not refused.
instance : Lawful Text.Short where
  written short := Lawful.written short.text
  present short := Lawful.present short.text
  reads short := by
    have text : ofJson? (toJson short) = some short.text := Lawful.reads short.text
    show (ofJson? (toJson short)).bind Text.Short.ofString? = some short
    rw [text, Option.bind_some, Text.Short.ofString?, dif_pos short.fits]

instance : Lawful Key :=
  .ofChoice (fun _ => rfl) (fun _ => rfl) fun key => by cases key <;> decide

instance : Lawful Lamp :=
  .ofChoice (fun _ => rfl) (fun _ => rfl) fun lamp => by cases lamp <;> decide

instance : Lawful Display.Position :=
  .ofChoice (fun _ => rfl) (fun _ => rfl) fun position => by cases position <;> decide

instance : Lawful LapMode :=
  .ofChoice (fun _ => rfl) (fun _ => rfl) fun mode => by cases mode <;> decide

instance : Lawful Reading :=
  .ofStructure (fun _ => rfl) (fun _ => rfl) (fun _ => rfl) (by decide)
    (fun _ => by simp [Lawful.written]) (fun _ => by simp [required_some])

instance : Lawful Lap :=
  .ofStructure (fun _ => rfl) (fun _ => rfl) (fun _ => rfl) (by decide)
    (fun _ => by simp [Lawful.written]) (fun _ => by simp [required_some])

instance : Lawful Record :=
  .ofStructure (fun _ => rfl) (fun _ => rfl) (fun _ => rfl) (by decide)
    (fun _ => by simp [Lawful.written]) (fun _ => by simp [required_some])

instance : Lawful Status :=
  .ofStructure (fun _ => rfl) (fun _ => rfl) (fun _ => rfl) (by decide)
    (fun _ => by simp [Lawful.written]) (fun _ => by simp [required_some])

instance : Lawful TimerSettings :=
  .ofStructure (fun _ => rfl) (fun _ => rfl) (fun _ => rfl) (by decide)
    (fun _ => by simp [Lawful.written]) (fun _ => by simp [required_some])

instance : Lawful DeviceSettings :=
  .ofStructure (fun _ => rfl) (fun _ => rfl) (fun _ => rfl) (by decide)
    (fun _ => by simp [Lawful.written]) (fun _ => by simp [required_some])

instance : Lawful WebSettings :=
  .ofStructure (fun _ => rfl) (fun _ => rfl) (fun _ => rfl) (by decide)
    (fun _ => by simp [Lawful.written]) (fun _ => by simp [required_some])

instance : Lawful Settings :=
  .ofStructure (fun _ => rfl) (fun _ => rfl) (fun _ => rfl) (by decide)
    (fun _ => by simp [Lawful.written]) (fun _ => by simp [required_some])

instance : Lawful ModeRequest :=
  .ofStructure (fun _ => rfl) (fun _ => rfl) (fun _ => rfl) (by decide)
    (fun _ => by simp [Lawful.written]) (fun _ => by simp [required_some])

/-- What is printed for the value that a text is read as. -/
def reprint? (α : Type) [Form α] (text : List UInt8) : Option (List UInt8) :=
  (read? (α := α) text).map write

/-- Each value that is printed is read back, and a text that was printed again is printed
as it is. -/
structure RoundTrips (α : Type) [Form α] : Prop where
  reads : ∀ a : α, read? (write a) = some a
  settles : ∀ text again, reprint? α text = some again → reprint? α again = some again

theorem Lawful.roundTrips {α : Type} [Form α] [Lawful α] : RoundTrips α where
  reads := read?_write
  settles text again printed := by
    obtain ⟨a, _, rfl⟩ := Option.map_eq_some_iff.mp printed
    rw [reprint?, read?_write, Option.map_some]

/--
All that is written as JSON and read from it comes back: readings and laps, keys, modes,
lamps and places on the face, records and snapshots, settings with each of their parts, and
what the network surface answers with and is asked for, in its envelopes too.
-/
theorem forms_round_trip :
    (RoundTrips Reading ∧ RoundTrips Lap ∧ RoundTrips Record ∧ RoundTrips Status) ∧
      (RoundTrips Key ∧ RoundTrips LapMode ∧ RoundTrips Lamp ∧
        RoundTrips Display.Position) ∧
      (RoundTrips Settings ∧ RoundTrips TimerSettings ∧ RoundTrips DeviceSettings ∧
        RoundTrips WebSettings) ∧
      (RoundTrips StateView ∧ RoundTrips LapView ∧ RoundTrips CountView ∧
        RoundTrips ModeView ∧ RoundTrips RecordView ∧ RoundTrips ModeRequest) ∧
      RoundTrips (Envelope CountView) ∧ RoundTrips (Envelope RecordView) := by
  refine ⟨⟨?_, ?_, ?_, ?_⟩, ⟨?_, ?_, ?_, ?_⟩, ⟨?_, ?_, ?_, ?_⟩, ⟨?_, ?_, ?_, ?_, ?_, ?_⟩, ?_, ?_⟩
  all_goals exact Lawful.roundTrips

end LapTimer.Form
