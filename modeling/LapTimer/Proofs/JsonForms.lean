import LapTimer.Http.Views
import LapTimer.Proofs.JsonText

/-! Forms that are read back. A form is lawful where every value can be written and is what its
text is read as. -/

namespace LapTimer.Form

/-- What is written is read back. No value is written as the null that stands for a
missing one. -/
class Lawful (α : Type) [Form α] : Prop where
  written : ∀ a : α, (toJson a).Written
  present : ∀ a : α, toJson a ≠ .null
  reads : ∀ a : α, ofJson? (toJson a) = some a

theorem read?_write {α : Type} [Form α] [Lawful α] (a : α) : read? (write a) = some a := by
  rw [read?, write, (Lawful.written a).parse?_bytes]
  exact Lawful.reads a

/-- The fields that have a value. -/
def given (fields : List (String × Option Json)) : List (String × Json) :=
  fields.filterMap fun field => field.2.map fun json => (field.1, json)

theorem mapM_some {α β : Type} {f : α → Option β} {g : α → β} {items : List α}
    (each : ∀ item ∈ items, f item = some (g item)) : items.mapM f = some (items.map g) := by
  induction items with
  | nil => rfl
  | cons item items ih =>
      rw [List.mapM_cons, each item (List.mem_cons_self ..),
        ih fun other inside => each other (List.mem_cons_of_mem _ inside)]
      rfl

theorem names_read (fields : List (String × Option Json)) :
    (fields.filterMap fun field => field.2.map fun json => (Json.escape field.1, json)).mapM
        (fun m => (Json.textOf? m.1).map fun name => (name, m.2)) =
      some (given fields) := by
  induction fields with
  | nil => rfl
  | cons field fields ih =>
      obtain ⟨name, value⟩ := field
      cases value with
      | none => exact ih
      | some json =>
          have first : (Json.textOf? (Json.escape name)).map (fun name => (name, json)) =
              some (name, json) := by
            rw [Json.textOf?_escape]
            rfl
          simp only [List.filterMap_cons, Option.map_some, List.mapM_cons, first, ih, given]
          rfl

theorem given_absent {fields : List (String × Option Json)} {name : String}
    (absent : name ∉ fields.map (·.1)) : (given fields).filter (·.1 == name) = [] := by
  rw [List.filter_eq_nil_iff]
  rintro ⟨other, json⟩ inside same
  obtain ⟨field, found, named⟩ := List.mem_filterMap.mp inside
  obtain ⟨_, _, ⟨⟩⟩ := Option.map_eq_some_iff.mp named
  exact absent (List.mem_map.mpr ⟨field, found, eq_of_beq same⟩)

theorem member?_given {fields : List (String × Option Json)}
    (distinct : (fields.map (·.1)).Nodup) {field : String × Option Json}
    (inside : field ∈ fields) : member? (given fields) field.1 = some field.2 := by
  have selected : (given fields).filter (·.1 == field.1) =
      (field.2.map fun json => (field.1, json)).toList := by
    induction fields with
    | nil => exact absurd inside List.not_mem_nil
    | cons first fields ih =>
        obtain ⟨fresh, distinct⟩ := List.nodup_cons.mp distinct
        have split : given (first :: fields) =
            (first.2.map fun json => (first.1, json)).toList ++ given fields := by
          rcases first with ⟨name, _ | json⟩ <;> rfl
        rw [split, List.filter_append]
        rcases List.mem_cons.mp inside with rfl | later
        · rw [given_absent fresh, List.append_nil]
          rcases field with ⟨name, _ | json⟩
          · rfl
          · simp
        · have other : first.1 ≠ field.1 := by
            intro same
            exact fresh (List.mem_map.mpr ⟨field, later, same.symm⟩)
          rw [ih distinct later]
          rcases first with ⟨name, _ | json⟩
          · rfl
          · simp [other]
  rcases field with ⟨name, _ | json⟩ <;> rw [member?, selected] <;> rfl

theorem fields?_ofFields (fields : List (String × Option Json))
    (distinct : (fields.map (·.1)).Nodup) :
    fields? (fields.map (·.1)) (ofFields fields) = some (fields.map (·.2)) := by
  have members : (fields.map (·.1)).mapM (member? (given fields)) = some (fields.map (·.2)) := by
    rw [List.mapM_map]
    exact mapM_some fun field inside => member?_given distinct inside
  simp only [ofFields, fields?, names_read]
  exact members

theorem written_ofFields {fields : List (String × Option Json)}
    (each : ∀ field ∈ fields, ∀ json, field.2 = some json → json.Written) :
    (ofFields fields).Written := by
  apply Json.Written.object
  · intro m inside
    obtain ⟨field, _, named⟩ := List.mem_filterMap.mp inside
    obtain ⟨_, _, rfl⟩ := Option.map_eq_some_iff.mp named
    exact Json.spelled_escape field.1
  · intro m inside
    obtain ⟨field, found, named⟩ := List.mem_filterMap.mp inside
    obtain ⟨json, value, rfl⟩ := Option.map_eq_some_iff.mp named
    exact each field found json value

theorem written_required {α : Type} [Form α] [Lawful α] (a : α) (json : Json)
    (value : some (toJson a) = some json) : json.Written := by
  obtain ⟨⟩ := value
  exact Lawful.written a

theorem written_omittable {α : Type} [Form α] [Lawful α] (given : Option α) (json : Json)
    (value : given.map toJson = some json) : json.Written := by
  obtain ⟨a, _, rfl⟩ := Option.map_eq_some_iff.mp value
  exact Lawful.written a

theorem required_some {α : Type} [Form α] [Lawful α] (a : α) :
    required (some (toJson a)) = some a := Lawful.reads a

theorem omittable_map {α : Type} [Form α] [Lawful α] (value : Option α) :
    omittable (value.map toJson) = some value := by
  cases value with
  | none => rfl
  | some a =>
      have present := Lawful.present a
      have reads := Lawful.reads a
      rw [Option.map_some]
      cases written : toJson a with
      | null => exact absurd written present
      | _ =>
          rw [written] at reads
          simp only [omittable, reads, Option.map_some]

/-- A structure whose form lists its fields under distinct names and is made of them again. -/
theorem Lawful.ofStructure {α : Type} [Form α] {names : List String}
    {fields : α → List (String × Option Json)} {make : List (Option Json) → Option α}
    (lists : ∀ a, toJson a = ofFields (fields a))
    (reads : ∀ json, (ofJson? json : Option α) = (fields? names json).bind make)
    (named : ∀ a, (fields a).map (·.1) = names) (distinct : names.Nodup)
    (each : ∀ a, ∀ field ∈ fields a, ∀ json, field.2 = some json → json.Written)
    (made : ∀ a, make ((fields a).map (·.2)) = some a) : Lawful α where
  written a := lists a ▸ written_ofFields (each a)
  present a := by
    rw [lists a]
    exact nofun
  reads a := by
    have members := fields?_ofFields (fields a) ((named a).symm ▸ distinct)
    rw [named a] at members
    rw [reads, lists a, members, Option.bind_some, made a]

/-- A choice whose names tell which of the choices it is. -/
theorem Lawful.ofChoice {α : Type} [Form α] {choices : List α} {name : α → String}
    (names : ∀ a, toJson a = ofName (name a))
    (reads : ∀ json, (ofJson? json : Option α) = choice? choices name json)
    (found : ∀ a, choices.find? (name · == name a) = some a) : Lawful α where
  written a := names a ▸ .text (Json.spelled_escape (name a))
  present a := by
    rw [names a]
    exact nofun
  reads a := by
    rw [reads, names a]
    show (Json.textOf? (Json.escape (name a))).bind _ = some a
    rw [Json.textOf?_escape, Option.bind_some, found a]

instance : Lawful Bool where
  written value := .bool value
  present _ := nofun
  reads _ := rfl

instance : Lawful String where
  written s := .text (Json.spelled_escape s)
  present _ := nofun
  reads s := Json.textOf?_escape s

instance : Lawful RecordView :=
  .ofStructure (fun _ => rfl) (fun _ => rfl) (fun _ => rfl) (by decide)
    (fun _ => by simp [Lawful.written]) (fun _ => by simp [required_some, omittable_map])

instance {α : Type} [Form α] [Lawful α] : Lawful (Envelope α) :=
  .ofStructure (fun _ => rfl) (fun _ => rfl) (fun _ => rfl) (by decide)
    (fun _ => by simp [Lawful.written]) (fun _ => by simp [required_some, omittable_map])

end LapTimer.Form
