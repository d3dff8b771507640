import LapTimer.Http.Router
import LapTimer.Proofs.JsonForms

/-! The views of an instrument as JSON text, and the numbers and lists in them. -/

namespace LapTimer

namespace Json

theorem isDigit_digit : ∀ d < 10, isDigit (0x30 + .ofNat d) = true := by decide

theorem value_digit : ∀ d < 10, ((0x30 + .ofNat d : UInt8) - 0x30).toNat = d := by decide

theorem start?_digit : ∀ d < 10, 0 < d →
    NumberPart.start? (0x30 + .ofNat d) = some .whole := by decide

theorem digitsOf_small {n : Nat} (small : n < 10) : digitsOf n = [0x30 + .ofNat n] := by
  rw [digitsOf, if_pos small]

theorem digitsOf_large {n : Nat} (large : ¬ n < 10) :
    digitsOf n = digitsOf (n / 10) ++ [0x30 + .ofNat (n % 10)] := by
  rw [digitsOf, if_neg large]

theorem digits_digitsOf (n : Nat) : (digitsOf n).all isDigit = true := by
  induction n using Nat.strongRecOn with
  | ind n ih =>
      by_cases small : n < 10
      · simp [digitsOf_small small, isDigit_digit n small]
      · have last := isDigit_digit (n % 10) (Nat.mod_lt _ (by decide))
        simp only [digitsOf_large small, List.all_append, ih (n / 10) (by omega), List.all_cons,
          last, List.all_nil, Bool.and_self]

theorem foldl_digitsOf (n : Nat) :
    (digitsOf n).foldl (fun n b => n * 10 + (b - 0x30).toNat) 0 = n := by
  induction n using Nat.strongRecOn with
  | ind n ih =>
      by_cases small : n < 10
      · simp only [digitsOf_small small, List.foldl_cons, List.foldl_nil, Nat.zero_mul,
          Nat.zero_add, value_digit n small]
      · have last := value_digit (n % 10) (Nat.mod_lt _ (by decide))
        rw [digitsOf_large small, List.foldl_append, ih (n / 10) (by omega)]
        simp only [List.foldl_cons, List.foldl_nil, last]
        omega

theorem natOf?_digitsOf (n : Nat) : natOf? (digitsOf n) = some n := by
  rw [natOf?, if_pos (digits_digitsOf n), foldl_digitsOf]

theorem completes_digits {digits : List UInt8} (all : digits.all isDigit = true) :
    NumberPart.Completes .whole digits := by
  induction digits with
  | nil => exact .done rfl
  | cons b rest ih =>
      obtain ⟨first, others⟩ := Bool.and_eq_true_iff.mp (List.all_cons ▸ all)
      exact .more (by simp [NumberPart.next?, first]) (ih others)

-- Only the number zero begins with the digit zero.
theorem begins_digitsOf (n : Nat) (positive : 0 < n) :
    ∃ b rest, digitsOf n = b :: rest ∧ NumberPart.start? b = some .whole := by
  induction n using Nat.strongRecOn with
  | ind n ih =>
      by_cases small : n < 10
      · exact ⟨_, [], digitsOf_small small, start?_digit n small positive⟩
      · obtain ⟨b, rest, same, begins⟩ := ih (n / 10) (by omega) (by omega)
        exact ⟨b, rest ++ [0x30 + .ofNat (n % 10)], by rw [digitsOf_large small, same]; rfl,
          begins⟩

theorem numeral_digitsOf (n : Nat) : Numeral (digitsOf n) := by
  rcases Nat.eq_zero_or_pos n with rfl | positive
  · have begins : NumberPart.start? (0x30 + .ofNat 0) = some .zero := by decide
    rw [digitsOf_small (by decide)]
    exact .begun begins (.done rfl)
  · obtain ⟨b, rest, same, begins⟩ := begins_digitsOf n positive
    have all := digits_digitsOf n
    rw [same, List.all_cons, Bool.and_eq_true] at all
    rw [same]
    exact .begun begins (completes_digits all.2)

end Json

namespace Form

theorem natBelow?_ofNat {n bound : Nat} (below : n < bound) :
    natBelow? bound (Json.ofNat n) = some n := by
  simp [natBelow?, Json.ofNat, Json.natOf?_digitsOf, below]

instance : Lawful UInt8 where
  written n := .number (Json.numeral_digitsOf n.toNat)
  present _ := nofun
  reads n := by
    simp only [ofJson?, toJson, natBelow?_ofNat n.toNat_lt_size, Option.map_some,
      UInt8.ofNat_toNat]

instance : Lawful UInt32 where
  written n := .number (Json.numeral_digitsOf n.toNat)
  present _ := nofun
  reads n := by
    simp only [ofJson?, toJson, natBelow?_ofNat n.toNat_lt_size, Option.map_some,
      UInt32.ofNat_toNat]

instance : Lawful UInt64 where
  written n := .number (Json.numeral_digitsOf n.toNat)
  present _ := nofun
  reads n := by
    simp only [ofJson?, toJson, natBelow?_ofNat n.toNat_lt_size, Option.map_some,
      UInt64.ofNat_toNat]

instance {α : Type} [Form α] [Lawful α] : Lawful (List α) where
  written items := by
    apply Json.Written.array
    intro json inside
    obtain ⟨item, _, rfl⟩ := List.mem_map.mp inside
    exact Lawful.written item
  present _ := nofun
  reads items := by
    have each : items.mapM (ofJson? ∘ toJson) = some (items.map id) :=
      mapM_some fun item _ => Lawful.reads item
    simp only [ofJson?, toJson, List.mapM_map, each, List.map_id]

instance : Lawful LapView :=
  .ofStructure (fun _ => rfl) (fun _ => rfl) (fun _ => rfl) (by decide)
    (fun _ => by simp [Lawful.written]) (fun _ => by simp [required_some])

instance : Lawful CountView :=
  .ofStructure (fun _ => rfl) (fun _ => rfl) (fun _ => rfl) (by decide)
    (fun _ => by simp [Lawful.written]) (fun _ => by simp [required_some])

instance : Lawful ModeView :=
  .ofStructure (fun _ => rfl) (fun _ => rfl) (fun _ => rfl) (by decide)
    (fun _ => by simp [Lawful.written]) (fun _ => by simp [required_some])

instance : Lawful StateView :=
  .ofStructure (fun _ => rfl) (fun _ => rfl) (fun _ => rfl) (by decide)
    (fun _ => by simp [Lawful.written]) (fun _ => by simp [required_some])

end Form

theorem Http.Page.written (page : Page) : page.json.Written := by
  cases page with
  | state view => exact Form.Lawful.written view
  | laps views => exact Form.Lawful.written views
  | count view => exact Form.Lawful.written view
  | mode view => exact Form.Lawful.written view
  | record view => exact Form.Lawful.written view

end LapTimer
