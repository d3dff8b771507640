import LapTimer.Proofs.ReadingOrder
import Mathlib.Order.Bounds.Defs

/-! Readings and their counts. A reading in nanoseconds is exact, the conversion back is its
adjoint, and no operation on words overflows on the way. -/

namespace LapTimer

-- Operations on words that answer only where the exact result fits.
namespace Checked

def add32 (a b : UInt32) : Option UInt32 :=
  if a.toNat + b.toNat < UInt32.size then some (a + b) else none

def mul32 (a b : UInt32) : Option UInt32 :=
  if a.toNat * b.toNat < UInt32.size then some (a * b) else none

def mul64 (a b : UInt64) : Option UInt64 :=
  if a.toNat * b.toNat < UInt64.size then some (a * b) else none

theorem add32_exact {a b : UInt32} (fits : a.toNat + b.toNat < UInt32.size) :
    add32 a b = some (a + b) ∧ (a + b).toNat = a.toNat + b.toNat :=
  ⟨if_pos fits, by rw [UInt32.toNat_add, Nat.mod_eq_of_lt fits]⟩

theorem mul32_exact {a b : UInt32} (fits : a.toNat * b.toNat < UInt32.size) :
    mul32 a b = some (a * b) ∧ (a * b).toNat = a.toNat * b.toNat :=
  ⟨if_pos fits, by rw [UInt32.toNat_mul, Nat.mod_eq_of_lt fits]⟩

theorem mul64_exact {a b : UInt64} (fits : a.toNat * b.toNat < UInt64.size) :
    mul64 a b = some (a * b) ∧ (a * b).toNat = a.toNat * b.toNat :=
  ⟨if_pos fits, by rw [UInt64.toNat_mul, Nat.mod_eq_of_lt fits]⟩

end Checked

namespace Reading

/-- The total with every step checked. -/
def total? (r : Reading) : Option UInt32 := do
  let minutes ← Checked.mul32 r.minutes.toUInt32 6000
  let seconds ← Checked.mul32 r.seconds.toUInt32 100
  let both ← Checked.add32 minutes seconds
  Checked.add32 both r.centis.toUInt32

def toNanos? (r : Reading) : Option UInt64 := do
  Checked.mul64 (← r.total?).toUInt64 nanosPerCenti

def ofCentis? (centis : UInt32) : Option Reading :=
  (Checked.mul64 centis.toUInt64 nanosPerCenti).map ofNanos

def sub? (a b : Reading) : Option Reading := do
  ofCentis? (Saturating.sub32 (← a.total?) (← b.total?))

theorem total?_eq (r : Reading) : r.total? = some r.total := by
  have bounds := And.intro r.minutes.toNat_lt (And.intro r.seconds.toNat_lt r.centis.toNat_lt)
  have word : UInt32.size = 4294967296 := rfl
  have perMinute : UInt32.toNat 6000 = 6000 := rfl
  have perSecond : UInt32.toNat 100 = 100 := rfl
  obtain ⟨minutes, ofMinutes⟩ := Checked.mul32_exact (a := r.minutes.toUInt32) (b := 6000)
    (by rw [UInt8.toNat_toUInt32, perMinute]; omega)
  obtain ⟨seconds, ofSeconds⟩ := Checked.mul32_exact (a := r.seconds.toUInt32) (b := 100)
    (by rw [UInt8.toNat_toUInt32, perSecond]; omega)
  rw [UInt8.toNat_toUInt32, perMinute] at ofMinutes
  rw [UInt8.toNat_toUInt32, perSecond] at ofSeconds
  obtain ⟨both, ofBoth⟩ := Checked.add32_exact (a := r.minutes.toUInt32 * 6000)
    (b := r.seconds.toUInt32 * 100) (by omega)
  obtain ⟨all, -⟩ := Checked.add32_exact (b := r.centis.toUInt32)
    (a := r.minutes.toUInt32 * 6000 + r.seconds.toUInt32 * 100)
    (by rw [UInt8.toNat_toUInt32]; omega)
  simp only [total?, minutes, seconds, both, all, Option.bind_eq_bind, Option.bind_some, total]

/-- A count of hundredths in one word is far below the greatest count of nanoseconds. -/
theorem nanos_exact (centis : UInt32) :
    Checked.mul64 centis.toUInt64 nanosPerCenti = some (centis.toUInt64 * nanosPerCenti) ∧
      (centis.toUInt64 * nanosPerCenti).toNat = centis.toNat * 10000000 := by
  have bound := centis.toNat_lt
  have unit : nanosPerCenti.toNat = 10000000 := rfl
  have word : UInt64.size = 18446744073709551616 := rfl
  have fits : centis.toUInt64.toNat * nanosPerCenti.toNat < UInt64.size := by
    rw [UInt32.toNat_toUInt64, unit]
    omega
  have exact64 := Checked.mul64_exact fits
  rwa [UInt32.toNat_toUInt64, unit] at exact64

theorem ofCentis?_eq (centis : UInt32) : ofCentis? centis = some (ofCentis centis) := by
  rw [ofCentis?, (nanos_exact centis).1, Option.map_some, ofCentis]

theorem toNanos?_eq (r : Reading) : r.toNanos? = some r.toNanos := by
  simp only [toNanos?, total?_eq, Option.bind_eq_bind, Option.bind_some, nanos_exact, toNanos]

theorem toNat_toNanos (r : Reading) : r.toNanos.toNat = r.total.toNat * 10000000 :=
  (nanos_exact r.total).2

theorem sub?_eq (a b : Reading) : a.sub? b = some (a.sub b) := by
  simp only [sub?, total?_eq, ofCentis?_eq, Option.bind_eq_bind, Option.bind_some, sub]

theorem total_fits {r : Reading} (fits : r.inRange = true) : r.total.toNat ≤ 599999 := by
  have fields := (inRange_iff r).mp fits
  rw [toNat_total]
  omega

-- The cap does not show: no reading that fits lies above it.
theorem le_ofNanos_iff {t : Reading} (fits : t.inRange = true) (nanos : UInt64) :
    t ≤ ofNanos nanos ↔ t.toNanos ≤ nanos := by
  have bound := total_fits fits
  rw [le_iff_total _ _ fits (inRange_ofNanos nanos), total_ofNanos, UInt64.le_iff_toNat_le,
    toNat_toNanos]
  omega

theorem toNanos_ofNanos_le (nanos : UInt64) : (ofNanos nanos).toNanos ≤ nanos :=
  (le_ofNanos_iff (inRange_ofNanos nanos) nanos).mp (le_refl _)

theorem le_antisymm {a b : Reading} (first : a ≤ b) (second : b ≤ a) : a = b := by
  rw [le_iff_fields] at first second
  simp only [UInt8.lt_iff_toNat_lt, UInt8.le_iff_toNat_le, ← UInt8.toNat_inj] at first second
  obtain ⟨_, _, _⟩ := a
  obtain ⟨_, _, _⟩ := b
  simp only [Reading.mk.injEq, ← UInt8.toNat_inj] at first second ⊢
  omega

theorem ofNanos_isGreatest (nanos : UInt64) :
    IsGreatest {t : Reading | t.inRange = true ∧ t.toNanos ≤ nanos} (ofNanos nanos) := by
  constructor
  · exact ⟨inRange_ofNanos nanos, toNanos_ofNanos_le nanos⟩
  · rintro t ⟨fits, below⟩
    exact (le_ofNanos_iff fits nanos).mpr below

theorem ofNanos_toNanos {t : Reading} (fits : t.inRange = true) : ofNanos t.toNanos = t := by
  have inside := inRange_ofNanos t.toNanos
  have back := toNanos_ofNanos_le t.toNanos
  have bound := total_fits fits
  apply le_antisymm
  · rw [UInt64.le_iff_toNat_le, toNat_toNanos, toNat_toNanos] at back
    rw [le_iff_total _ _ inside fits]
    omega
  · exact (le_ofNanos_iff fits _).mpr (UInt64.le_refl _)

theorem le_greatest {t : Reading} (fits : t.inRange = true) : t ≤ greatest :=
  (le_iff_total t greatest fits rfl).mpr (total_fits fits)

theorem ofNanos_eq_greatest (nanos : UInt64) :
    ofNanos nanos = greatest ↔ greatest.toNanos ≤ nanos := by
  rw [← le_ofNanos_iff rfl nanos]
  constructor
  · intro same
    rw [same]
    exact le_refl greatest
  · exact le_antisymm (le_greatest (inRange_ofNanos nanos))

/-- The reading of a count is the adjoint of the count of a reading, so it is the greatest
reading that is not beyond the count. What else is known of the conversion follows: it
keeps the order, cuts off below a hundredth, stays at the greatest reading, and undoes the
count of a reading. From hundredths it does the same, and the product on the way fits its
word. -/
theorem nanos_adjoint :
    (∀ nanos : UInt64, (ofNanos nanos).inRange = true ∧
        (∀ t : Reading, t.inRange = true → (t ≤ ofNanos nanos ↔ t.toNanos ≤ nanos)) ∧
        IsGreatest {t : Reading | t.inRange = true ∧ t.toNanos ≤ nanos} (ofNanos nanos) ∧
        (ofNanos nanos).total.toNat = min 599999 (nanos.toNat / 10000000) ∧
        (ofNanos nanos = greatest ↔ greatest.toNanos ≤ nanos)) ∧
      (∀ few many : UInt64, few ≤ many → ofNanos few ≤ ofNanos many) ∧
      (∀ t : Reading, t.toNanos? = some t.toNanos ∧
        (t.inRange = true → ofNanos t.toNanos = t)) ∧
      ∀ centis : UInt32, (ofCentis centis).total.toNat = min centis.toNat 599999 ∧
        ofCentis? centis = some (ofCentis centis) := by
  refine ⟨?_, ofNanos_mono, ?_, ?_⟩
  · intro nanos
    exact ⟨inRange_ofNanos nanos, fun t fits => le_ofNanos_iff fits nanos,
      ofNanos_isGreatest nanos, total_ofNanos nanos, ofNanos_eq_greatest nanos⟩
  · intro t
    exact ⟨toNanos?_eq t, ofNanos_toNanos⟩
  · intro centis
    rw [Nat.min_comm]
    exact ⟨total_ofCentis centis, ofCentis?_eq centis⟩

/-- One nanosecond before the greatest reading the one before it is still the last. -/
theorem nanos_adjoint_below_limit :
    let nanos : UInt64 := limitNanos - 1
    let t : Reading := ⟨99, 59, 98⟩
    t.inRange = true ∧ greatest.inRange = true ∧ t ≤ ofNanos nanos ∧ ¬ greatest ≤ ofNanos nanos ∧
      ofNanos nanos ≤ ofNanos limitNanos ∧ ofNanos t.toNanos = t := by
  intro nanos t
  obtain ⟨adjoint, mono, back, -⟩ := nanos_adjoint
  have below := (adjoint nanos).2.1
  refine ⟨rfl, rfl, (below t rfl).mpr (by decide), ?_, mono nanos limitNanos (by decide),
    (back t).2 rfl⟩
  exact mt (below greatest rfl).mp (by decide)

/-- The reading in hundredths, in exact numbers. -/
def hundredths (r : Reading) : Nat :=
  r.minutes.toNat * 6000 + r.seconds.toNat * 100 + r.centis.toNat

theorem compare_hundredths {a b : Reading} (fits : a.inRange = true) (fits' : b.inRange = true) :
    a.compare b = Ord.compare a.hundredths b.hundredths := by
  have left := (inRange_iff a).mp fits
  have right := (inRange_iff b).mp fits'
  unfold hundredths
  rw [compare]
  cases order : Ord.compare (a.minutes.toNat * 6000 + a.seconds.toNat * 100 + a.centis.toNat)
      (b.minutes.toNat * 6000 + b.seconds.toNat * 100 + b.centis.toNat) with
  | lt =>
      have earlier := Nat.compare_eq_lt.mp order
      simp only [Ordering.then_eq_lt, Std.compare_eq_lt, Std.compare_eq_iff_eq,
        UInt8.lt_iff_toNat_lt, ← UInt8.toNat_inj]
      omega
  | eq =>
      have same := Nat.compare_eq_eq.mp order
      simp only [Ordering.then_eq_eq, Std.compare_eq_iff_eq, ← UInt8.toNat_inj]
      omega
  | gt =>
      have later := Nat.compare_eq_gt.mp order
      simp only [Ordering.then_eq_gt, Std.compare_eq_gt, Std.compare_eq_iff_eq,
        UInt8.lt_iff_toNat_lt, ← UInt8.toNat_inj]
      omega

theorem isZero_iff_total (r : Reading) : r.isZero = true ↔ r.total.toNat = 0 := by
  obtain ⟨minutes, seconds, centis⟩ := r
  rw [toNat_total, isZero, zero, beq_iff_eq, Reading.mk.injEq]
  simp only [← UInt8.toNat_inj, UInt8.toNat_zero]
  omega

theorem isZero_sub {a b : Reading} (fits : a.inRange = true) (fits' : b.inRange = true) :
    (a.sub b).isZero = true ↔ a ≤ b := by
  rw [isZero_iff_total, total_sub, le_iff_total a b fits fits']
  omega

theorem hundredths_sub (a b : Reading) :
    ((a.sub b).hundredths : Int) = min 599999 (max 0 ((a.hundredths : Int) - b.hundredths)) := by
  have span := total_sub a b
  rw [toNat_total, toNat_total a, toNat_total b] at span
  unfold hundredths
  omega

/-- The time from one reading to another fits the face and is exact up to the greatest
reading, also where a field holds more than a face can show, and no step on the way
overflows. Between readings that fit, the order of the fields is that of the hundredths,
and a time added to the earlier reading gives the later one and no other. -/
theorem sub_exact (a b : Reading) :
    a.total.toNat = a.hundredths ∧ (a.sub b).inRange = true ∧
      ((a.sub b).hundredths : Int) = min 599999 (max 0 ((a.hundredths : Int) - b.hundredths)) ∧
      a.sub? b = some (a.sub b) ∧
      (a.inRange = true → b.inRange = true →
        a.compare b = Ord.compare a.hundredths b.hundredths ∧
          ((a.sub b).isZero = true ↔ a ≤ b) ∧
          (b ≤ a → ∀ t : Reading, t.inRange = true →
            (t.hundredths = b.hundredths + (a.sub b).hundredths ↔ t = a))) := by
  refine ⟨toNat_total a, inRange_sub a b, hundredths_sub a b, sub?_eq a b, ?_⟩
  intro fits fits'
  refine ⟨compare_hundredths fits fits', isZero_sub fits fits', ?_⟩
  intro earlier t inside
  have sum : b.hundredths + (a.sub b).hundredths = a.hundredths := by
    have added := total_add_sub a b fits fits' earlier
    rwa [toNat_total, toNat_total, toNat_total] at added
  rw [sum]
  constructor
  · intro same
    apply eq_of_total t a inside fits
    rw [toNat_total, toNat_total]
    exact same
  · rintro rfl
    rfl

/-- A borrow through all three fields, and a difference of readings that no face shows. -/
theorem sub_exact_borrow :
    let a : Reading := ⟨1, 0, 5⟩
    let b : Reading := ⟨0, 59, 50⟩
    a.inRange = true ∧ b.inRange = true ∧ b ≤ a ∧ a.sub b = ⟨0, 0, 55⟩ ∧
      (∀ t : Reading, t.inRange = true →
        (t.hundredths = b.hundredths + (a.sub b).hundredths ↔ t = a)) ∧
      Reading.sub? ⟨255, 255, 255⟩ ⟨0, 75, 0⟩ = some greatest := by
  intro a b
  have far := (sub_exact ⟨255, 255, 255⟩ ⟨0, 75, 0⟩).2.2.2.1
  have within := (sub_exact a b).2.2.2.2 rfl rfl
  exact ⟨rfl, rfl, by decide, by decide, within.2.2 (by decide), far⟩

end Reading

end LapTimer
