import LapTimer.Reading

/-! The order of readings, and the time between two of them. Among readings that a face can
show it is the order of their totals. -/

namespace LapTimer.Reading

instance : LE Reading := ⟨fun a b => (a.compare b).isLE = true⟩

instance (a b : Reading) : Decidable (a ≤ b) :=
  inferInstanceAs (Decidable ((a.compare b).isLE = true))

theorem le_iff_fields (a b : Reading) :
    a ≤ b ↔ a.minutes < b.minutes ∨ a.minutes = b.minutes ∧
      (a.seconds < b.seconds ∨ a.seconds = b.seconds ∧ a.centis ≤ b.centis) := by
  show (a.compare b).isLE = true ↔ _
  unfold compare
  simp only [Ordering.isLE_then_iff_or, Std.compare_eq_lt, Std.compare_eq_iff_eq,
    Std.isLE_compare]

theorem inRange_iff (r : Reading) :
    r.inRange = true ↔ r.minutes.toNat ≤ 99 ∧ r.seconds.toNat ≤ 59 ∧ r.centis.toNat ≤ 99 := by
  simp [inRange, UInt8.le_iff_toNat_le, and_assoc]

theorem toNat_total (r : Reading) :
    r.total.toNat = r.minutes.toNat * 6000 + r.seconds.toNat * 100 + r.centis.toNat := by
  have minutes := r.minutes.toNat_lt
  have seconds := r.seconds.toNat_lt
  have centis := r.centis.toNat_lt
  have perMinute : UInt32.toNat 6000 = 6000 := rfl
  have perSecond : UInt32.toNat 100 = 100 := rfl
  simp only [total, UInt32.toNat_add, UInt32.toNat_mul, UInt8.toNat_toUInt32, perMinute,
    perSecond]
  omega

theorem le_iff_total (a b : Reading) (fits : a.inRange = true) (fits' : b.inRange = true) :
    a ≤ b ↔ a.total.toNat ≤ b.total.toNat := by
  have left := (inRange_iff a).mp fits
  have right := (inRange_iff b).mp fits'
  rw [le_iff_fields, toNat_total, toNat_total]
  simp only [UInt8.lt_iff_toNat_lt, UInt8.le_iff_toNat_le, ← UInt8.toNat_inj]
  omega

-- The greatest reading is the reading of 599999 hundredths, so both branches of
-- the conversion are one formula on the capped count.
theorem fields_ofNanos (nanos : UInt64) :
    (ofNanos nanos).minutes.toNat = min 599999 (nanos.toNat / 10000000) / 6000 ∧
    (ofNanos nanos).seconds.toNat = min 599999 (nanos.toNat / 10000000) / 100 % 60 ∧
    (ofNanos nanos).centis.toNat = min 599999 (nanos.toNat / 10000000) % 100 := by
  have limit : limitNanos.toNat = 5999990000000 := rfl
  by_cases reached : limitNanos ≤ nanos
  · have above : 599999 ≤ nanos.toNat / 10000000 := by
      have := UInt64.le_iff_toNat_le.mp reached
      omega
    rw [ofNanos, if_pos reached, Nat.min_eq_left above]
    decide
  · have below : nanos.toNat / 10000000 < 599999 := by
      have := UInt64.not_le.mp reached
      have := UInt64.lt_iff_toNat_lt.mp this
      omega
    have unit : nanosPerCenti.toNat = 10000000 := rfl
    have perMinute : UInt64.toNat 6000 = 6000 := rfl
    have perSecond : UInt64.toNat 100 = 100 := rfl
    have seconds : UInt64.toNat 60 = 60 := rfl
    rw [ofNanos, if_neg reached]
    simp only [UInt64.toNat_toUInt8, UInt64.toNat_div, UInt64.toNat_mod, unit, perMinute,
      perSecond, seconds]
    omega

theorem inRange_ofNanos (nanos : UInt64) : (ofNanos nanos).inRange = true := by
  obtain ⟨minutes, seconds, centis⟩ := fields_ofNanos nanos
  rw [inRange_iff]
  omega

theorem total_ofNanos (nanos : UInt64) :
    (ofNanos nanos).total.toNat = min 599999 (nanos.toNat / 10000000) := by
  obtain ⟨minutes, seconds, centis⟩ := fields_ofNanos nanos
  rw [toNat_total]
  omega

theorem ofNanos_mono (a b : UInt64) (le : a ≤ b) : ofNanos a ≤ ofNanos b := by
  rw [le_iff_total _ _ (inRange_ofNanos a) (inRange_ofNanos b), total_ofNanos, total_ofNanos]
  have := UInt64.le_iff_toNat_le.mp le
  omega

theorem le_refl (r : Reading) : r ≤ r :=
  (le_iff_fields r r).mpr (.inr ⟨rfl, .inr ⟨rfl, UInt8.le_refl _⟩⟩)

theorem le_trans (a b c : Reading) (first : a ≤ b) (second : b ≤ c) : a ≤ c := by
  rw [le_iff_fields] at first second ⊢
  simp only [UInt8.lt_iff_toNat_lt, UInt8.le_iff_toNat_le, ← UInt8.toNat_inj] at first second ⊢
  omega

theorem eq_of_total (a b : Reading) (fits : a.inRange = true) (fits' : b.inRange = true)
    (same : a.total.toNat = b.total.toNat) : a = b := by
  have left := (inRange_iff a).mp fits
  have right := (inRange_iff b).mp fits'
  rw [toNat_total, toNat_total] at same
  have minutes : a.minutes = b.minutes := UInt8.toNat_inj.mp (by omega)
  have seconds : a.seconds = b.seconds := UInt8.toNat_inj.mp (by omega)
  have centis : a.centis = b.centis := UInt8.toNat_inj.mp (by omega)
  obtain ⟨_, _, _⟩ := a
  obtain ⟨_, _, _⟩ := b
  simp only at minutes seconds centis
  rw [minutes, seconds, centis]

-- A count of hundredths in one word is far below the greatest count of nanoseconds.
theorem total_ofCentis (centis : UInt32) :
    (ofCentis centis).total.toNat = min 599999 centis.toNat := by
  have bound := centis.toNat_lt
  have unit : nanosPerCenti.toNat = 10000000 := rfl
  have fits : centis.toNat * 10000000 % 2 ^ 64 = centis.toNat * 10000000 :=
    Nat.mod_eq_of_lt (by omega)
  rw [ofCentis, total_ofNanos, UInt64.toNat_mul, UInt32.toNat_toUInt64, unit, fits,
    Nat.mul_div_cancel _ (by decide)]

theorem inRange_sub (a b : Reading) : (a.sub b).inRange = true := inRange_ofNanos _

theorem total_sub (a b : Reading) :
    (a.sub b).total.toNat = min 599999 (a.total.toNat - b.total.toNat) := by
  rw [sub, total_ofCentis, Saturating.toNat_sub32]

theorem total_zero : zero.total.toNat = 0 := rfl

theorem total_add_sub (a b : Reading) (fits : a.inRange = true) (fits' : b.inRange = true)
    (le : b ≤ a) : b.total.toNat + (a.sub b).total.toNat = a.total.toNat := by
  have ordered := (le_iff_total b a fits' fits).mp le
  have fields := (inRange_iff a).mp fits
  have total := toNat_total a
  rw [total_sub]
  omega

theorem sub_zero (r : Reading) (fits : r.inRange = true) : r.sub zero = r := by
  have fields := (inRange_iff r).mp fits
  have total := toNat_total r
  apply eq_of_total _ _ (inRange_sub r zero) fits
  rw [total_sub, total_zero]
  omega

end LapTimer.Reading
