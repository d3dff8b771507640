/-! Arithmetic on machine words that stays at the nearest bound where the exact result does not
fit. -/

namespace LapTimer.Saturating

def greatest32 : UInt32 := 0xffffffff

def greatest64 : UInt64 := 0xffffffffffffffff

def sub32 (a b : UInt32) : UInt32 := if b ≤ a then a - b else 0

def add32 (a b : UInt32) : UInt32 :=
  if a.toNat + b.toNat < UInt32.size then a + b else greatest32

def mul32 (a b : UInt32) : UInt32 :=
  if a.toNat * b.toNat < UInt32.size then a * b else greatest32

def sub64 (a b : UInt64) : UInt64 := if b ≤ a then a - b else 0

def add64 (a b : UInt64) : UInt64 :=
  if a.toNat + b.toNat < UInt64.size then a + b else greatest64

def mul64 (a b : UInt64) : UInt64 :=
  if a.toNat * b.toNat < UInt64.size then a * b else greatest64

theorem toNat_sub32 (a b : UInt32) : (sub32 a b).toNat = a.toNat - b.toNat := by
  unfold sub32
  split
  next le => exact UInt32.toNat_sub_of_le a b le
  next gt =>
    have : a.toNat < b.toNat := by simpa [UInt32.le_iff_toNat_le] using gt
    have : a.toNat - b.toNat = 0 := by omega
    simp [this]

theorem toNat_add32 (a b : UInt32) :
    (add32 a b).toNat = min (a.toNat + b.toNat) (UInt32.size - 1) := by
  unfold add32
  split
  next fits =>
    rw [UInt32.toNat_add, Nat.mod_eq_of_lt fits]
    omega
  next overflow =>
    have : greatest32.toNat = UInt32.size - 1 := rfl
    omega

theorem toNat_mul32 (a b : UInt32) :
    (mul32 a b).toNat = min (a.toNat * b.toNat) (UInt32.size - 1) := by
  unfold mul32
  split
  next fits =>
    rw [UInt32.toNat_mul, Nat.mod_eq_of_lt fits]
    omega
  next overflow =>
    have : greatest32.toNat = UInt32.size - 1 := rfl
    omega

theorem toNat_sub64 (a b : UInt64) : (sub64 a b).toNat = a.toNat - b.toNat := by
  unfold sub64
  split
  next le => exact UInt64.toNat_sub_of_le a b le
  next gt =>
    have : a.toNat < b.toNat := by simpa [UInt64.le_iff_toNat_le] using gt
    have : a.toNat - b.toNat = 0 := by omega
    simp [this]

theorem toNat_add64 (a b : UInt64) :
    (add64 a b).toNat = min (a.toNat + b.toNat) (UInt64.size - 1) := by
  unfold add64
  split
  next fits =>
    rw [UInt64.toNat_add, Nat.mod_eq_of_lt fits]
    omega
  next overflow =>
    have : greatest64.toNat = UInt64.size - 1 := rfl
    omega

theorem toNat_mul64 (a b : UInt64) :
    (mul64 a b).toNat = min (a.toNat * b.toNat) (UInt64.size - 1) := by
  unfold mul64
  split
  next fits =>
    rw [UInt64.toNat_mul, Nat.mod_eq_of_lt fits]
    omega
  next overflow =>
    have : greatest64.toNat = UInt64.size - 1 := rfl
    omega

end LapTimer.Saturating
