import LapTimer.Proofs.ReadingOrder
import Mathlib.Data.List.Basic
import Mathlib.Data.String.Basic

/-! The text of a reading and its reading back. The texts stand in the order of the readings.
-/

namespace LapTimer.Reading

def ofTwoDigits? (tens units : Char) : Option UInt8 :=
  if tens.isDigit && units.isDigit then some (.ofNat (Nat.ofDigitChars 10 [tens, units] 0))
  else none

/-- Reads minutes, seconds and hundredths, with two digits each. -/
def ofText? (text : String) : Option Reading :=
  match text.toList with
  | [m, m', ':', s, s', '.', c, c'] => do
      ofFields? (← ofTwoDigits? m m') (← ofTwoDigits? s s') (← ofTwoDigits? c c')
  | _ => none

theorem twoDigits_toList (n : UInt8) :
    (twoDigits n).toList =
      (if n.toNat < 10 then ['0'] else []) ++ Nat.toDigits 10 n.toNat := by
  have below : n < 10 ↔ n.toNat < 10 := UInt8.lt_iff_toNat_lt
  unfold twoDigits
  by_cases small : n.toNat < 10
  · simp [below, small]
  · simp [below, small]

/-- The two digits of a field that fits, the tens first. -/
def digitChars (n : UInt8) : List Char :=
  [Nat.digitChar (n.toNat / 10), Nat.digitChar (n.toNat % 10)]

theorem twoDigits_chars {n : UInt8} (fits : n.toNat ≤ 99) :
    (twoDigits n).toList = digitChars n := by
  rw [twoDigits_toList]
  unfold digitChars
  by_cases small : n.toNat < 10
  · have tens : n.toNat / 10 = 0 := Nat.div_eq_of_lt small
    have units : n.toNat % 10 = n.toNat := Nat.mod_eq_of_lt small
    rw [if_pos small, Nat.toDigits_of_lt_base small, tens, units]
    rfl
  · have tens : n.toNat / 10 < 10 := by omega
    simp [Nat.toDigits_eq_if, small, tens]

theorem ofTwoDigits?_chars {n : UInt8} (fits : n.toNat ≤ 99) :
    ofTwoDigits? (Nat.digitChar (n.toNat / 10)) (Nat.digitChar (n.toNat % 10)) = some n := by
  have shown : ∀ c ∈ (twoDigits n).toList, c.isDigit = true := by
    rw [twoDigits_toList]
    intro c inside
    rcases List.mem_append.mp inside with padding | digit
    · split at padding <;> simp_all
    · exact Nat.isDigit_of_mem_toDigits (by omega) (by omega) digit
  have value : Nat.ofDigitChars 10 (twoDigits n).toList 0 = n.toNat := by
    rw [twoDigits_toList]
    split <;> simp [Nat.ofDigitChars_cons]
  rw [twoDigits_chars fits, digitChars] at shown value
  rw [ofTwoDigits?, shown _ (by simp), shown _ (by simp), value, UInt8.ofNat_toNat]
  rfl

theorem text_toList {r : Reading} (fits : r.inRange = true) :
    r.text.toList = digitChars r.minutes ++ ':' :: (digitChars r.seconds ++
      '.' :: digitChars r.centis) := by
  obtain ⟨minutes, seconds, centis⟩ := (inRange_iff r).mp fits
  have shown : r.seconds.toNat ≤ 99 := by omega
  simp [text, twoDigits_chars minutes, twoDigits_chars shown, twoDigits_chars centis]

theorem ofText?_text {r : Reading} (fits : r.inRange = true) : ofText? r.text = some r := by
  obtain ⟨minutes, seconds, centis⟩ := (inRange_iff r).mp fits
  have shown : r.seconds.toNat ≤ 99 := by omega
  simp only [ofText?, text_toList fits, digitChars, List.cons_append, List.nil_append,
    ofTwoDigits?_chars minutes, ofTwoDigits?_chars shown, ofTwoDigits?_chars centis,
    Option.bind_eq_bind, Option.bind_some, ofFields?, fits, ↓reduceIte]

theorem digitChar_order : ∀ a < 10, ∀ b < 10,
    (Nat.digitChar a < Nat.digitChar b ↔ a < b) ∧
      (Nat.digitChar a = Nat.digitChar b ↔ a = b) := by
  decide

theorem digitChars_lt {a b : UInt8} (fits : a.toNat ≤ 99) (fits' : b.toNat ≤ 99)
    (as bs : List Char) :
    digitChars a ++ as < digitChars b ++ bs ↔ a < b ∨ a = b ∧ as < bs := by
  obtain ⟨tens, sameTens⟩ :=
    digitChar_order (a.toNat / 10) (by omega) (b.toNat / 10) (by omega)
  obtain ⟨units, sameUnits⟩ :=
    digitChar_order (a.toNat % 10) (by omega) (b.toNat % 10) (by omega)
  simp only [digitChars, List.cons_append, List.nil_append, List.cons_lt_cons_iff, tens,
    sameTens, units, sameUnits, UInt8.lt_iff_toNat_lt, ← UInt8.toNat_inj]
  by_cases later : as < bs
  · simp only [later, and_true]
    omega
  · simp only [later, and_false, or_false]
    omega

theorem text_le {a b : Reading} (fits : a.inRange = true) (fits' : b.inRange = true) :
    a.text ≤ b.text ↔ a ≤ b := by
  obtain ⟨minutes, seconds, centis⟩ := (inRange_iff a).mp fits
  obtain ⟨minutes', seconds', centis'⟩ := (inRange_iff b).mp fits'
  have bySeconds := digitChars_lt (a := b.seconds) (b := a.seconds) (by omega) (by omega)
  have byCentis := digitChars_lt centis' centis [] []
  simp only [List.append_nil, List.lt_irrefl, and_false, or_false] at byCentis
  rw [← String.not_lt, String.lt_iff_toList_lt, text_toList fits, text_toList fits',
    digitChars_lt minutes' minutes, List.cons_lt_cons_self, bySeconds, List.cons_lt_cons_self,
    byCentis, le_iff_fields]
  simp only [UInt8.lt_iff_toNat_lt, UInt8.le_iff_toNat_le, ← UInt8.toNat_inj]
  omega

end LapTimer.Reading
