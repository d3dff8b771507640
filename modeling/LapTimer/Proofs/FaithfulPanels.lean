import LapTimer.Proofs.Devices
import LapTimer.Proofs.ReadingText

/-! What panels show. A panel that took a whole reading shows that reading and no other, and a
panel that is read as text has its text. -/

namespace LapTimer.Display

theorem digitOf?_codeOf {digit : UInt8} (decimal : digit < 10) :
    digitOf? (codeOf digit) = some digit := by
  have each : ∀ n < 10, digitOf? (codeOf (.ofNat n)) = some (.ofNat n) := by decide
  have found := each digit.toNat (UInt8.lt_iff_toNat_lt.mp decimal)
  rwa [UInt8.ofNat_toNat] at found

theorem codeOf_other {digit : UInt8} (other : ¬ digit < 10) : codeOf digit = off := by
  have past : digitCodes.length ≤ digit.toNat :=
    Nat.le_of_not_lt fun inside => other (UInt8.lt_iff_toNat_lt.mpr inside)
  rw [codeOf, List.getD_eq_getElem?_getD, List.getElem?_eq_none past, Option.getD_none]

theorem digitOf?_off : digitOf? off = none := by decide

theorem codeOf_ne_off {digit : UInt8} (decimal : digit < 10) : codeOf digit ≠ off := by
  intro same
  have found := digitOf?_codeOf decimal
  rw [same, digitOf?_off] at found
  cases found

theorem digitOf?_isSome (code : UInt8) : (digitOf? code).isSome = true ↔ code ∈ digitCodes := by
  simp [digitOf?, List.findIdx?_isSome]

theorem digitOf?_lt {code digit : UInt8} (found : digitOf? code = some digit) :
    digit.toNat < 10 := by
  obtain ⟨place, stands, rfl⟩ := Option.map_eq_some_iff.mp found
  have inside : place < 10 := (List.findIdx?_eq_some_iff_getElem.mp stands).1
  rw [Nat.toUInt8_eq, UInt8.toNat_ofNat']
  omega

theorem digitChar_found {code digit : UInt8} (found : digitOf? code = some digit) :
    digitChar code = Nat.digitChar digit.toNat := by
  have each : ∀ n < 10, Char.ofNat (48 + n) = Nat.digitChar n := by decide
  rw [digitChar, found]
  exact each digit.toNat (digitOf?_lt found)

theorem digitChar_dash (code : UInt8) : digitChar code = '-' ↔ code ∉ digitCodes := by
  rw [← digitOf?_isSome]
  cases found : digitOf? code with
  | none => simp [digitChar, found]
  | some digit =>
      simp [digitChar_found found]

theorem mapM_codeOf {digits : List UInt8} (decimal : ∀ digit ∈ digits, digit < 10) :
    (digits.map codeOf).mapM digitOf? = some digits := by
  induction digits with
  | nil => rfl
  | cons digit rest ih =>
      rw [List.forall_mem_cons] at decimal
      simp [digitOf?_codeOf decimal.1, ih decimal.2]

theorem mapM_codeOf_other {digits : List UInt8} {digit : UInt8} (held : digit ∈ digits)
    (other : ¬ digit < 10) : (digits.map codeOf).mapM digitOf? = none := by
  induction digits with
  | nil => simp at held
  | cons first rest ih =>
      rcases List.mem_cons.mp held with rfl | later
      · simp [codeOf_other other, digitOf?_off]
      · cases found : digitOf? (codeOf first) <;> simp [found, ih later]

theorem mapM_chars {codes digits : List UInt8} (read : codes.mapM digitOf? = some digits) :
    codes.map digitChar = digits.map (fun digit => Nat.digitChar digit.toNat) ∧
      ∀ digit ∈ digits, digit.toNat < 10 := by
  induction codes generalizing digits with
  | nil =>
      cases read
      simp
  | cons code rest ih =>
      rw [List.mapM_cons, Option.bind_eq_bind, Option.bind_eq_some_iff] at read
      obtain ⟨digit, found, read⟩ := read
      obtain ⟨others, reads, same⟩ := Option.bind_eq_some_iff.mp read
      cases same
      obtain ⟨chars, decimal⟩ := ih reads
      exact ⟨by simp [digitChar_found found, chars],
        List.forall_mem_cons.mpr ⟨digitOf?_lt found, decimal⟩⟩

theorem digits_code (panel : Panel) : panel.digits.toList = Position.all.map panel.code := by
  apply List.ext_getElem
  · simp [Position.all]
  · intro place inside _
    rw [Vector.length_toList] at inside
    match place, inside with
    | 0, _ | 1, _ | 2, _ | 3, _ | 4, _ | 5, _ => rfl

theorem Panel.isDark_iff (panel : Panel) :
    panel.isDark = true ↔ ∀ code ∈ panel.digits.toList, code = off := by
  simp [isDark, ← Vector.all_toList]

theorem digits_decimal {r : Reading} :
    (∀ digit ∈ r.digits, digit < 10) ↔
      r.minutes.toNat ≤ 99 ∧ r.seconds.toNat ≤ 99 ∧ r.centis.toNat ≤ 99 := by
  simp only [Reading.digits, List.forall_mem_cons, List.not_mem_nil, false_imp_iff,
    implies_true, and_true, UInt8.lt_iff_toNat_lt, UInt8.toNat_div, UInt8.toNat_mod,
    UInt8.reduceToNat]
  omega

theorem tens_units (n : UInt8) : n / 10 * 10 + n % 10 = n := by
  have bound := n.toNat_lt
  apply UInt8.toNat_inj.mp
  simp only [UInt8.toNat_add, UInt8.toNat_mul, UInt8.toNat_div, UInt8.toNat_mod,
    UInt8.reduceToNat]
  omega

/-- What a panel reads where its digits have the codes of a reading. -/
theorem reading?_codes (panel : Panel) (r : Reading) (lit : panel.isDark = false)
    (codes : panel.digits.toList = r.digits.map codeOf) :
    panel.reading? = if r.inRange then some r else none := by
  unfold Panel.reading?
  rw [if_neg (Bool.eq_false_iff.mp lit), codes]
  by_cases decimal : ∀ digit ∈ r.digits, digit < 10
  · rw [mapM_codeOf decimal]
    simp only [Reading.digits, tens_units, Reading.ofFields?]
  · have wide : ¬ r.inRange = true := by
      rw [digits_decimal] at decimal
      rw [Reading.inRange_iff]
      omega
    simp only [not_forall] at decimal
    obtain ⟨digit, held, other⟩ := decimal
    rw [mapM_codeOf_other held other, if_neg wide]

theorem face_lit {r : Reading} (lit : r.isZero = false) :
    (face r).map Prod.snd = r.digits.map codeOf := by
  rw [face, if_neg (Bool.eq_false_iff.mp lit)]
  rfl

/-- The units of a field are always a decimal digit, so only a zero reading is dark. -/
theorem dark_face_iff (r : Reading) :
    (∀ code ∈ (face r).map Prod.snd, code = off) ↔ r.isZero = true := by
  cases zero : r.isZero with
  | true =>
      rw [face, if_pos zero]
      exact iff_of_true (by simp [dark]) rfl
  | false =>
      rw [face_lit zero]
      have units : codeOf (r.minutes % 10) ∈ r.digits.map codeOf :=
        List.mem_map_of_mem (by simp [Reading.digits])
      have decimal : r.minutes % 10 < 10 := by
        rw [UInt8.lt_iff_toNat_lt, UInt8.toNat_mod]
        exact Nat.mod_lt _ (by decide)
      exact iff_of_false (fun dark => codeOf_ne_off decimal (dark _ units)) Bool.false_ne_true

theorem works_of_taken (panel : Panel) (r : Reading) (taken : (render panel r).2 = none) :
    panel.refusing = false := by
  cases refuses : panel.refusing with
  | false => rfl
  | true =>
      have places : (face r).map Prod.fst = Position.all := face_places r
      cases writes : face r with
      | nil =>
          rw [writes] at places
          cases places
      | cons write rest =>
          rw [render, writes, Sink.putAll] at taken
          simp [Sink.put, refuses] at taken

theorem codes_render (panel : Panel) (r : Reading) (works : panel.refusing = false) :
    (render panel r).1.digits.toList = (face r).map Prod.snd := by
  have shown : Shows Panel.registers (render panel r).1 r :=
    shows_render Panel.registers panel works r
  rw [digits_code, ← shown, Registers.readBack, List.map_map]
  rfl

theorem digitChars_digits {a b : UInt8} (tens : a.toNat < 10) (units : b.toNat < 10) :
    Reading.digitChars (a * 10 + b) = [Nat.digitChar a.toNat, Nat.digitChar b.toNat] := by
  have value : (a * 10 + b).toNat = a.toNat * 10 + b.toNat := by
    simp only [UInt8.toNat_add, UInt8.toNat_mul, UInt8.reduceToNat]
    omega
  have first : (a.toNat * 10 + b.toNat) / 10 = a.toNat := by omega
  have second : (a.toNat * 10 + b.toNat) % 10 = b.toNat := by omega
  rw [Reading.digitChars, value, first, second]

theorem text_reading {panel : Panel} {r : Reading} (shown : panel.reading? = some r) :
    panel.text = r.text := by
  unfold Panel.reading? at shown
  split at shown
  · cases shown
  · split at shown
    next a b c d e f read =>
        obtain ⟨chars, decimal⟩ := mapM_chars read
        simp only [List.forall_mem_cons] at decimal
        obtain ⟨ha, hb, hc, hd, he, hf, -⟩ := decimal
        simp only [Reading.ofFields?, Option.ite_none_right_eq_some, Option.some.injEq] at shown
        obtain ⟨fits, rfl⟩ := shown
        apply String.toList_injective
        rw [Reading.text_toList fits, Panel.text, textOf, chars]
        simp [digitChars_digits ha hb, digitChars_digits hc hd, digitChars_digits he hf]
    next => cases shown

/-- Where a digit stands in the text, which has a sign after every second digit. -/
def Position.column (position : Position) : Nat := position.index + position.index / 2

theorem text_column (panel : Panel) (position : Position) :
    panel.text.toList[position.column]? = some (digitChar (panel.code position)) := by
  have chars : panel.text.toList =
      [digitChar (panel.code .minuteTens), digitChar (panel.code .minuteUnits), ':',
        digitChar (panel.code .secondTens), digitChar (panel.code .secondUnits), '.',
        digitChar (panel.code .centiTens), digitChar (panel.code .centiUnits)] := by
    rw [Panel.text, textOf, digits_code]
    simp [Position.all]
  rw [chars]
  cases position <;> rfl

/-- A write that brings nothing new changes no digit, so leaving it out leaves them alike. -/
theorem digits_write {panel : Panel} {other : TextPanel} (alike : other.digits = panel.digits)
    (position : Position) (code : UInt8) :
    (other.write position code).digits = (panel.write position code).digits := by
  rw [Panel.write, ← alike]
  unfold TextPanel.write
  split
  next same =>
      have here : other.digits[(position.index : Nat)] = code := same
      rw [← here, Vector.set_getElem_self]
  next => rfl

theorem digits_alike (writes : List Write) (panel : Panel) (other : TextPanel)
    (works : panel.refusing = false) (alike : other.digits = panel.digits) :
    (Sink.putAll other writes).1.digits = (Sink.putAll panel writes).1.digits := by
  induction writes generalizing panel other with
  | nil => exact alike
  | cons write rest ih =>
      have put : Sink.put panel write = (panel.write write.1 write.2, none) := by
        simp [Sink.put, works]
      have put' : Sink.put other write = (other.write write.1 write.2, none) := rfl
      rw [Sink.putAll, Sink.putAll, put, put']
      exact ih (panel.write write.1 write.2) (other.write write.1 write.2) works
        (digits_write alike write.1 write.2)

/-- A panel that took a whole reading shows it, and is blank if the reading is zero and
otherwise not; a reading that does not fit the face is not taken for another one. Of two
panels that took the same writes, whatever their digits were, one has the text of what
the other shows, with a dash at exactly the digits that have no decimal code. -/
theorem panels_faithful :
    (∀ (panel : Panel) (r : Reading), (render panel r).2 = none →
        (render panel r).1.reading? = (if r.inRange && !r.isZero then some r else none) ∧
          ((render panel r).1.isDark = true ↔ r.isZero = true)) ∧
      ∀ (digits : Vector UInt8 6) (writes : List Write),
        let panel := (Sink.putAll ({ digits } : Panel) writes).1
        let other := (Sink.putAll ({ digits } : TextPanel) writes).1
        (∀ r, panel.reading? = some r → other.text = r.text) ∧
          ∀ position : Position, other.text.toList[position.column]? = some '-' ↔
            panel.code position ∉ digitCodes := by
  constructor
  · intro panel r taken
    have codes := codes_render panel r (works_of_taken panel r taken)
    have dark : (render panel r).1.isDark = true ↔ r.isZero = true := by
      rw [Panel.isDark_iff, codes, dark_face_iff]
    refine ⟨?_, dark⟩
    cases zero : r.isZero with
    | true =>
        rw [Panel.reading?, if_pos (dark.mpr zero)]
        simp
    | false =>
        rw [face_lit zero] at codes
        have lit : (render panel r).1.isDark = false :=
          Bool.eq_false_iff.mpr fun shown => Bool.false_ne_true (zero.symm.trans (dark.mp shown))
        rw [reading?_codes _ r lit codes]
        simp
  · intro digits writes panel other
    have alike : other.text = panel.text :=
      congrArg textOf (digits_alike writes { digits } { digits } rfl rfl)
    rw [alike]
    refine ⟨fun r => text_reading, ?_⟩
    intro position
    rw [text_column, Option.some.injEq, digitChar_dash]

/-- Seventy-five seconds are not taken for a minute and a quarter, and a stray code in the
last digit of a text that could be read before makes it a dash. -/
theorem panels_faithful_wide :
    let panel : Panel := { digits := #v[0x3f, 0xff, 0, 0x06, 0x7f, 1], writes := 7 }
    let wide : Reading := ⟨0, 75, 0⟩
    let fit : Reading := ⟨12, 34, 56⟩
    let strayed : List Write := face fit ++ [(.centiUnits, 0x10)]
    (render panel wide).2 = none ∧ (render panel wide).1.reading? = none ∧
      (render panel wide).1.isDark = false ∧ (render panel fit).1.reading? = some fit ∧
      (Sink.putAll ({ digits := panel.digits } : TextPanel) (face fit)).1.text = fit.text ∧
      (Sink.putAll ({} : TextPanel) strayed).1.text.toList[7]? = some '-' := by
  intro panel wide fit strayed
  obtain ⟨shows, texts⟩ := panels_faithful
  obtain ⟨unread, dark⟩ := shows panel wide rfl
  have read := (shows panel fit rfl).1.trans (if_pos rfl)
  have read' := (shows { digits := panel.digits } fit rfl).1.trans (if_pos rfl)
  refine ⟨rfl, unread.trans (if_neg (by decide)), ?_, read, ?_, ?_⟩
  · exact Bool.eq_false_iff.mpr fun blank => absurd (dark.mp blank) (by decide)
  · exact (texts panel.digits (face fit)).1 fit read'
  · exact ((texts (Vector.replicate 6 off) strayed).2 .centiUnits).mpr (by decide)

end LapTimer.Display
