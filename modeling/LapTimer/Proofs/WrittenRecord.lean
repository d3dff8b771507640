import LapTimer.Record
import LapTimer.Proofs.ReadingOrder

/-! The written form of a record. Of all buffers of the right size just the canonical ones are
what some record is written as, and those come back as they were. -/

namespace LapTimer

/-- The number that some bytes write, the lowest byte first. -/
def littleEndian : List UInt8 → Nat
  | [] => 0
  | b :: rest => b.toNat + 256 * littleEndian rest

namespace Record

/-- Both times fit on a face. -/
def Readable (r : Record) : Prop := r.current.inRange = true ∧ r.lap.inRange = true

/-- The number in the four bytes from a place on. -/
def fieldAt (bytes : List UInt8) (place : Nat) : Nat := littleEndian ((bytes.drop place).take 4)

/-- The hundredths that the three fields from a place on add up to. -/
def centisAt (bytes : List UInt8) (place : Nat) : Nat :=
  6000 * fieldAt bytes (place + 8) + 100 * fieldAt bytes (place + 4) + fieldAt bytes place

/-- The three fields from a place on are those of a time that fits on a face. -/
def TimeAt (bytes : List UInt8) (place : Nat) : Prop :=
  fieldAt bytes place ≤ 99 ∧ fieldAt bytes (place + 4) ≤ 59 ∧ fieldAt bytes (place + 8) ≤ 99

structure Canonical (bytes : List UInt8) : Prop where
  current : TimeAt bytes 0
  lap : TimeAt bytes 12
  mark : bytes[24]? = some 0 ∨ bytes[24]? = some 1
  padding : bytes.drop 25 = [0, 0, 0]

theorem toNat_wordOf (a b c d : UInt8) :
    (wordOf a b c d).toNat = littleEndian [a, b, c, d] := by
  have boundA := a.toNat_lt
  have boundB := b.toNat_lt
  have boundC := c.toNat_lt
  have boundD := d.toNat_lt
  have second : UInt32.toNat 256 = 256 := rfl
  have third : UInt32.toNat 65536 = 65536 := rfl
  have fourth : UInt32.toNat 16777216 = 16777216 := rfl
  simp only [wordOf, littleEndian, UInt32.toNat_add, UInt32.toNat_mul, UInt8.toNat_toUInt32,
    second, third, fourth]
  omega

theorem littleEndian_wordBytes (w : UInt32) : littleEndian (wordBytes w) = w.toNat := by
  have bound := w.toNat_lt
  have second : UInt32.toNat 256 = 256 := rfl
  have third : UInt32.toNat 65536 = 65536 := rfl
  have fourth : UInt32.toNat 16777216 = 16777216 := rfl
  simp only [wordBytes, littleEndian, UInt32.toNat_toUInt8, UInt32.toNat_div, second, third,
    fourth]
  omega

/-- Four bytes are told by the number that they write. -/
theorem eq_of_littleEndian (first second : List UInt8) (length : first.length = second.length)
    (same : littleEndian first = littleEndian second) : first = second := by
  induction first generalizing second with
  | nil => exact (List.length_eq_zero_iff.mp length.symm).symm
  | cons b rest ih =>
      cases second with
      | nil => simp at length
      | cons b' rest' =>
          have bound := b.toNat_lt
          have bound' := b'.toNat_lt
          simp only [littleEndian] at same
          have head : b = b' := UInt8.toNat_inj.mp (by omega)
          have tail : rest = rest' := ih rest' (Nat.succ.inj length) (by omega)
          rw [head, tail]

theorem take_drop_four (bytes : List UInt8) (place : Nat) (room : place + 4 ≤ bytes.length) :
    (bytes.drop place).take 4 =
      [bytes.getD place 0, bytes.getD (place + 1) 0, bytes.getD (place + 2) 0,
        bytes.getD (place + 3) 0] := by
  induction place generalizing bytes with
  | zero =>
      rcases bytes with _ | ⟨a, _ | ⟨b, _ | ⟨c, _ | ⟨d, rest⟩⟩⟩⟩
      case cons.cons.cons.cons => rfl
      all_goals simp at room
  | succ place ih =>
      cases bytes with
      | nil => simp at room
      | cons b rest =>
          have room' : place + 4 ≤ rest.length := by
            rw [List.length_cons] at room
            omega
          exact ih rest room'

theorem toNat_wordAt (bytes : List UInt8) (place : Nat) (room : place + 4 ≤ bytes.length) :
    (wordAt bytes place).toNat = fieldAt bytes place := by
  rw [wordAt, toNat_wordOf, fieldAt, take_drop_four bytes place room]

theorem length_wordBytes (w : UInt32) : (wordBytes w).length = 4 := rfl

/-- A byte that was written as a word is found there again, whatever stands around it. -/
theorem fieldAt_written (before after : List UInt8) (b : UInt8) :
    fieldAt (before ++ wordBytes b.toUInt32 ++ after) before.length = b.toNat := by
  rw [fieldAt, List.append_assoc, List.drop_left, ← length_wordBytes b.toUInt32,
    List.take_left, littleEndian_wordBytes, UInt8.toNat_toUInt32]

theorem wordBytes_field (bytes : List UInt8) (place : Nat) (w : UInt32)
    (room : place + 4 ≤ bytes.length) (same : fieldAt bytes place = w.toNat) :
    wordBytes w = (bytes.drop place).take 4 := by
  apply eq_of_littleEndian
  · simp only [wordBytes, List.length_take, List.length_drop, List.length_cons, List.length_nil]
    omega
  · rw [littleEndian_wordBytes]
    exact same.symm

theorem length_readingBytes (r : Reading) : (readingBytes r).length = 12 := rfl

theorem fields_written (before after : List UInt8) (r : Reading) :
    let bytes := before ++ readingBytes r ++ after
    fieldAt bytes before.length = r.centis.toNat ∧
      fieldAt bytes (before.length + 4) = r.seconds.toNat ∧
      fieldAt bytes (before.length + 8) = r.minutes.toNat := by
  intro bytes
  refine ⟨?_, ?_, ?_⟩
  · have found := fieldAt_written before
      (wordBytes r.seconds.toUInt32 ++ wordBytes r.minutes.toUInt32 ++ after) r.centis
    simpa only [bytes, readingBytes, List.append_assoc] using found
  · have found := fieldAt_written (before ++ wordBytes r.centis.toUInt32)
      (wordBytes r.minutes.toUInt32 ++ after) r.seconds
    simpa only [bytes, readingBytes, List.append_assoc, List.length_append, length_wordBytes]
      using found
  · have found := fieldAt_written
      (before ++ wordBytes r.centis.toUInt32 ++ wordBytes r.seconds.toUInt32) after r.minutes
    simpa only [bytes, readingBytes, List.append_assoc, List.length_append, length_wordBytes]
      using found

theorem inRange_readingAt (bytes : List UInt8) (place : Nat) :
    (readingAt bytes place).inRange = true := Reading.inRange_ofNanos _

-- Where a sum or a product does not fit a word, the time is the greatest all the same.
theorem total_readingAt (bytes : List UInt8) (place : Nat)
    (room : place + 12 ≤ bytes.length) :
    (readingAt bytes place).total.toNat = min 599999 (centisAt bytes place) := by
  have centis := toNat_wordAt bytes place (by omega)
  have seconds := toNat_wordAt bytes (place + 4) (by omega)
  have minutes := toNat_wordAt bytes (place + 8) (by omega)
  have perMinute : UInt32.toNat 6000 = 6000 := rfl
  have perSecond : UInt32.toNat 100 = 100 := rfl
  have word : UInt32.size = 4294967296 := rfl
  rw [readingAt, readingOf, Reading.total_ofCentis, Saturating.toNat_add32,
    Saturating.toNat_add32, Saturating.toNat_mul32, Saturating.toNat_mul32, centis, seconds,
    minutes, perMinute, perSecond, centisAt]
  omega

theorem centisAt_written (before after : List UInt8) (r : Reading) :
    centisAt (before ++ readingBytes r ++ after) before.length = r.total.toNat := by
  obtain ⟨centis, seconds, minutes⟩ := fields_written before after r
  rw [centisAt, centis, seconds, minutes, Reading.toNat_total]
  omega

theorem readingAt_written (before after : List UInt8) (r : Reading)
    (fits : r.inRange = true) :
    readingAt (before ++ readingBytes r ++ after) before.length = r := by
  apply Reading.eq_of_total _ _ (inRange_readingAt _ _) fits
  have fields := (Reading.inRange_iff r).mp fits
  have total := Reading.toNat_total r
  rw [total_readingAt, centisAt_written]
  · omega
  · simp only [List.length_append, length_readingBytes]
    omega

theorem timeAt_written (before after : List UInt8) (r : Reading) (fits : r.inRange = true) :
    TimeAt (before ++ readingBytes r ++ after) before.length := by
  obtain ⟨centis, seconds, minutes⟩ := fields_written before after r
  have fields := (Reading.inRange_iff r).mp fits
  rw [TimeAt, centis, seconds, minutes]
  omega

theorem take_twelve (bytes : List UInt8) (place : Nat) :
    (bytes.drop place).take 12 =
      (bytes.drop place).take 4 ++ (bytes.drop (place + 4)).take 4 ++
        (bytes.drop (place + 8)).take 4 := by
  have first := List.take_add (l := bytes.drop place) (i := 8) (j := 4)
  have second := List.take_add (l := bytes.drop place) (i := 4) (j := 4)
  rw [List.drop_drop] at first second
  rw [first, second]

-- Fields that fit are the fields of the time that they add up to.
theorem readingBytes_readingAt (bytes : List UInt8) (place : Nat)
    (room : place + 12 ≤ bytes.length) (time : TimeAt bytes place) :
    readingBytes (readingAt bytes place) = (bytes.drop place).take 12 := by
  obtain ⟨centis, seconds, minutes⟩ := time
  have total := total_readingAt bytes place room
  have fields := (Reading.inRange_iff _).mp (inRange_readingAt bytes place)
  have sum := Reading.toNat_total (readingAt bytes place)
  rw [total, centisAt] at sum
  have first := wordBytes_field bytes place (readingAt bytes place).centis.toUInt32 (by omega)
    (by rw [UInt8.toNat_toUInt32]; omega)
  have second := wordBytes_field bytes (place + 4) (readingAt bytes place).seconds.toUInt32
    (by omega) (by rw [UInt8.toNat_toUInt32]; omega)
  have third := wordBytes_field bytes (place + 8) (readingAt bytes place).minutes.toUInt32
    (by omega) (by rw [UInt8.toNat_toUInt32]; omega)
  rw [readingBytes, first, second, third, take_twelve]

theorem length_toBytes (r : Record) : r.toBytes.length = size := rfl

theorem requireSize_full (length : Nat) (full : length = size) : requireSize length = .ok () :=
  if_pos full

theorem requireSize_other (length : Nat) (other : length ≠ size) :
    requireSize length = .error (.invalidRecordSize size length) := if_neg other

-- Writing goes through a buffer from its start, so what lies before the place is done.
theorem writeAt_append (done rest bytes : List UInt8) (place : Nat)
    (here : done.length = place) :
    writeAt (done ++ rest) place bytes = done ++ bytes ++ rest.drop bytes.length := by
  subst here
  rw [writeAt, List.take_left, ← List.drop_drop, List.drop_left]

/-- Nothing of what the buffer held is left. -/
theorem encodeInto_full (r : Record) (buffer : List UInt8) (full : buffer.length = size) :
    r.encodeInto buffer = (r.toBytes, .ok size) := by
  have first := writeAt_append [] buffer (readingBytes r.current) 0 rfl
  have second := writeAt_append (readingBytes r.current) (buffer.drop 12) (readingBytes r.lap)
    12 rfl
  have third := writeAt_append (readingBytes r.current ++ readingBytes r.lap) (buffer.drop 24)
    [if r.isEnd then 1 else 0] 24 rfl
  have fourth := writeAt_append
    (readingBytes r.current ++ readingBytes r.lap ++ [if r.isEnd then 1 else 0])
    (buffer.drop 25) [0, 0, 0] 25 rfl
  have none : buffer.drop 28 = [] := List.drop_of_length_le (Nat.le_of_eq full)
  simp only [List.nil_append, length_readingBytes] at first
  simp only [length_readingBytes, List.drop_drop, Nat.reduceAdd] at second
  simp only [List.length_cons, List.length_nil, List.drop_drop, Nat.reduceAdd] at third fourth
  rw [none, List.append_nil] at fourth
  rw [encodeInto, requireSize_full _ full]
  simp only [first, second, third, fourth]
  rw [toBytes, List.append_assoc _ [_]]
  rfl

theorem encodeInto_other (r : Record) (buffer : List UInt8) (other : buffer.length ≠ size) :
    r.encodeInto buffer = (buffer, .error (.invalidRecordSize size buffer.length)) := by
  rw [encodeInto, requireSize_other _ other]

theorem ofBytes_full (bytes : List UInt8) (full : bytes.length = size) :
    ofBytes bytes =
      .ok ⟨readingAt bytes 0, readingAt bytes 12, bytes.getD 24 0 != 0⟩ := by
  rw [ofBytes, requireSize_full _ full]

theorem ofBytes_toBytes (r : Record) (readable : r.Readable) : ofBytes r.toBytes = .ok r := by
  have current : readingAt r.toBytes 0 = r.current := by
    have found := readingAt_written []
      (readingBytes r.lap ++ [if r.isEnd then 1 else 0, 0, 0, 0]) r.current readable.1
    rwa [List.nil_append, ← List.append_assoc] at found
  have lap : readingAt r.toBytes 12 = r.lap :=
    readingAt_written (readingBytes r.current) [if r.isEnd then 1 else 0, 0, 0, 0] r.lap
      readable.2
  have mark : (r.toBytes.getD 24 0 != 0) = r.isEnd := by
    cases isEnd : r.isEnd <;> simp [toBytes, readingBytes, wordBytes, isEnd]
  rw [ofBytes_full _ (length_toBytes r), current, lap, mark]

theorem canonical_toBytes (r : Record) (readable : r.Readable) : Canonical r.toBytes := by
  constructor
  · have time := timeAt_written []
      (readingBytes r.lap ++ [if r.isEnd then 1 else 0, 0, 0, 0]) r.current readable.1
    rwa [List.nil_append, ← List.append_assoc] at time
  · exact timeAt_written (readingBytes r.current) [if r.isEnd then 1 else 0, 0, 0, 0] r.lap
      readable.2
  · cases isEnd : r.isEnd <;> simp [toBytes, readingBytes, wordBytes, isEnd]
  · rfl

/-- A canonical buffer is written again as it was. -/
theorem toBytes_readings (bytes : List UInt8) (full : bytes.length = size)
    (canonical : Canonical bytes) :
    toBytes ⟨readingAt bytes 0, readingAt bytes 12, bytes.getD 24 0 != 0⟩ = bytes := by
  have length : bytes.length = 28 := full
  have current := readingBytes_readingAt bytes 0 (by omega) canonical.current
  have lap := readingBytes_readingAt bytes 12 (by omega) canonical.lap
  have mark : (if (bytes.getD 24 0 != 0) = true then (1 : UInt8) else 0) = bytes.getD 24 0 := by
    rcases canonical.mark with zero | one
    · simp [zero]
    · simp [one]
  have tail : bytes.drop 24 = bytes.getD 24 0 :: [0, 0, 0] := by
    rw [List.drop_eq_getElem_cons (by omega), canonical.padding]
    simp [List.getElem?_eq_getElem (by omega : 24 < bytes.length)]
  have second : (bytes.drop 12).take 12 ++ bytes.drop 24 = bytes.drop 12 := by
    have parts := List.take_append_drop 12 (bytes.drop 12)
    rwa [List.drop_drop] at parts
  rw [toBytes, current, lap, mark, ← tail, List.append_assoc, second, List.drop_zero,
    List.take_append_drop]

theorem toBytes_ofBytes_iff (bytes : List UInt8) (full : bytes.length = size) :
    toBytes ⟨readingAt bytes 0, readingAt bytes 12, bytes.getD 24 0 != 0⟩ = bytes ↔
      Canonical bytes := by
  constructor
  · intro same
    rw [← same]
    exact canonical_toBytes _ ⟨inRange_readingAt bytes 0, inRange_readingAt bytes 12⟩
  · exact toBytes_readings bytes full

/-- Writing refuses a buffer of another size and leaves it alone, and fills all of a buffer
of the right size with the written form of the record. A record that a face can show is
read back. Any buffer of the right size is read: each time is what its three fields add up
to in exact numbers, up to the greatest time, and the end mark is any byte but zero.
Writing what was read gives the buffer again exactly where it was canonical. -/
theorem written_form (r : Record) (buffer : List UInt8) :
    ((∃ error, (r.encodeInto buffer).2 = .error error) ↔ buffer.length ≠ size) ∧
      (buffer.length ≠ size → (r.encodeInto buffer).1 = buffer) ∧
      (buffer.length = size → r.encodeInto buffer = (r.toBytes, .ok size)) ∧
      r.toBytes.length = size ∧
      (r.Readable → ofBytes r.toBytes = .ok r) ∧
      (buffer.length = size →
        ∃ found, ofBytes buffer = .ok found ∧ found.Readable ∧
          found.current.total.toNat = min 599999 (centisAt buffer 0) ∧
          found.lap.total.toNat = min 599999 (centisAt buffer 12) ∧
          (found.isEnd = true ↔ buffer[24]? ≠ some 0) ∧
          (found.toBytes = buffer ↔ Canonical buffer)) := by
  refine ⟨?_, ?_, encodeInto_full r buffer, length_toBytes r, ofBytes_toBytes r, ?_⟩
  · constructor
    · rintro ⟨error, refused⟩ full
      rw [encodeInto_full r buffer full] at refused
      cases refused
    · intro other
      exact ⟨_, by rw [encodeInto_other r buffer other]⟩
  · intro other
    rw [encodeInto_other r buffer other]
  · intro full
    have length : buffer.length = 28 := full
    refine ⟨_, ofBytes_full buffer full, ⟨inRange_readingAt buffer 0,
      inRange_readingAt buffer 12⟩, ?_, ?_, ?_, toBytes_ofBytes_iff buffer full⟩
    · exact total_readingAt buffer 0 (by omega)
    · exact total_readingAt buffer 12 (by omega)
    · simp [List.getElem?_eq_getElem (by omega : 24 < buffer.length)]

/-- An end mark is written over a buffer of the greatest bytes, and that buffer is read. -/
theorem written_form_greatest :
    let r : Record := ⟨⟨12, 34, 56⟩, .zero, true⟩
    let buffer : List UInt8 := List.replicate 28 255
    buffer.length = size ∧ r.Readable ∧ r.encodeInto buffer = (r.toBytes, .ok size) ∧
      ofBytes r.toBytes = .ok r ∧
      ∃ found, ofBytes buffer = .ok found ∧ found.Readable ∧
        found.current.total.toNat = 599999 ∧ found.isEnd = true ∧ found.toBytes ≠ buffer ∧
        ¬ Canonical buffer ∧ (r.encodeInto [1, 2, 3]).1 = [1, 2, 3] := by
  intro r buffer
  have full : buffer.length = size := rfl
  have readable : r.Readable := ⟨by decide, by decide⟩
  obtain ⟨-, -, writes, -, reads, decodes⟩ := written_form r buffer
  obtain ⟨found, read, fits, total, -, mark, canonical⟩ := decodes full
  have bent : ¬ Canonical buffer := fun canonical =>
    absurd canonical.current.1 (by decide +kernel)
  have capped : min 599999 (centisAt buffer 0) = 599999 := by decide +kernel
  refine ⟨full, readable, writes full, reads readable, found, read, fits, total.trans capped,
    mark.mpr (by decide), ?_, bent, ?_⟩
  · exact fun same => bent (canonical.mp same)
  · exact (written_form r [1, 2, 3]).2.1 (by decide)

end Record

end LapTimer
