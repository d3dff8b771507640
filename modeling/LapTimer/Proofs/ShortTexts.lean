import LapTimer.Text.Bytes
import LapTimer.Text.Short

/-! Short texts cut by byte offsets. The offset is the byte length of the longest beginning
that fits, so neither the slice nor the push into the store fails. -/

namespace LapTimer.Text

/-- Each character with the offset of its first byte. -/
def charOffsets (start : Nat) : List Char → List (Nat × Char)
  | [] => []
  | c :: rest => (start, c) :: charOffsets (start + c.utf8Size) rest

/-- The offsets at which the characters end. -/
def charEnds (start : Nat) (cs : List Char) : List Nat :=
  (charOffsets start cs).map fun place => place.1 + place.2.utf8Size

/-- The last end of a character within the room, or the start of the text. -/
def cutEnd (s : String) : Nat :=
  ((charEnds 0 s.toList).takeWhile (· ≤ shortBytes)).getLast?.getD 0

/-- The text before an offset. There is none where the offset splits a character. -/
def slice? (s : String) (stop : Nat) : Option String :=
  if stop ≤ s.utf8ByteSize then ofUtf8? ((utf8 s).take stop) else none

/-- A store for a text of at most `shortBytes` bytes; a push tells whether there was room. -/
structure Store (κ : Type) where
  empty : κ
  text : κ → String
  push : κ → String → κ × Bool
  text_empty : text empty = ""
  push_fits : ∀ held more, (text held).utf8ByteSize + more.utf8ByteSize ≤ shortBytes →
    (push held more).2 = true ∧ text (push held more).1 = text held ++ more

/-- Slices the text at the cut and pushes what is before it; none where the slice fails. -/
def Store.shorten? {κ : Type} (store : Store κ) (s : String) : Option (κ × Bool) :=
  (slice? s (cutEnd s)).map (store.push store.empty)

theorem length_utf8 (s : String) : (utf8 s).length = s.utf8ByteSize := by
  rw [← String.size_toByteArray, ← toByteArray_utf8, List.size_toByteArray]

theorem slice?_append (front back : String) :
    slice? (front ++ back) front.utf8ByteSize = some front := by
  have bytes : utf8 (front ++ back) = utf8 front ++ utf8 back := by
    rw [utf8, String.toList_append, List.flatMap_append]
    rfl
  rw [slice?, if_pos (by simp), bytes, ← length_utf8, List.take_left]
  exact ofUtf8?_utf8 front

theorem takeBytes_prefix (room : Nat) (cs : List Char) : takeBytes room cs <+: cs := by
  induction cs generalizing room with
  | nil => exact List.nil_prefix
  | cons c rest ih =>
      rw [takeBytes]
      split
      · exact (List.prefix_cons_inj c).mpr (ih (room - c.utf8Size))
      · exact List.nil_prefix

/-- The character that stopped the cut goes beyond the room. -/
theorem takeBytes_maximal (room : Nat) (cs : List Char) :
    takeBytes room cs = cs ∨ ∃ next rest, cs = takeBytes room cs ++ next :: rest ∧
      room < (String.ofList (takeBytes room cs)).utf8ByteSize + next.utf8Size := by
  induction cs generalizing room with
  | nil => exact .inl rfl
  | cons c rest ih =>
      by_cases fits : c.utf8Size ≤ room
      · rw [takeBytes, if_pos fits, utf8ByteSize_cons]
        rcases ih (room - c.utf8Size) with whole | ⟨next, behind, cut, beyond⟩
        · exact .inl (by rw [whole])
        · refine .inr ⟨next, behind, congrArg (List.cons c) cut, ?_⟩
          omega
      · rw [takeBytes, if_neg fits]
        exact .inr ⟨c, rest, rfl, by simpa using fits⟩

/-- The walk over the ends of the characters comes to the end of what fits. -/
theorem cutEnd_from (limit start : Nat) (cs : List Char) (inside : start ≤ limit) :
    ((charEnds start cs).takeWhile (· ≤ limit)).getLast?.getD start =
      start + (String.ofList (takeBytes (limit - start) cs)).utf8ByteSize := by
  induction cs generalizing start with
  | nil => simp [charEnds, charOffsets, takeBytes]
  | cons c rest ih =>
      have ends : charEnds start (c :: rest) =
          (start + c.utf8Size) :: charEnds (start + c.utf8Size) rest := rfl
      rw [ends]
      by_cases fits : start + c.utf8Size ≤ limit
      · have room : c.utf8Size ≤ limit - start := by omega
        have left : limit - start - c.utf8Size = limit - (start + c.utf8Size) := by omega
        rw [List.takeWhile_cons_of_pos (by simpa using fits), List.getLast?_cons,
          Option.getD_some, ih (start + c.utf8Size) fits, takeBytes, if_pos room, left,
          utf8ByteSize_cons, Nat.add_assoc]
      · have room : ¬ c.utf8Size ≤ limit - start := by omega
        rw [List.takeWhile_cons_of_neg (by simpa using fits), takeBytes, if_neg room]
        simp

theorem cutEnd_eq (s : String) : cutEnd s = (Short.cut s).text.utf8ByteSize := by
  have walked := cutEnd_from shortBytes 0 s.toList (Nat.zero_le _)
  rwa [Nat.zero_add] at walked

namespace Short

theorem toList_cut (s : String) : (cut s).text.toList = takeBytes shortBytes s.toList :=
  String.toList_ofList

theorem cut_prefix (s : String) : (cut s).text.toList <+: s.toList := by
  rw [toList_cut]
  exact takeBytes_prefix shortBytes s.toList

theorem cut_maximal (s : String) :
    (cut s).text = s ∨ ∃ next rest, s = (cut s).text ++ String.ofList (next :: rest) ∧
      shortBytes < (cut s).text.utf8ByteSize + next.utf8Size := by
  rcases takeBytes_maximal shortBytes s.toList with whole | ⟨next, rest, parts, beyond⟩
  · exact .inl (String.toList_injective (by rw [toList_cut, whole]))
  · refine .inr ⟨next, rest, String.toList_injective ?_, beyond⟩
    rwa [String.toList_append, toList_cut, String.toList_ofList]

theorem cut_whole_iff (s : String) : (cut s).text = s ↔ s.utf8ByteSize ≤ shortBytes := by
  constructor
  · intro whole
    rw [← whole]
    exact (cut s).fits
  · intro fits
    rcases cut_maximal s with whole | ⟨next, rest, parts, beyond⟩
    · exact whole
    · have bytes := congrArg String.utf8ByteSize parts
      rw [String.utf8ByteSize_append, utf8ByteSize_cons] at bytes
      omega

theorem slice?_cutEnd (s : String) : slice? s (cutEnd s) = some (cut s).text := by
  obtain ⟨rest, whole⟩ := cut_prefix s
  have parts : s = (cut s).text ++ String.ofList rest :=
    String.toList_injective (by rw [String.toList_append, String.toList_ofList, whole])
  have sliced := slice?_append (cut s).text (String.ofList rest)
  rwa [← parts, ← cutEnd_eq] at sliced

theorem text_injective {a b : Short} (same : a.text = b.text) : a = b := by
  cases a
  cases b
  cases same
  rfl

def push (held : Short) (more : String) : Short × Bool :=
  if fits : (held.text ++ more).utf8ByteSize ≤ shortBytes then
    (⟨held.text ++ more, fits⟩, true)
  else (held, false)

def store : Store Short where
  empty := ⟨"", by decide⟩
  text := text
  push := push
  text_empty := rfl
  push_fits held more room := by
    rw [← String.utf8ByteSize_append] at room
    rw [push, dif_pos room]
    exact ⟨rfl, rfl⟩

/-- The slice is there, the push has room, and what is stored is the beginning of the text
in whole characters that fits in 64 bytes and cannot be longer: either nothing was cut, or
the next character goes beyond, and as it has at most four bytes, 61 are filled. Nothing is
cut exactly from a text of at most 64 bytes, so cutting again changes nothing. -/
theorem cut_longest {κ : Type} (store : Store κ) (s : String) :
    (∃ held, store.shorten? s = some (held, true) ∧ store.text held = (cut s).text) ∧
      (cut s).text.toList <+: s.toList ∧
      (cut s).text.utf8ByteSize ≤ 64 ∧
      ((cut s).text = s ∨ ∃ next rest, s = (cut s).text ++ String.ofList (next :: rest) ∧
        64 < (cut s).text.utf8ByteSize + next.utf8Size ∧ 61 ≤ (cut s).text.utf8ByteSize) ∧
      ((cut s).text = s ↔ s.utf8ByteSize ≤ 64) ∧
      cut (cut s).text = cut s := by
  refine ⟨?_, cut_prefix s, (cut s).fits, ?_, cut_whole_iff s, ?_⟩
  · have room : (store.text store.empty).utf8ByteSize + (cut s).text.utf8ByteSize ≤
        shortBytes := by
      rw [store.text_empty, String.utf8ByteSize_empty, Nat.zero_add]
      exact (cut s).fits
    obtain ⟨taken, holds⟩ := store.push_fits store.empty (cut s).text room
    refine ⟨(store.push store.empty (cut s).text).1, ?_, ?_⟩
    · rw [Store.shorten?, slice?_cutEnd, Option.map_some, ← taken]
    · rw [holds, store.text_empty, String.empty_append]
  · rcases cut_maximal s with whole | ⟨next, rest, parts, beyond⟩
    · exact .inl whole
    · have size := next.utf8Size_le_four
      unfold shortBytes at beyond
      exact .inr ⟨next, rest, parts, beyond, by omega⟩
  · exact text_injective ((cut_whole_iff (cut s).text).mpr (cut s).fits)

/-- Of thirty characters of three bytes, twenty-one fit. -/
theorem cut_longest_threeBytes :
    let s := String.ofList (List.replicate 30 '\u23f1')
    let kept := String.ofList (List.replicate 21 '\u23f1')
    (∃ held, store.shorten? s = some (held, true) ∧ held.text = kept) ∧
      kept.utf8ByteSize = 63 ∧ kept ≠ s ∧ (cut kept).text = kept := by
  intro s kept
  obtain ⟨⟨held, shortened, text⟩, -, -, -, whole, again⟩ := cut_longest store s
  have same : (cut s).text = kept := by decide +kernel
  have size : kept.utf8ByteSize = 63 := by decide +kernel
  refine ⟨⟨held, shortened, text.trans same⟩, size, ?_, ?_⟩
  · intro uncut
    exact absurd (whole.mp (same.trans uncut)) (by decide +kernel)
  · rw [← same, again]

end Short

end LapTimer.Text
