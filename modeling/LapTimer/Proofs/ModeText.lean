import LapTimer.Proofs.Declined

/-! Texts that name a mode: the digit of the mode with white space around it and nothing else.
-/

namespace LapTimer

namespace Text

/-- The characters with the Unicode property White_Space. -/
def whiteSpace : List Char :=
  ['\t', '\n', '\x0b', '\x0c', '\r', ' ', '\u0085', '\u00a0', '\u1680', '\u2000', '\u2001',
    '\u2002', '\u2003', '\u2004', '\u2005', '\u2006', '\u2007', '\u2008', '\u2009', '\u200a',
    '\u2028', '\u2029', '\u202f', '\u205f', '\u3000']

theorem isBlank_iff (c : Char) : isBlank c = true ↔ c ∈ whiteSpace := by
  have number (d : Char) : c = d ↔ c.toNat = d.toNat := Char.toNat_inj.symm
  simp only [isBlank, whiteSpace, List.mem_cons, List.not_mem_nil, or_false, number,
    Bool.or_eq_true, Bool.and_eq_true, decide_eq_true_eq, beq_iff_eq, Char.reduceToNat]
  omega

def AllBlank (cs : List Char) : Prop := ∀ c ∈ cs, c ∈ whiteSpace

theorem AllBlank.append {before after : List Char} (first : AllBlank before)
    (last : AllBlank after) : AllBlank (before ++ after) :=
  List.forall_mem_append.mpr ⟨first, last⟩

theorem AllBlank.reverse {cs : List Char} (blank : AllBlank cs) : AllBlank cs.reverse :=
  fun c held => blank c (List.mem_reverse.mp held)

/-- The text is this one with white space around it, and this one has none at its ends. -/
structure TrimsTo (text middle : String) : Prop where
  cut : ∃ before after, AllBlank before ∧ AllBlank after ∧
    text.toList = before ++ middle.toList ++ after
  first : ∀ c ∈ middle.toList.head?, c ∉ whiteSpace
  last : ∀ c ∈ middle.toList.getLast?, c ∉ whiteSpace

theorem trimStart_append (before cs : List Char) (blank : AllBlank before)
    (first : ∀ c ∈ cs.head?, c ∉ whiteSpace) : trimStart (before ++ cs) = cs := by
  rw [trimStart, List.dropWhile_append_of_pos fun c held => (isBlank_iff c).mpr (blank c held)]
  cases cs with
  | nil => rfl
  | cons c rest =>
      have solid : ¬ isBlank c = true := fun found => first c rfl ((isBlank_iff c).mp found)
      exact List.dropWhile_cons_of_neg solid

theorem trimStart_cut (cs : List Char) :
    ∃ before, AllBlank before ∧ cs = before ++ trimStart cs ∧
      ∀ c ∈ (trimStart cs).head?, c ∉ whiteSpace := by
  refine ⟨cs.takeWhile isBlank, ?_, List.takeWhile_append_dropWhile.symm, ?_⟩
  · intro c held
    exact (isBlank_iff c).mp (List.all_eq_true.mp List.all_takeWhile c held)
  · intro c stands blank
    have stopped := List.head?_dropWhile_not isBlank cs
    rw [← trimStart, Option.mem_def.mp stands] at stopped
    exact Bool.false_ne_true (stopped.symm.trans ((isBlank_iff c).mpr blank))

-- The end of a list is the start of the reversed one.
theorem trimEnd_append (cs after : List Char) (blank : AllBlank after)
    (last : ∀ c ∈ cs.getLast?, c ∉ whiteSpace) : trimEnd (cs ++ after) = cs := by
  rw [← List.head?_reverse] at last
  have trimmed := trimStart_append after.reverse cs.reverse blank.reverse last
  rw [trimEnd, List.reverse_append, ← trimStart, trimmed, List.reverse_reverse]

theorem trimEnd_cut (cs : List Char) :
    ∃ after, AllBlank after ∧ cs = trimEnd cs ++ after ∧
      ∀ c ∈ (trimEnd cs).getLast?, c ∉ whiteSpace := by
  obtain ⟨after, blank, cut, last⟩ := trimStart_cut cs.reverse
  refine ⟨after.reverse, blank.reverse, ?_, ?_⟩
  · rw [trimEnd, ← trimStart, ← List.reverse_append, ← cut, List.reverse_reverse]
  · rwa [trimEnd, ← trimStart, List.getLast?_reverse]

theorem trimsTo_trim (text : String) : TrimsTo text (trim text) := by
  obtain ⟨before, blank, cut, first⟩ := trimStart_cut text.toList
  obtain ⟨after, blank', cut', last⟩ := trimEnd_cut (trimStart text.toList)
  have middle : (trim text).toList = trimEnd (trimStart text.toList) := String.toList_ofList
  constructor
  · refine ⟨before, after, blank, blank', ?_⟩
    rw [middle, List.append_assoc, ← cut', ← cut]
  · intro c stands
    apply first c
    rw [middle] at stands
    rw [cut', List.head?_append, Option.mem_def.mp stands]
    rfl
  · rwa [middle]

theorem TrimsTo.trim_eq {text middle : String} (trims : TrimsTo text middle) :
    trim text = middle := by
  obtain ⟨before, after, blank, blank', cut⟩ := trims.cut
  have kept : trimEnd (trimStart text.toList) = middle.toList := by
    cases chars : middle.toList with
    | nil =>
        -- All of the text is white space, so trimming its start leaves nothing.
        rw [chars, List.append_nil] at cut
        have gone := trimStart_append (before ++ after) [] (blank.append blank') (by simp)
        rw [List.append_nil] at gone
        rw [cut, gone]
        rfl
    | cons c rest =>
        have first : ∀ d ∈ (c :: rest ++ after).head?, d ∉ whiteSpace := by
          intro d stands
          apply trims.first d
          rwa [chars]
        rw [cut, chars, List.append_assoc, trimStart_append before _ blank first]
        exact trimEnd_append (c :: rest) after blank' (chars ▸ trims.last)
  rw [trim, kept, String.ofList_toList]

end Text

namespace LapMode

def digit : LapMode → Char
  | absolute => '0'
  | split => '1'

/-- The text is the digit of the mode with white space around it. -/
def Spells (mode : LapMode) (text : String) : Prop :=
  ∃ before after, Text.AllBlank before ∧ Text.AllBlank after ∧
    text.toList = before ++ mode.digit :: after

theorem spells_iff (mode : LapMode) (text : String) :
    mode.Spells text ↔ Text.trim text = String.singleton mode.digit := by
  have chars : (String.singleton mode.digit).toList = [mode.digit] :=
    String.toList_singleton mode.digit
  have solid : mode.digit ∉ Text.whiteSpace := by cases mode <;> decide
  constructor
  · rintro ⟨before, after, blank, blank', cut⟩
    apply Text.TrimsTo.trim_eq
    constructor
    · exact ⟨before, after, blank, blank', by rw [chars, cut]; simp⟩
    · simpa [chars] using solid
    · simpa [chars] using solid
  · intro trimmed
    obtain ⟨before, after, blank, blank', cut⟩ := (Text.trimsTo_trim text).cut
    exact ⟨before, after, blank, blank', by rw [cut, trimmed, chars]; simp⟩

theorem parse_spelled {mode : LapMode} {text : String} (spells : mode.Spells text) :
    parse text = .ok mode := by
  rw [parse, (spells_iff mode text).mp spells]
  cases mode <;> rfl

theorem parse_unspelled {text : String} (other : ¬ ∃ mode : LapMode, mode.Spells text) :
    parse text = .error (.invalidLapMode (Text.trim text)) := by
  apply parse_other
  · exact fun zero => other ⟨absolute, (spells_iff absolute text).mpr zero⟩
  · exact fun one => other ⟨split, (spells_iff split text).mpr one⟩

end LapMode

namespace Instrument

variable {P L : Type}

theorem modeText_spells (unit : Instrument P L) : unit.watch.mode.Spells unit.modeText := by
  rw [LapMode.spells_iff, modeText]
  cases unit.watch.mode <;> decide

/-- A text is stored exactly if it names a mode. Then that is the mode, the number of bytes
of the whole text is told, and nothing else has changed. Any other text changes nothing and
is refused with what is left of it between the white space at its ends. The text that shows
the mode can be stored at once and changes nothing either. -/
theorem storeMode_grammar (unit : Instrument P L) (text : String) :
    ((∃ count, (unit.storeMode text).2 = .ok count) ↔ ∃ mode : LapMode, mode.Spells text) ∧
      (∀ mode : LapMode, mode.Spells text → unit.storeMode text =
        ({ unit with watch := { unit.watch with mode } }, .ok text.utf8ByteSize)) ∧
      ((¬ ∃ mode : LapMode, mode.Spells text) → ∃ middle, Text.TrimsTo text middle ∧
        unit.storeMode text = (unit, .error (.invalidLapMode middle))) ∧
      unit.storeMode unit.modeText = (unit, .ok unit.modeText.utf8ByteSize) := by
  have stored (text : String) (mode : LapMode) (spells : mode.Spells text) :
      unit.storeMode text =
        ({ unit with watch := { unit.watch with mode } }, .ok text.utf8ByteSize) := by
    rw [storeMode, LapMode.parse_spelled spells]
    rfl
  have refused (other : ¬ ∃ mode : LapMode, mode.Spells text) :
      unit.storeMode text = (unit, .error (.invalidLapMode (Text.trim text))) := by
    rw [storeMode, LapMode.parse_unspelled other]
  refine ⟨⟨?_, ?_⟩, stored text, ?_, stored _ _ unit.modeText_spells⟩
  · rintro ⟨count, ok⟩
    by_contra other
    rw [refused other] at ok
    cases ok
  · rintro ⟨mode, spells⟩
    exact ⟨_, congrArg Prod.snd (stored text mode spells)⟩
  · exact fun other => ⟨Text.trim text, Text.trimsTo_trim text, refused other⟩

/-- An ideographic space is white space of three bytes. A space without width is none, so
it is refused with the digit behind it. -/
theorem storeMode_grammar_wide :
    let unit : Instrument Display.Panel LampBank := { watch := {}, panel := {}, lamps := {} }
    let wide := "\u3000 1\u00a0\n"
    let odd := " \u200b1\n"
    LapMode.split.Spells wide ∧
      unit.storeMode wide = ({ unit with watch := { mode := .split } }, .ok 8) ∧
      (¬ ∃ mode : LapMode, mode.Spells odd) ∧
      unit.storeMode odd = (unit, .error (.invalidLapMode "\u200b1")) := by
  intro unit wide odd
  obtain ⟨-, stored, -⟩ := unit.storeMode_grammar wide
  obtain ⟨-, -, refused, -⟩ := unit.storeMode_grammar odd
  have trimmed : Text.trim odd = "\u200b1" := by decide +kernel
  have spells : LapMode.split.Spells wide := by
    refine ⟨['\u3000', ' '], ['\u00a0', '\n'], ?_, ?_, by decide⟩
    · simp [Text.AllBlank, Text.whiteSpace]
    · simp [Text.AllBlank, Text.whiteSpace]
  have other : ¬ ∃ mode : LapMode, mode.Spells odd := by
    rintro ⟨mode, spelled⟩
    rw [LapMode.spells_iff, trimmed] at spelled
    cases mode <;> exact absurd spelled (by decide)
  obtain ⟨middle, trims, told⟩ := refused other
  exact ⟨spells, stored .split spells, other, by rw [told, ← trims.trim_eq, trimmed]⟩

end Instrument

end LapTimer
