import LapTimer.Proofs.NetworkFrame
import LapTimer.Proofs.ReplayCourse
import LapTimer.Text.Bytes
import LapTimer.Text.Lines

/-! The laps and the time as they are told in several places. Attribute texts, answers to
requests and the status are written separately and tell the same. -/

namespace LapTimer

namespace Text

/-- The bytes can stand as a line: neither is there an end of a line inside, nor can a part
of it be taken for one. -/
def OneLine (bytes : List UInt8) : Prop := 0x0a ∉ bytes ∧ 0x0d ∉ bytes

theorem linesFrom_line (seen bytes rest : List UInt8) (unbroken : 0x0a ∉ bytes) :
    linesFrom seen (bytes ++ 0x0a :: rest) =
      closeLine (bytes.reverse ++ seen) :: linesFrom [] rest := by
  induction bytes generalizing seen with
  | nil => simp [linesFrom]
  | cons b more ih =>
      rw [List.mem_cons, not_or] at unbroken
      obtain ⟨other, later⟩ := unbroken
      have goes : (b == 0x0a) = false := by simpa using Ne.symm other
      simp only [List.cons_append, linesFrom, goes, Bool.false_eq_true, ↓reduceIte, ih _ later,
        List.reverse_cons, List.append_assoc, List.nil_append]

theorem closeLine_whole (bytes : List UInt8) (whole : 0x0d ∉ bytes) :
    closeLine bytes.reverse = bytes := by
  unfold closeLine
  split
  next seen last =>
      have inside : 0x0d ∈ bytes.reverse := last ▸ List.mem_cons_self
      exact absurd (List.mem_reverse.mp inside) whole
  next => exact bytes.reverse_reverse

theorem lines_closed (lines : List (List UInt8)) (each : ∀ line ∈ lines, OneLine line) :
    Text.lines (lines.flatMap fun line => line ++ [0x0a]) = lines := by
  unfold Text.lines
  induction lines with
  | nil => rfl
  | cons line rest ih =>
      obtain ⟨unbroken, whole⟩ := each line List.mem_cons_self
      have later := ih fun other inside => each other (List.mem_cons_of_mem line inside)
      simp only [List.flatMap_cons, List.append_assoc, List.singleton_append,
        linesFrom_line [] line _ unbroken, List.append_nil, closeLine_whole line whole, later]

theorem utf8_closed (texts : List String) :
    utf8 (String.join (texts.map fun text => text ++ "\n")) =
      (texts.map utf8).flatMap fun line => line ++ [0x0a] := by
  have newline : utf8 "\n" = [0x0a] := by decide
  induction texts with
  | nil => rfl
  | cons text rest ih =>
      simp only [utf8, String.join_cons, List.map_cons, List.flatMap_cons, String.toList_append,
        List.flatMap_append] at ih newline ⊢
      rw [ih, newline]

end Text

namespace Reading

/-- Minutes, seconds and hundredths with two digits each. -/
def Shaped (text : String) : Prop :=
  ∃ m m' s s' c c' : Char, text.toList = [m, m', ':', s, s', '.', c, c'] ∧
    ∀ digit ∈ [m, m', s, s', c, c'], digit.isDigit = true

/-- The readings that a text lists, one on each of its lines. -/
def listOfText? (text : String) : Option (List Reading) :=
  (Text.lines (Text.utf8 text)).mapM fun line => (Text.ofUtf8? line).bind ofText?

theorem digitChar_plain : ∀ d < 10, (Nat.digitChar d).isDigit = true ∧
    Text.OneLine (String.utf8EncodeChar (Nat.digitChar d)) := by
  unfold Text.OneLine
  decide

theorem digitChars_plain {n : UInt8} (fits : n.toNat ≤ 99) :
    ∀ c ∈ digitChars n, c.isDigit = true ∧ Text.OneLine (String.utf8EncodeChar c) := by
  simp only [digitChars, List.forall_mem_cons]
  exact ⟨digitChar_plain _ (by omega), digitChar_plain _ (by omega), List.forall_mem_nil _⟩

theorem text_shaped {r : Reading} (fits : r.inRange = true) : Shaped r.text := by
  obtain ⟨minutes, seconds, centis⟩ := (inRange_iff r).mp fits
  have shown : r.seconds.toNat ≤ 99 := by omega
  refine ⟨_, _, _, _, _, _, text_toList fits, ?_⟩
  have each := List.forall_mem_append.mpr ⟨digitChars_plain minutes,
    List.forall_mem_append.mpr ⟨digitChars_plain shown, digitChars_plain centis⟩⟩
  exact fun digit inside => (each digit inside).1

theorem text_oneLine {r : Reading} (fits : r.inRange = true) :
    Text.OneLine (Text.utf8 r.text) := by
  obtain ⟨minutes, seconds, centis⟩ := (inRange_iff r).mp fits
  have separator : Text.OneLine (String.utf8EncodeChar ':') ∧
      Text.OneLine (String.utf8EncodeChar '.') := by
    unfold Text.OneLine
    decide
  have each : ∀ c ∈ r.text.toList, Text.OneLine (String.utf8EncodeChar c) := by
    simp only [text_toList fits, List.forall_mem_append, List.forall_mem_cons]
    exact ⟨fun c inside => (digitChars_plain minutes c inside).2, separator.1,
      fun c inside => (digitChars_plain (by omega) c inside).2, separator.2,
      fun c inside => (digitChars_plain centis c inside).2⟩
  constructor
  · intro inside
    obtain ⟨c, held, broken⟩ := List.mem_flatMap.mp inside
    exact (each c held).1 broken
  · intro inside
    obtain ⟨c, held, closing⟩ := List.mem_flatMap.mp inside
    exact (each c held).2 closing

theorem text_inj {a b : Reading} (fits : a.inRange = true) (fits' : b.inRange = true)
    (same : a.text = b.text) : a = b := by
  have read : some a = some b := by rw [← ofText?_text fits, ← ofText?_text fits', same]
  exact Option.some.inj read

theorem lines_texts {readings : List Reading} (fit : ∀ r ∈ readings, r.inRange = true) :
    Text.lines (Text.utf8 (String.join (readings.map fun r => r.text ++ "\n"))) =
      readings.map fun r => Text.utf8 r.text := by
  have closed := Text.utf8_closed (readings.map text)
  rw [List.map_map, List.map_map] at closed
  have each : ∀ line ∈ readings.map (Text.utf8 ∘ text), Text.OneLine line := by
    intro line inside
    obtain ⟨r, held, rfl⟩ := List.mem_map.mp inside
    exact text_oneLine (fit r held)
  exact (congrArg Text.lines closed).trans (Text.lines_closed _ each)

theorem listOfText?_texts {readings : List Reading} (fit : ∀ r ∈ readings, r.inRange = true) :
    listOfText? (String.join (readings.map fun r => r.text ++ "\n")) = some readings := by
  have each : readings.mapM ((fun line => (Text.ofUtf8? line).bind ofText?) ∘
      fun r => Text.utf8 r.text) = some (readings.map id) :=
    Form.mapM_some fun r inside => by
      simp only [Function.comp_apply, Text.ofUtf8?_utf8, Option.bind_some,
        ofText?_text (fit r inside), id_eq]
  simp only [listOfText?, lines_texts fit, List.mapM_map, each, List.map_id]

end Reading

/-- The laps with these times, numbered from zero on. -/
def LapBook.numbered (times : List Reading) : List Lap :=
  times.mapIdx fun place time => ⟨.ofNat place, time⟩

/-- The laps that a text of their times tells of. -/
def LapBook.lapsOfText? (text : String) : Option (List Lap) :=
  (Reading.listOfText? text).map numbered

/-- The laps are numbered by their places in the book, which has room for all of them. -/
structure Stopwatch.Numbered (watch : Stopwatch) : Prop where
  bounded : watch.book.count ≤ LapBook.capacity
  places : watch.book.laps = LapBook.numbered (watch.book.laps.map Lap.time)

theorem Stopwatch.numbered_step (watch : Stopwatch) (now : UInt64) (op : WatchOp)
    (numbered : watch.Numbered) : (watch.step now op).1.Numbered := by
  refine ⟨watch.step_bounded now op numbered.bounded, ?_⟩
  cases watch.step_change now op with
  | added lap _ _ index _ grown _ =>
      have number : lap = ⟨.ofNat watch.book.count, lap.time⟩ := by
        rw [← index, UInt64.ofNat_toNat]
      rw [grown, List.map_append, LapBook.numbered, List.map_singleton, List.mapIdx_concat,
        List.length_map]
      exact congrArg₂ (· ++ [·]) numbered.places number
  | cleared _ _ emptied _ =>
      rw [emptied]
      rfl
  | unchanged _ _ same _ =>
      rw [same]
      exact numbered.places

theorem Instrument.Reached.numbered {P L : Type} [Sink P Display.Write] [Sink L Switch]
    {unit : Instrument P L} (reached : unit.Reached) : unit.watch.Numbered :=
  reached.keeps Stopwatch.Numbered Stopwatch.numbered_step fun _ => ⟨Nat.zero_le _, rfl⟩

theorem Stopwatch.Numbered.views {watch : Stopwatch} (numbered : watch.Numbered) :
    watch.book.laps.map LapView.ofLap =
      (watch.book.laps.map fun lap => lap.time.text).mapIdx
        fun place text => ⟨.ofNat place, text⟩ := by
  apply List.ext_getElem?
  intro place
  have here := congrArg (·[place]?) numbered.places
  simp only [LapBook.numbered, List.getElem?_mapIdx, List.getElem?_map] at here ⊢
  cases found : watch.book.laps[place]? with
  | none => rfl
  | some lap =>
      rw [found] at here
      simp only [Option.map_some, Option.some.injEq] at here ⊢
      rw [LapView.ofLap, here]

theorem Stopwatch.Numbered.count {watch : Stopwatch} (numbered : watch.Numbered) :
    (UInt64.ofNat watch.book.count).toNat = watch.book.laps.length :=
  UInt64.toNat_ofNat_of_lt' (Nat.lt_of_le_of_lt numbered.bounded (by decide))

namespace Http

/-- The data in a successful answer. -/
def Response.data? (α : Type) [Form α] (response : Response) : Option α :=
  if response.status = 200 then (Form.read? response.body : Option (Envelope α)).bind (·.data)
  else none

theorem data?_page {α : Type} [Form α] [Form.Lawful α] (page : Page) (view : α)
    (told : page.json = Form.toJson view) : (Reply.page page).response.data? α = some view := by
  have body : (Reply.page page).response.body = Form.write (Envelope.ok view) := by
    show ((Envelope.ok page).json Page.json).bytes = ((Envelope.ok view).json Form.toJson).bytes
    simp only [Envelope.json, Envelope.ok, Option.map_some, told]
  have status : (Reply.page page).response.status = 200 := rfl
  rw [Response.data?, if_pos status, body, Form.read?_write]
  rfl

variable {P L : Type}

/-- Whoever gets a resource is told its page. -/
theorem data?_get {α : Type} [Form α] [Form.Lawful α] (welcome : Bool) (unit : Instrument P L)
    (request : Request) (resource : Resource) (page : Page) (view : α)
    (get : request.method = "GET") (path : request.path = resource.path)
    (readable : resource.isReadable = true) (looks : look unit resource = .page page)
    (told : page.json = Form.toJson view) :
    (serve welcome unit request).2.data? α = some view := by
  have found := (Resource.ofPath?_eq_some request.path resource).mpr path
  have replied : (onResource unit request resource).2 = .page page := by
    simp [onResource, get, readable, looks]
  have routed : (route unit request).2 = (Reply.page page).response := by
    simp [route, found, replied, get]
  have read := data?_page page view told
  cases welcome with
  | false => simpa [serve, routed] using read
  | true => simpa [serve, get, routed, Response.data?] using read

end Http

namespace Instrument

variable {P L : Type} [Sink P Display.Write] [Sink L Switch]

/--
However an instrument came to be as it is, and whatever its clock says: the text of the laps
has one line for each lap, with its time in eight characters, and the laps can be read back
from it, numbers and all. The list of laps that is answered has the same texts, each with
its place. All counts are the number of those lines. The state has the time of the time
text, and beside it the number of hundredths that this text stands for. Of readings that fit
no two have the same text, and their texts stand in their order.
-/
theorem views_agree (unit : Instrument P L) (reached : unit.Reached) (now : UInt64) :
    let seen : Instrument P L := { unit with now }
    let laps := unit.watch.book.laps
    let texts := laps.map fun lap => lap.time.text
    Text.lines (Text.utf8 seen.lapsText) = texts.map Text.utf8 ∧
      (∀ text ∈ texts, Reading.Shaped text) ∧
      LapBook.lapsOfText? seen.lapsText = some laps ∧
      laps.length ≤ 128 ∧
      seen.lapCountText = toString laps.length ++ "\n" ∧
      seen.status.lapCount.toNat = laps.length ∧
      (∀ welcome (request : Http.Request), request.method = "GET" →
        let answer := (Http.serve welcome seen request).2
        (request.path = "/api/laps" → answer.data? (List LapView) =
          some (texts.mapIdx fun place text => ⟨.ofNat place, text⟩)) ∧
          (request.path = "/api/laps/count" → ∃ view, answer.data? CountView = some view ∧
            view.count.toNat = laps.length) ∧
          (request.path = "/api/state" → ∃ view time, answer.data? StateView = some view ∧
            view.lapCount.toNat = laps.length ∧
            seen.currentTimeText = view.currentTime ++ "\n" ∧
            Reading.Shaped view.currentTime ∧
            Reading.ofText? view.currentTime = some time ∧
            view.elapsedCentis.toNat =
              time.minutes.toNat * 6000 + time.seconds.toNat * 100 + time.centis.toNat)) ∧
      ∀ a b : Reading, a.inRange = true → b.inRange = true →
        (a.text = b.text → a = b) ∧ (a.text ≤ b.text ↔ a ≤ b) := by
  intro seen laps texts
  have numbered := reached.numbered
  have fit : ∀ time ∈ laps.map Lap.time, time.inRange = true := by
    intro time inside
    obtain ⟨lap, held, rfl⟩ := List.mem_map.mp inside
    exact reached.lapsFit lap held
  have told : seen.lapsText =
      String.join ((laps.map Lap.time).map fun time => time.text ++ "\n") := by
    rw [List.map_map]
    rfl
  refine ⟨?_, ?_, ?_, numbered.bounded, rfl, numbered.count, ?_, ?_⟩
  · rw [told, Reading.lines_texts fit, List.map_map, List.map_map]
    rfl
  · intro text inside
    obtain ⟨lap, held, rfl⟩ := List.mem_map.mp inside
    exact Reading.text_shaped (reached.lapsFit lap held)
  · rw [LapBook.lapsOfText?, told, Reading.listOfText?_texts fit]
    exact congrArg some numbered.places.symm
  · intro welcome request get answer
    refine ⟨?_, ?_, ?_⟩
    · intro path
      rw [← numbered.views]
      exact Http.data?_get welcome seen request .laps _ _ get path rfl rfl rfl
    · intro path
      have count := Http.data?_get welcome seen request .count _
        (⟨.ofNat seen.watch.book.count⟩ : CountView) get path rfl rfl rfl
      exact ⟨_, count, numbered.count⟩
    · intro path
      have fits := unit.watch.reading_fits now
      have state := Http.data?_get welcome seen request .state _
        (StateView.ofStatus seen.status) get path rfl rfl rfl
      exact ⟨_, _, state, numbered.count, rfl, Reading.text_shaped fits,
        Reading.ofText?_text fits, Reading.toNat_total _⟩
  · exact fun a b fits fits' => ⟨Reading.text_inj fits fits', Reading.text_le fits fits'⟩

/-- Two laps are taken, and asked for after another hundredth. -/
theorem views_agree_twoLaps :
    let start : Instrument Display.Panel LampBank :=
      { watch := ({} : TimerSettings).watch, panel := {}, lamps := {} }
    let ops : List InstrumentOp := [.press .run, .moveClock (.advanceSeconds 61), .press .lap,
      .moveClock (.advanceMillis 90), .press .lap]
    let unit := (start.run ops).1
    let seen : Instrument Display.Panel LampBank := { unit with now := unit.now + 10_000_000 }
    unit.Reached ∧ seen.lapsText = "01:01.00\n01:01.09\n" ∧
      LapBook.lapsOfText? seen.lapsText = some [⟨0, 1, 1, 0⟩, ⟨1, 1, 1, 9⟩] ∧
      ∀ request : Http.Request, request.method = "GET" → request.path = "/api/laps" →
        (Http.serve true seen request).2.data? (List LapView) =
          some [⟨0, "01:01.00"⟩, ⟨1, "01:01.09"⟩] := by
  intro start ops unit seen
  have reached : unit.Reached :=
    .operated (.operated (.operated (.operated (.operated (.new {} 0 start.panel start.lamps)
      (.press .run)) (.moveClock (.advanceSeconds 61))) (.press .lap))
      (.moveClock (.advanceMillis 90))) (.press .lap)
  obtain ⟨-, -, read, -, -, -, told, -⟩ := views_agree unit reached (unit.now + 10_000_000)
  refine ⟨reached, by decide +kernel, read.trans (by decide +kernel), ?_⟩
  intro request get path
  exact ((told true request get).1 path).trans (by decide +kernel)

end Instrument

end LapTimer
