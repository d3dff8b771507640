import LapTimer.Http.Router
import LapTimer.Proofs.FittingLaps
import LapTimer.Proofs.JsonForms
import LapTimer.Proofs.ReadingText
import LapTimer.Proofs.WrittenRecord

/-! The ways to read an instrument: by the record, by a buffer, by a request, by a whole pass.
All of them share one cursor, and none of them loses anything on the way. -/

namespace LapTimer

/-- The record that a page tells of. Only the end mark may come without a lap, and it has
to. -/
def RecordView.record? (view : RecordView) : Option Record :=
  if view.lap.isNone = view.isEnd then do
    let current ← Reading.ofText? view.currentTime
    let lap ← match view.lap with
      | none => some .zero
      | some text => Reading.ofText? text
    return ⟨current, lap, view.isEnd⟩
  else none

/-- The record that the body of a response holds. -/
def Http.Response.record? (response : Response) : Option Record :=
  if response.status = 200 then do
    let envelope ← (Form.read? response.body : Option (Envelope RecordView))
    (← envelope.data).record?
  else none

/-- The times fit on a face, and there is no lap on an end mark. -/
structure Record.Told (record : Record) : Prop where
  readable : record.Readable
  blank : record.isEnd = true → record.lap = .zero

theorem RecordView.record?_ofRecord {record : Record} (told : record.Told) :
    (RecordView.ofRecord record).record? = some record := by
  obtain ⟨current, lap, isEnd⟩ := record
  have currentText := Reading.ofText?_text told.readable.1
  have lapText := Reading.ofText?_text told.readable.2
  have blank := told.blank
  cases isEnd with
  | false => simp_all [RecordView.record?, RecordView.ofRecord]
  | true => simp_all [RecordView.record?, RecordView.ofRecord]

theorem Http.record?_page {record : Record} (told : record.Told) :
    (Reply.page (.record (.ofRecord record))).response.record? = some record := by
  have body : (Reply.page (.record (.ofRecord record))).response.body =
      Form.write (Envelope.ok (RecordView.ofRecord record)) := rfl
  have status : (Reply.page (.record (.ofRecord record))).response.status = 200 := rfl
  rw [Response.record?, if_pos status, body, Form.read?_write]
  exact RecordView.record?_ofRecord told

/-- A read gives the lap under the cursor, and where none is left between the cursor and
the tail, the end. -/
theorem LapBook.readNext_cases (book : LapBook) :
    (∃ place lap, book.readCursor = .lap place ∧ book.laps[place]? = some lap ∧
        book.readNext = ({ book with readCursor := book.beyond place }, .lap lap.time)) ∨
      book.lapsLeft = 0 ∧ (book.readNext.2 = .empty ∨ book.readNext.2 = .tail) := by
  by_cases none : book.laps = []
  · right
    refine ⟨?_, .inl (by simp [readNext, none])⟩
    unfold lapsLeft
    split <;> simp [count, none]
  · have held : book.laps.isEmpty = false := by simpa using none
    cases stands : book.readCursor with
    | tail => exact .inr ⟨by simp [lapsLeft, stands], .inr (by simp [readNext, held, stands])⟩
    | lap place =>
        cases found : book.laps[place]? with
        | some lap =>
            exact .inl ⟨place, lap, rfl, found, by simp [readNext, held, stands, get?, found]⟩
        | none =>
            have past : book.count ≤ place := List.getElem?_eq_none_iff.mp found
            refine .inr ⟨?_, .inr (by simp [readNext, held, stands, get?, found])⟩
            simp only [lapsLeft, stands]
            omega

/-- A lap that is read is no longer left to be read. -/
theorem LapBook.lapsLeft_beyond (book : LapBook) {place : Nat} {lap : Lap}
    (stands : book.readCursor = .lap place) (found : book.laps[place]? = some lap) :
    book.lapsLeft = LapBook.lapsLeft { book with readCursor := book.beyond place } + 1 := by
  have inside : place < book.count := (List.getElem?_eq_some_iff.mp found).1
  by_cases more : place + 1 < book.count
  · have moved : book.beyond place = .lap (place + 1) := if_pos more
    have same : LapBook.count { book with readCursor := .lap (place + 1) } = book.count := rfl
    simp only [lapsLeft, stands, moved, same]
    omega
  · have moved : book.beyond place = .tail := if_neg more
    simp only [lapsLeft, stands, moved]
    omega

theorem Stopwatch.lapsLeft_ended (watch : Stopwatch) (now : UInt64)
    (ends : (watch.readRecord now).2.isEnd = true) : watch.book.lapsLeft = 0 := by
  rcases watch.book.readNext_cases with ⟨place, lap, -, -, read⟩ | ⟨left, -⟩
  · simp [readRecord, read, Record.ofStep] at ends
  · exact left

theorem Stopwatch.lapsLeft_going (watch : Stopwatch) (now : UInt64)
    (goes : (watch.readRecord now).2.isEnd = false) :
    watch.book.lapsLeft = (watch.readRecord now).1.book.lapsLeft + 1 := by
  rcases watch.book.readNext_cases with ⟨place, lap, stands, found, read⟩ | ⟨-, empty | tail⟩
  · simp only [readRecord, read]
    exact watch.book.lapsLeft_beyond stands found
  · simp [readRecord, empty, Record.ofStep] at goes
  · simp [readRecord, tail, Record.ofStep] at goes

theorem Stopwatch.told_readRecord (watch : Stopwatch) (now : UInt64) (fit : watch.LapsFit) :
    (watch.readRecord now).2.Told := by
  have current := watch.reading_fits now
  rcases watch.book.readNext_cases with ⟨place, lap, -, found, read⟩ | ⟨-, ends⟩
  · have held : lap ∈ watch.book.laps := List.mem_of_getElem? found
    simp only [readRecord, read, Record.ofStep]
    exact ⟨⟨current, fit lap held⟩, fun ends => absurd ends Bool.false_ne_true⟩
  · rcases ends with empty | tail
    · simp only [readRecord, empty, Record.ofStep]
      exact ⟨⟨current, rfl⟩, fun _ => rfl⟩
    · simp only [readRecord, tail, Record.ofStep]
      exact ⟨⟨current, rfl⟩, fun _ => rfl⟩

inductive ReadWay where
  | plain
  | buffer (bytes : List UInt8) (sized : bytes.length = Record.size)
  | request (welcome : Bool) (request : Http.Request) (posted : request.method = "POST")
      (asks : Http.Resource.ofPath? request.path = some .record)

namespace Instrument

variable {P L : Type}

/-- Reads a record in one of the ways, with what the reader makes of the answer. -/
def readBy (unit : Instrument P L) : ReadWay → Instrument P L × Option Record
  | .plain =>
      let (next, record) := unit.readRecord
      (next, some record)
  | .buffer bytes _ =>
      match unit.readInto bytes with
      | (next, filled, .ok _) => (next, (Record.ofBytes filled).toOption)
      | (next, _, .error _) => (next, none)
  | .request welcome request _ _ =>
      let (next, response) := Http.serve welcome unit request
      (next, response.record?)

theorem readInto_sized (unit : Instrument P L) (bytes : List UInt8)
    (sized : bytes.length = Record.size) :
    unit.readInto bytes = (unit.readRecord.1, unit.readRecord.2.toBytes, .ok Record.size) := by
  simp only [readInto, Record.requireSize_full _ sized, Record.encodeInto_full _ _ sized]

theorem serve_posted (unit : Instrument P L) (welcome : Bool) (request : Http.Request)
    (posted : request.method = "POST")
    (asks : Http.Resource.ofPath? request.path = some .record) :
    (Http.serve welcome unit request).1 = unit.readRecord.1 ∧
      (Http.serve welcome unit request).2.record? =
        (Http.Reply.page (.record (.ofRecord unit.readRecord.2))).response.record? := by
  have method : request.method ≠ "OPTIONS" ∧ request.method ≠ "HEAD" ∧
      request.method ≠ "GET" := by simp [posted]
  have replied : Http.onResource unit request .record = Http.postRecord unit := by
    simp [Http.onResource, posted]
  have routed : Http.route unit request = (unit.readRecord.1,
      (Http.Reply.page (.record (.ofRecord unit.readRecord.2))).response) := by
    simp only [Http.route, asks, replied, Http.postRecord, method.2.1, ↓reduceIte]
  cases welcome with
  | false => simp [Http.serve, routed]
  | true => simp [Http.serve, routed, method.1, Http.Response.record?]

theorem told_readRecord (unit : Instrument P L) (fit : unit.watch.LapsFit) :
    unit.readRecord.2.Told := unit.watch.told_readRecord unit.now fit

/-- Whatever the way, the reader gets the record that the plain way gives. -/
theorem readBy_plain (unit : Instrument P L) (fit : unit.watch.LapsFit) (way : ReadWay) :
    unit.readBy way = (unit.readRecord.1, some unit.readRecord.2) := by
  have told := told_readRecord unit fit
  cases way with
  | plain => rfl
  | buffer bytes sized =>
      simp only [readBy, readInto_sized unit bytes sized,
        Record.ofBytes_toBytes _ told.readable]
      rfl
  | request welcome request posted asks =>
      obtain ⟨moved, answered⟩ := serve_posted unit welcome request posted asks
      simp only [readBy]
      rw [moved, answered, Http.record?_page told]

variable [Sink P Display.Write] [Sink L Switch]

/-- The plain reads that a pass stands for: one for each lap that is left, and one for the
end mark. -/
def passOps (unit : Instrument P L) : List InstrumentOp :=
  List.replicate (unit.watch.book.lapsLeft + 1) .readRecord

/-- The results of plain reads tell of the pass: its laps, then an end mark with its time. -/
def PassTold (pass : Pass) (results : List InstrumentResult) : Prop :=
  ∃ (laps : List Record) (last : Record),
    results = laps.map .record ++ [.record last] ∧ (∀ record ∈ laps, record.isEnd = false) ∧
      last.isEnd = true ∧ pass = ⟨last.current, laps.map Record.lap⟩

theorem readPass_plain (unit : Instrument P L) :
    unit.readPass.1 = (unit.run unit.passOps).1 ∧
      PassTold unit.readPass.2 (unit.run unit.passOps).2 := by
  obtain ⟨watch, now, panel, lamps⟩ := unit
  induction watch using Stopwatch.readPass.induct now with
  | case1 watch read ends =>
      have ops : passOps (⟨watch, now, panel, lamps⟩ : Instrument P L) = [.readRecord] := by
        simp only [passOps, watch.lapsLeft_ended now ends]
        rfl
      rw [ops, readPass, Stopwatch.readPass, dif_pos ends]
      have none : ∀ record ∈ ([] : List Record), record.isEnd = false :=
        fun _ inside => absurd inside List.not_mem_nil
      exact ⟨rfl, [], read.2, rfl, none, ends, rfl⟩
  | case2 watch read goes final pass rest ih =>
      have going : (watch.readRecord now).2.isEnd = false := eq_false_of_ne_true goes
      have ops : passOps (⟨watch, now, panel, lamps⟩ : Instrument P L) =
          .readRecord :: passOps (⟨read.1, now, panel, lamps⟩ : Instrument P L) := by
        simp only [passOps, watch.lapsLeft_going now going]
        rfl
      obtain ⟨moved, laps, last, results, lapped, ended, told⟩ := ih
      rw [ops, readPass, Stopwatch.readPass, dif_neg goes]
      refine ⟨moved, read.2 :: laps, last, ?_, ?_, ended, ?_⟩
      · exact congrArg (InstrumentResult.record read.2 :: ·) results
      · rintro record inside
        rcases List.mem_cons.mp inside with rfl | later
        · exact going
        · exact lapped record later
      · exact congrArg (fun pass : Pass => { pass with laps := read.2.lap :: pass.laps }) told

end Instrument

def InstrumentResult.record? : InstrumentResult → Option Record
  | .record read => some read
  | _ => none

inductive Visit where
  | read (way : ReadWay)
  | drain
  | other (op : InstrumentOp)

inductive VisitAnswer where
  | record (record : Option Record)
  | pass (pass : Pass)
  | other (result : InstrumentResult)

/-- The answers to visits tell what the results of plain reads do, in the same order. A pass
tells of all results up to an end mark. -/
inductive SameTold : List VisitAnswer → List InstrumentResult → Prop
  | nil : SameTold [] []
  | record {answers : List VisitAnswer} {results : List InstrumentResult} (record : Record)
      (later : SameTold answers results) :
      SameTold (.record (some record) :: answers) (.record record :: results)
  | pass {answers : List VisitAnswer} {results told : List InstrumentResult} {pass : Pass}
      (tells : Instrument.PassTold pass told) (later : SameTold answers results) :
      SameTold (.pass pass :: answers) (told ++ results)
  | other {answers : List VisitAnswer} {results : List InstrumentResult}
      (result : InstrumentResult) (later : SameTold answers results) :
      SameTold (.other result :: answers) (result :: results)

namespace Instrument

variable {P L : Type} [Sink P Display.Write] [Sink L Switch]

def visit (unit : Instrument P L) : Visit → Instrument P L × VisitAnswer
  | .read way =>
      let (next, record) := unit.readBy way
      (next, .record record)
  | .drain =>
      let (next, pass) := unit.readPass
      (next, .pass pass)
  | .other op =>
      let (next, result) := unit.step op
      (next, .other result)

/-- The final instrument and the answer to every visit in turn. -/
abbrev visits (unit : Instrument P L) (visits : List Visit) :
    Instrument P L × List VisitAnswer :=
  runBy visit unit visits

/-- What a visit comes down to with plain reads alone. -/
def plainVisit (unit : Instrument P L) : Visit → List InstrumentOp
  | .read _ => [.readRecord]
  | .drain => unit.passOps
  | .other op => [op]

/-- The run with plain reads alone that visits come down to. -/
def plainRun (unit : Instrument P L) : List Visit → List InstrumentOp
  | [] => []
  | visit :: rest =>
      let ops := unit.plainVisit visit
      ops ++ (unit.run ops).1.plainRun rest

/-- Each visit by itself does and tells what its plain reads do. -/
theorem visit_plain (unit : Instrument P L) (fit : unit.watch.LapsFit) (visit : Visit) :
    (unit.visit visit).1 = (unit.run (unit.plainVisit visit)).1 ∧
      ∀ answers results, SameTold answers results →
        SameTold ((unit.visit visit).2 :: answers)
          ((unit.run (unit.plainVisit visit)).2 ++ results) := by
  cases visit with
  | read way =>
      simp only [Instrument.visit, unit.readBy_plain fit way]
      exact ⟨rfl, fun _ _ later => .record unit.readRecord.2 later⟩
  | drain =>
      obtain ⟨moved, told⟩ := unit.readPass_plain
      exact ⟨moved, fun _ _ later => .pass told later⟩
  | other op => exact ⟨rfl, fun _ _ later => .other (unit.step op).2 later⟩

theorem lapsFit_run (unit : Instrument P L) (ops : List InstrumentOp)
    (fit : unit.watch.LapsFit) : (unit.run ops).1.watch.LapsFit :=
  runBy_keeps (fun unit => unit.watch.LapsFit)
    (step_keeps Stopwatch.LapsFit Stopwatch.lapsFit_step) unit fit ops

theorem visits_plain (unit : Instrument P L) (fit : unit.watch.LapsFit) (visits : List Visit) :
    (unit.visits visits).1 = (unit.run (unit.plainRun visits)).1 ∧
      SameTold (unit.visits visits).2 (unit.run (unit.plainRun visits)).2 := by
  induction visits generalizing unit with
  | nil => exact ⟨rfl, .nil⟩
  | cons visit rest ih =>
      obtain ⟨moved, told⟩ := unit.visit_plain fit visit
      have kept := unit.lapsFit_run (unit.plainVisit visit) fit
      obtain ⟨alike, answered⟩ := ih (unit.run (unit.plainVisit visit)).1 kept
      simp only [runBy, plainRun, runBy_append, moved]
      exact ⟨alike, told _ _ answered⟩

/--
However an instrument came to be as it is, and whatever its readers and all others do next,
each record that is read is the record of the run in which nobody reads but in the plain
way, each pass has the laps and the time of the reads that it stands for, and the two runs
end alike.
-/
theorem reader_ways_agree (unit : Instrument P L) (reached : unit.Reached)
    (visits : List Visit) :
    (unit.visits visits).1 = (unit.run (unit.plainRun visits)).1 ∧
      SameTold (unit.visits visits).2 (unit.run (unit.plainRun visits)).2 :=
  visits_plain unit reached.lapsFit visits

/-- Two laps are read as bytes and through a request; then comes the end mark, and a pass. -/
theorem reader_ways_agree_mixed :
    let unit : Instrument Display.Panel LampBank :=
      { watch := ({} : TimerSettings).watch, panel := {}, lamps := {} }
    let post : Http.Request := { method := "POST", target := "/api/record?again" }
    let visits : List Visit := [.other (.press .run), .other (.moveClock (.advanceSeconds 61)),
      .other (.press .lap), .other (.moveClock (.advanceSeconds 1)), .other (.setMode .split),
      .other (.press .lap), .read (.buffer (List.replicate 28 0xff) rfl),
      .read (.request true post rfl (by decide)), .read .plain, .drain]
    unit.Reached ∧ (unit.visits visits).1 = (unit.run (unit.plainRun visits)).1 ∧
      SameTold (unit.visits visits).2 (unit.run (unit.plainRun visits)).2 ∧
      (unit.run (unit.plainRun visits)).2.filterMap InstrumentResult.record? =
        [⟨⟨1, 2, 0⟩, ⟨1, 1, 0⟩, false⟩, ⟨⟨1, 2, 0⟩, ⟨1, 2, 0⟩, false⟩, ⟨⟨1, 2, 0⟩, .zero, true⟩,
          ⟨⟨1, 2, 0⟩, ⟨1, 1, 0⟩, false⟩, ⟨⟨1, 2, 0⟩, ⟨1, 2, 0⟩, false⟩,
          ⟨⟨1, 2, 0⟩, .zero, true⟩] := by
  intro unit post visits
  have reached : unit.Reached := .new {} 0 unit.panel unit.lamps
  obtain ⟨alike, told⟩ := reader_ways_agree unit reached visits
  exact ⟨reached, alike, told, by decide +kernel⟩

end Instrument

end LapTimer
