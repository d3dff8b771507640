import LapTimer.Proofs.Moments
import LapTimer.Proofs.Turns

/-! Readers leave no mark but the read cursor, and a replay leaves none on the readers of a
book but the replay cursor. -/

namespace LapTimer

def BookOp.isRead : BookOp → Bool
  | .readNext => true
  | _ => false

def BookOp.isReplay : BookOp → Bool
  | .rewind => true
  | .replayNext => true
  | _ => false

namespace LapBook

/-- The book with its read cursor put away. -/
def unread (book : LapBook) : LapBook := { book with readCursor := .tail }

/-- The book with its replay cursor put away. -/
def unreplayed (book : LapBook) : LapBook := { book with replayCursor := .tail }

theorem unread_readNext (book : LapBook) : book.readNext.1.unread = book.unread := by
  unfold readNext
  split
  · rfl
  · split
    · split <;> rfl
    · rfl

theorem unreplayed_replayNext (book : LapBook) :
    book.replayNext.1.unreplayed = book.unreplayed := by
  unfold replayNext
  split
  · rfl
  · split <;> rfl

theorem replayNext_unread (book : LapBook) :
    book.unread.replayNext = (book.replayNext.1.unread, book.replayNext.2) := by
  obtain ⟨laps, readCursor, replayCursor⟩ := book
  cases replayCursor with
  | tail => rfl
  | lap place =>
      simp only [replayNext, unread, get?, beyond, count]
      cases laps[place]? <;> rfl

theorem readNext_unreplayed (book : LapBook) :
    book.unreplayed.readNext = (book.readNext.1.unreplayed, book.readNext.2) := by
  obtain ⟨laps, readCursor, replayCursor⟩ := book
  cases laps with
  | nil => rfl
  | cons first rest =>
      cases readCursor with
      | tail => rfl
      | lap place =>
          simp only [readNext, unreplayed, get?, beyond, count]
          cases (first :: rest)[place]? <;> rfl

theorem step_unread (book : LapBook) (op : BookOp) (other : op.isRead = false) :
    (book.unread.step op).2 = (book.step op).2 ∧
      (book.unread.step op).1.unread = (book.step op).1.unread := by
  cases op with
  | capture time =>
      have same : book.unread.count = book.count := rfl
      by_cases room : book.count < capacity
      · simp only [step, capture, same, room, ↓reduceIte, true_and]
        rfl
      · simp only [step, capture, same, room, ↓reduceIte, true_and]
        rfl
  | clear => exact ⟨rfl, rfl⟩
  | readNext => simp [BookOp.isRead] at other
  | rewind => exact ⟨rfl, rfl⟩
  | replayNext =>
      simp only [step, replayNext_unread, true_and]
      rfl

theorem step_unreplayed (book : LapBook) (op : BookOp) (other : op.isReplay = false) :
    (book.unreplayed.step op).2 = (book.step op).2 ∧
      (book.unreplayed.step op).1.unreplayed = (book.step op).1.unreplayed := by
  cases op with
  | capture time =>
      have same : book.unreplayed.count = book.count := rfl
      by_cases room : book.count < capacity
      · simp only [step, capture, same, room, ↓reduceIte, true_and]
        rfl
      · simp only [step, capture, same, room, ↓reduceIte, true_and]
        rfl
  | clear => exact ⟨rfl, rfl⟩
  | readNext =>
      simp only [step, readNext_unreplayed, true_and]
      rfl
  | rewind => simp [BookOp.isReplay] at other
  | replayNext => simp [BookOp.isReplay] at other

def readVeil : Veil LapBook BookOp BookResult where
  hushed := BookOp.isRead
  state := unread

def replayVeil : Veil LapBook BookOp BookResult where
  hushed := BookOp.isReplay
  state := unreplayed

theorem readVeil_tight : readVeil.Tight step where
  missed book op hushed := by
    cases op with
    | readNext => exact book.unread_readNext
    | _ => simp [readVeil, BookOp.isRead] at hushed
  others := step_unread

theorem replayVeil_tight : replayVeil.Tight step where
  missed book op hushed := by
    cases op with
    | rewind => rfl
    | replayNext => exact book.unreplayed_replayNext
    | _ => simp [replayVeil, BookOp.isReplay] at hushed
  others := step_unreplayed

end LapBook

namespace Stopwatch

/-- The stopwatch with the read cursor put away. -/
def unread (watch : Stopwatch) : Stopwatch := { watch with book := watch.book.unread }

theorem addLap_unread (watch : Stopwatch) (time : Reading) :
    (watch.unread.addLap time).2 = (watch.addLap time).2 ∧
      (watch.unread.addLap time).1.unread = (watch.addLap time).1.unread := by
  have same : watch.unread.book.count = watch.book.count := rfl
  by_cases room : watch.book.count < LapBook.capacity
  · simp only [addLap, LapBook.capture, same, room, ↓reduceIte]
    exact ⟨rfl, rfl⟩
  · simp only [addLap, LapBook.capture, same, room, ↓reduceIte, true_and]
    rfl

theorem leaveReplay_unread (watch : Stopwatch) (now : UInt64) :
    (watch.unread.leaveReplay now).2 = (watch.leaveReplay now).2 ∧
      (watch.unread.leaveReplay now).1.unread = (watch.leaveReplay now).1.unread := by
  refine ⟨rfl, ?_⟩
  have pending : watch.unread.replay.clearAfter = watch.replay.clearAfter := rfl
  simp only [leaveReplay, pending]
  split <;> rfl

theorem press_unread (watch : Stopwatch) (now : UInt64) (key : Key) :
    (watch.unread.press now key).2 = (watch.press now key).2 ∧
      (watch.unread.press now key).1.unread = (watch.press now key).1.unread := by
  have running : watch.unread.meter.running = watch.meter.running := rfl
  have active : watch.unread.replay.active = watch.replay.active := rfl
  cases key with
  | run =>
      simp only [press, running]
      split <;> exact ⟨rfl, rfl⟩
  | lap =>
      simp only [press, running]
      split
      · exact watch.addLap_unread (watch.reading now)
      · exact ⟨rfl, rfl⟩
  | replay =>
      simp only [press, active]
      split
      · obtain ⟨told, moved⟩ := watch.leaveReplay_unread now
        exact ⟨by rw [told], moved⟩
      · exact ⟨rfl, rfl⟩
  | reset =>
      simp only [press, running, reset, active]
      split
      · exact ⟨rfl, rfl⟩
      · split
        · obtain ⟨told, moved⟩ :=
            addLap_unread { watch with meter := watch.meter.reset.1, face := .zero }
              (watch.reading now)
          refine ⟨told, ?_⟩
          exact congrArg (fun next : Stopwatch =>
            { next with replay := { next.replay with clearAfter := true } }) moved
        · exact ⟨rfl, rfl⟩

theorem refresh_unread (watch : Stopwatch) (now : UInt64) :
    (watch.unread.refresh now).2 = (watch.refresh now).2 ∧
      (watch.unread.refresh now).1.unread = (watch.refresh now).1.unread := by
  have running : watch.unread.meter.running = watch.meter.running := rfl
  have forced : watch.unread.meter.stopAtLimit now = watch.meter.stopAtLimit now := rfl
  simp only [refresh, running, forced]
  split
  · exact ⟨rfl, rfl⟩
  · split <;> exact ⟨rfl, rfl⟩

theorem stepReplay_unread (watch : Stopwatch) (session : UInt32) (now : UInt64) :
    (watch.unread.stepReplay session now).2 = (watch.stepReplay session now).2 ∧
      (watch.unread.stepReplay session now).1.unread = (watch.stepReplay session now).1.unread := by
  have replay : watch.unread.replay = watch.replay := rfl
  have next : watch.unread.book.replayNext =
      (watch.book.replayNext.1.unread, watch.book.replayNext.2) := watch.book.replayNext_unread
  simp only [stepReplay, replay, next]
  split
  · exact ⟨rfl, rfl⟩
  · obtain ⟨book, shown⟩ := watch.book.replayNext
    cases shown with
    | some pair => exact ⟨rfl, rfl⟩
    | none =>
        obtain ⟨told, moved⟩ := watch.leaveReplay_unread now
        exact ⟨by simp only [told], moved⟩

theorem halt_unread (watch : Stopwatch) (now : UInt64) :
    (watch.unread.halt now).2 = (watch.halt now).2 ∧
      (watch.unread.halt now).1.unread = (watch.halt now).1.unread := by
  have stopped : watch.unread.meter.stop now = watch.meter.stop now := rfl
  simp only [halt, stopped]
  split <;> exact ⟨rfl, rfl⟩

theorem unread_readRecord (watch : Stopwatch) (now : UInt64) :
    (watch.readRecord now).1.unread = watch.unread :=
  congrArg (fun book => { watch with book }) watch.book.unread_readNext

theorem step_unread (watch : Stopwatch) (now : UInt64) (op : WatchOp) (other : op ≠ .readRecord) :
    (watch.unread.step now op).2 = (watch.step now op).2 ∧
      (watch.unread.step now op).1.unread = (watch.step now op).1.unread := by
  cases op with
  | press key =>
      obtain ⟨told, moved⟩ := watch.press_unread now key
      exact ⟨congrArg WatchResult.orders told, moved⟩
  | refresh =>
      obtain ⟨told, moved⟩ := watch.refresh_unread now
      exact ⟨congrArg WatchResult.render told, moved⟩
  | stepReplay session =>
      obtain ⟨told, moved⟩ := watch.stepReplay_unread session now
      exact ⟨congrArg WatchResult.replay told, moved⟩
  | readRecord => exact absurd rfl other
  | halt =>
      obtain ⟨told, moved⟩ := watch.halt_unread now
      exact ⟨congrArg WatchResult.stopped told, moved⟩
  | _ => exact ⟨rfl, rfl⟩

def readVeil : Veil Stopwatch (UInt64 × WatchOp) WatchResult where
  hushed entry := entry.2 == .readRecord
  state := unread

theorem readVeil_tight : readVeil.Tight stepAt where
  missed watch entry hushed := by
    obtain ⟨now, op⟩ := entry
    obtain rfl : op = .readRecord := by simpa [readVeil] using hushed
    exact watch.unread_readRecord now
  others watch entry hushed := by
    obtain ⟨now, op⟩ := entry
    exact watch.step_unread now op (by simpa [readVeil] using hushed)

theorem unread_readPass (watch : Stopwatch) (now : UInt64) :
    (watch.readPass now).1.unread = watch.unread := by
  induction watch using readPass.induct now with
  | case1 watch read ends =>
      rw [readPass, dif_pos ends]
      exact watch.unread_readRecord now
  | case2 watch read goes final pass rest ih =>
      rw [readPass, dif_neg goes]
      exact ih.trans (watch.unread_readRecord now)

end Stopwatch

/-- The texts that can be had of an instrument. -/
inductive Attribute where
  | running
  | currentTime
  | laps
  | lapCount
  | mode

/-- A turn, or a look at what can be told without one. -/
inductive Call where
  | turn (turn : Turn)
  | status
  | text (which : Attribute)

inductive Answer where
  | turn (result : InstrumentResult)
  | status (status : Status)
  | text (text : String)

def Call.isRead : Call → Bool
  | .turn .readRecord => true
  | .turn (.readInto _) => true
  | .turn .readPass => true
  | .turn _ => false
  | .status => true
  | .text _ => true

namespace Instrument

variable {P L : Type}

def textOf (unit : Instrument P L) : Attribute → String
  | .running => unit.runningText
  | .currentTime => unit.currentTimeText
  | .laps => unit.lapsText
  | .lapCount => unit.lapCountText
  | .mode => unit.modeText

/-- The instrument with the read cursor put away. -/
def unread (unit : Instrument P L) : Instrument P L := { unit with watch := unit.watch.unread }

theorem unread_with (unit : Instrument P L) {watch watch' : Stopwatch}
    (same : watch.unread = watch'.unread) :
    unread { unit with watch } = unread { unit with watch := watch' } := by
  simp only [unread, same]

theorem storeMode_unread (unit : Instrument P L) (text : String) :
    (unit.unread.storeMode text).2 = (unit.storeMode text).2 ∧
      (unit.unread.storeMode text).1.unread = (unit.storeMode text).1.unread := by
  unfold storeMode
  split <;> exact ⟨rfl, rfl⟩

theorem blinkRound_unread [Sink L Switch] (unit : Instrument P L) :
    unit.unread.blinkRound.2 = unit.blinkRound.2 ∧
      unit.unread.blinkRound.1.unread = unit.blinkRound.1.unread := by
  have told : unit.watch.unread.blink.2 = unit.watch.blink.2 := rfl
  simp only [blinkRound, unread]
  rw [told]
  cases unit.watch.blink.2 <;> exact ⟨rfl, rfl⟩

theorem unread_foldl [Sink L Switch] (unit : Instrument P L) (switches : List Switch) :
    (switches.foldl (fun unit switch => unit.setLamp switch.1 switch.2) unit).unread =
      switches.foldl (fun unit switch => unit.setLamp switch.1 switch.2) unit.unread := by
  induction switches generalizing unit with
  | nil => rfl
  | cons switch rest ih => exact ih (unit.setLamp switch.1 switch.2)

-- What a turn writes does not depend on the read cursor of the stopwatch that it leaves.
theorem renderWhen_unread [Sink P Display.Write] (unit : Instrument P L) (r : Reading)
    {watch watch' : Stopwatch} (same : watch.unread = watch'.unread) :
    (renderWhen { unit with watch } Stopwatch.isLive r).1.unread =
      (renderWhen { unit with watch := watch' } Stopwatch.isLive r).1.unread := by
  have live : watch.isLive = watch'.isLive := congrArg (fun watch => watch.isLive) same
  simp only [renderWhen, live]
  split
  · exact congrArg (fun unit => unit.render r) (unread_with unit same)
  · exact unread_with unit same

variable [Sink P Display.Write] [Sink L Switch]

def answer (unit : Instrument P L) : Call → Instrument P L × Answer
  | .turn turn =>
      let (next, result) := unit.step turn.op
      (next, .turn result)
  | .status => (unit, .status unit.status)
  | .text which => (unit, .text (unit.textOf which))

theorem unread_carryOut (unit : Instrument P L) (orders : Orders) :
    (unit.carryOut orders).unread = unit.unread.carryOut orders := by
  unfold carryOut
  cases orders.render with
  | none => exact unit.unread_foldl orders.lamps
  | some r => exact (unit.render r).unread_foldl orders.lamps

theorem carryOut_unread (unit : Instrument P L) (orders : Orders) {watch watch' : Stopwatch}
    (same : watch.unread = watch'.unread) :
    (carryOut { unit with watch } orders).unread =
      (carryOut { unit with watch := watch' } orders).unread := by
  rw [unread_carryOut, unread_carryOut, unread_with unit same]

theorem showLap_unread (unit : Instrument P L) (session : UInt32) (r : Reading)
    {watch watch' : Stopwatch} (same : watch.unread = watch'.unread) :
    (showLap { unit with watch } session r).1.unread =
      (showLap { unit with watch := watch' } session r).1.unread := by
  have replay : watch.replay = watch'.replay := congrArg (fun watch => watch.replay) same
  simp only [showLap, replay]
  split
  · exact congrArg (fun unit => (unit.render r).setLamp .replay true) (unread_with unit same)
  · exact unread_with unit same

theorem press_unread (unit : Instrument P L) (key : Key) :
    (unit.unread.press key).2 = (unit.press key).2 ∧
      (unit.unread.press key).1.unread = (unit.press key).1.unread := by
  obtain ⟨told, moved⟩ := unit.watch.press_unread unit.now key
  simp only [press, unread]
  rw [told]
  exact ⟨rfl, carryOut_unread unit _ moved⟩

theorem renderRound_unread (unit : Instrument P L) :
    unit.unread.renderRound.2 = unit.renderRound.2 ∧
      unit.unread.renderRound.1.unread = unit.renderRound.1.unread := by
  obtain ⟨told, moved⟩ := unit.watch.refresh_unread unit.now
  simp only [renderRound, unread]
  rw [told]
  cases (unit.watch.refresh unit.now).2 with
  | stopped orders => exact ⟨rfl, carryOut_unread unit orders moved⟩
  | go shown =>
      cases shown with
      | none => exact ⟨rfl, unread_with unit moved⟩
      | some r => exact ⟨rfl, renderWhen_unread unit r moved⟩

theorem replayRound_unread (unit : Instrument P L) (session : UInt32) :
    (unit.unread.replayRound session).2 = (unit.replayRound session).2 ∧
      (unit.unread.replayRound session).1.unread = (unit.replayRound session).1.unread := by
  obtain ⟨told, moved⟩ := unit.watch.stepReplay_unread session unit.now
  simp only [replayRound, unread]
  rw [told]
  cases (unit.watch.stepReplay session unit.now).2 with
  | lap r => exact ⟨rfl, showLap_unread unit session r moved⟩
  | finished orders => exact ⟨rfl, carryOut_unread unit orders moved⟩
  | stale => exact ⟨rfl, unread_with unit moved⟩

theorem answer_unread (unit : Instrument P L) (call : Call) (other : call.isRead = false) :
    (unit.unread.answer call).2 = (unit.answer call).2 ∧
      (unit.unread.answer call).1.unread = (unit.answer call).1.unread := by
  cases call with
  | status => simp [Call.isRead] at other
  | text which => simp [Call.isRead] at other
  | turn turn =>
      cases turn with
      | press key =>
          obtain ⟨told, moved⟩ := unit.press_unread key
          exact ⟨congrArg (fun orders => Answer.turn (.orders orders)) told, moved⟩
      | renderRound =>
          obtain ⟨told, moved⟩ := unit.renderRound_unread
          exact ⟨congrArg (fun outcome => Answer.turn (.render outcome)) told, moved⟩
      | replayRound session =>
          obtain ⟨told, moved⟩ := unit.replayRound_unread session
          exact ⟨congrArg (fun outcome => Answer.turn (.replay outcome)) told, moved⟩
      | blinkRound =>
          obtain ⟨told, moved⟩ := unit.blinkRound_unread
          exact ⟨congrArg (fun outcome => Answer.turn (.blink outcome)) told, moved⟩
      | storeMode text =>
          obtain ⟨told, moved⟩ := unit.storeMode_unread text
          simp only [answer, Turn.op, step, told, moved, and_self]
      | setMode mode => exact ⟨rfl, rfl⟩
      | moveClock move => exact ⟨rfl, rfl⟩
      | _ => simp [Call.isRead] at other

theorem unread_answer (unit : Instrument P L) (call : Call) (reads : call.isRead = true) :
    (unit.answer call).1.unread = unit.unread := by
  cases call with
  | status => rfl
  | text which => rfl
  | turn turn =>
      cases turn with
      | readRecord => exact unread_with unit (unit.watch.unread_readRecord unit.now)
      | readInto buffer =>
          simp only [answer, Turn.op, step, readInto]
          split
          · rfl
          · exact unread_with unit (unit.watch.unread_readRecord unit.now)
      | readPass => exact unread_with unit (unit.watch.unread_readPass unit.now)
      | _ => simp [Call.isRead] at reads

def readVeil (P L : Type) : Veil (Instrument P L) Call Answer where
  hushed := Call.isRead
  state := unread

theorem readVeil_tight : (readVeil P L).Tight answer where
  missed := unread_answer
  others := answer_unread

end Instrument

/-- Whether reads take place or not, all else on a stopwatch and on an instrument with its
devices goes the same, and only the read cursor ends elsewhere. On a book neither the reads
leave a mark on a replay nor the replay on the reads. -/
theorem readers_leave_no_mark {P L : Type} [Sink P Display.Write] [Sink L Switch] :
    Stopwatch.readVeil.LeavesNoMark Stopwatch.stepAt ∧
      (Instrument.readVeil P L).LeavesNoMark Instrument.answer ∧
      LapBook.readVeil.LeavesNoMark LapBook.step ∧
      LapBook.replayVeil.LeavesNoMark LapBook.step :=
  ⟨Stopwatch.readVeil_tight.leavesNoMark, Instrument.readVeil_tight.leavesNoMark,
    LapBook.readVeil_tight.leavesNoMark, LapBook.replayVeil_tight.leavesNoMark⟩

end LapTimer
