import LapTimer.Proofs.Transitions

/-! The history of the laps. A reset during a replay only marks the book, and the end of that
replay clears it, with all that was captured in between. -/

namespace LapTimer

/-- The lap that an operation tells of in its orders. -/
def WatchResult.newLap : WatchResult → Option Lap
  | .orders given => given.newLap
  | .render (.stopped given) => given.newLap
  | .replay (.finished given) => given.newLap
  | _ => none

namespace Stopwatch

def AcceptsReset (watch : Stopwatch) (op : WatchOp) : Prop :=
  op = .press .reset ∧ watch.meter.running = false

def EndsReplay (watch : Stopwatch) (now : UInt64) (op : WatchOp) : Prop :=
  op = .press .replay ∧ watch.replay.active = true ∨
    ∃ orders, (watch.step now op).2 = .replay (.finished orders)

def AddsLap (watch : Stopwatch) (op : WatchOp) : Prop :=
  watch.book.count < LapBook.capacity ∧
    (op = .press .lap ∧ watch.meter.running = true ∨
      AcceptsReset watch op ∧ watch.replay.active = true)

def ClearsLaps (watch : Stopwatch) (now : UInt64) (op : WatchOp) : Prop :=
  AcceptsReset watch op ∧ watch.replay.active = false ∨
    EndsReplay watch now op ∧ watch.replay.clearAfter = true ∨ op = .wipe

/-- The three things that an operation can do to the laps. -/
inductive LapChange (watch : Stopwatch) (now : UInt64) (op : WatchOp) (next : Stopwatch)
    (result : WatchResult) : Prop
  | added (lap : Lap) (adds : AddsLap watch op) (keeps : ¬ ClearsLaps watch now op)
      (index : lap.index.toNat = watch.book.count) (time : lap.time = watch.reading now)
      (grown : next.book.laps = watch.book.laps ++ [lap]) (told : result.newLap = some lap)
  | cleared (adds : ¬ AddsLap watch op) (clears : ClearsLaps watch now op)
      (emptied : next.book = {}) (told : result.newLap = none)
  | unchanged (adds : ¬ AddsLap watch op) (keeps : ¬ ClearsLaps watch now op)
      (same : next.book.laps = watch.book.laps) (told : result.newLap = none)

theorem addsLap_press (watch : Stopwatch) (key : Key) :
    AddsLap watch (.press key) ↔ watch.book.count < LapBook.capacity ∧
      (key = .lap ∧ watch.meter.running = true ∨
        key = .reset ∧ watch.meter.running = false ∧ watch.replay.active = true) := by
  simp [AddsLap, AcceptsReset, and_assoc]

theorem endsReplay_press (watch : Stopwatch) (now : UInt64) (key : Key) :
    EndsReplay watch now (.press key) ↔ key = .replay ∧ watch.replay.active = true := by
  simp [EndsReplay, step]

theorem clearsLaps_press (watch : Stopwatch) (now : UInt64) (key : Key) :
    ClearsLaps watch now (.press key) ↔
      key = .reset ∧ watch.meter.running = false ∧ watch.replay.active = false ∨
      key = .replay ∧ watch.replay.active = true ∧ watch.replay.clearAfter = true := by
  simp [ClearsLaps, AcceptsReset, endsReplay_press, and_assoc]

theorem captured_lap (book next : LapBook) (time : Reading) (lap : Lap)
    (captured : book.capture time = .ok (next, lap)) :
    book.count < LapBook.capacity ∧ lap.index.toNat = book.count ∧ lap.time = time ∧
      next.laps = book.laps ++ [lap] := by
  obtain ⟨room, rfl, grown, -, -⟩ := LapBook.capture_ok book next time lap captured
  have small : book.count < UInt64.size := Nat.lt_trans room (by decide)
  exact ⟨room, UInt64.toNat_ofNat_of_lt' small, rfl, grown⟩

theorem press_change (watch : Stopwatch) (now : UInt64) (key : Key) :
    LapChange watch now (.press key) (watch.press now key).1
      (.orders (watch.press now key).2) := by
  have row := press_row watch now key
  generalize (watch.press now key).1 = next at row ⊢
  generalize (watch.press now key).2 = orders at row ⊢
  cases row with
  | started rests =>
      exact .unchanged (by simp [addsLap_press]) (by simp [clearsLaps_press]) rfl rfl
  | stopped runs =>
      exact .unchanged (by simp [addsLap_press]) (by simp [clearsLaps_press]) rfl rfl
  | lapIgnored rests =>
      exact .unchanged (by simp [addsLap_press, rests]) (by simp [clearsLaps_press]) rfl rfl
  | @lapAdded book lap runs captured =>
      obtain ⟨room, index, time, grown⟩ := captured_lap _ _ _ _ captured
      exact .added lap ((addsLap_press watch .lap).mpr ⟨room, .inl ⟨rfl, runs⟩⟩)
        (by simp [clearsLaps_press]) index time grown rfl
  | lapDropped runs refused =>
      have full := (LapBook.capture_error _ _ _ refused).1
      exact .unchanged (fun adds => absurd adds.1 (Nat.not_lt_of_le full))
        (by simp [clearsLaps_press]) rfl rfl
  | replayBegun live =>
      exact .unchanged (by simp [addsLap_press]) (by simp [clearsLaps_press, live]) rfl rfl
  | replayLeft replays =>
      by_cases pending : watch.replay.clearAfter = true
      · exact .cleared (by simp [addsLap_press])
          ((clearsLaps_press watch now .replay).mpr (.inr ⟨rfl, replays, pending⟩))
          (by simp [leaveReplay, pending, LapBook.clear]) rfl
      · exact .unchanged (by simp [addsLap_press]) (by simp [clearsLaps_press, pending])
          (by simp [leaveReplay, pending]) rfl
  | resetIgnored runs =>
      exact .unchanged (by simp [addsLap_press, runs]) (by simp [clearsLaps_press, runs]) rfl rfl
  | resetCleared rests live =>
      exact .cleared (by simp [addsLap_press, live])
        ((clearsLaps_press watch now .reset).mpr (.inl ⟨rfl, rests, live⟩)) rfl rfl
  | @resetAdded book lap rests replays captured =>
      obtain ⟨room, index, time, grown⟩ := captured_lap _ _ _ _ captured
      exact .added lap ((addsLap_press watch .reset).mpr ⟨room, .inr ⟨rfl, rests, replays⟩⟩)
        (by simp [clearsLaps_press, replays]) index time grown rfl
  | resetDropped rests replays refused =>
      have full := (LapBook.capture_error _ _ _ refused).1
      exact .unchanged (fun adds => absurd adds.1 (Nat.not_lt_of_le full))
        (by simp [clearsLaps_press, replays]) rfl rfl

/-- The operations that ask nothing of the laps in any state. -/
def SparesLaps : WatchOp → Prop
  | .refresh | .blink | .readRecord | .halt | .setMode _ => True
  | _ => False

theorem spared_not_adding (watch : Stopwatch) (op : WatchOp) (spares : SparesLaps op) :
    ¬ AddsLap watch op := by
  rintro ⟨-, ⟨rfl, -⟩ | ⟨⟨rfl, -⟩, -⟩⟩
  · exact spares
  · exact spares

theorem spared_not_clearing (watch : Stopwatch) (now : UInt64) (op : WatchOp)
    (spares : SparesLaps op) : ¬ ClearsLaps watch now op := by
  rintro (⟨⟨rfl, -⟩, -⟩ | ⟨⟨rfl, -⟩ | ⟨orders, finished⟩, -⟩ | rfl)
  · exact spares
  · exact spares
  · cases op with
    | stepReplay session => exact spares
    | _ => simp [step] at finished
  · exact spares

theorem spared_change (watch next : Stopwatch) (now : UInt64) (op : WatchOp)
    (result : WatchResult) (spares : SparesLaps op) (same : next.book.laps = watch.book.laps)
    (told : result.newLap = none) : LapChange watch now op next result :=
  .unchanged (spared_not_adding watch op spares) (spared_not_clearing watch now op spares)
    same told

theorem refresh_change (watch : Stopwatch) (now : UInt64) :
    LapChange watch now .refresh (watch.refresh now).1 (.render (watch.refresh now).2) := by
  have row := refresh_row watch now
  generalize (watch.refresh now).1 = next at row ⊢
  generalize (watch.refresh now).2 = outcome at row ⊢
  cases row with
  | ended rests => exact spared_change _ _ _ _ _ trivial rfl rfl
  | forced runs reached => exact spared_change _ _ _ _ _ trivial rfl rfl
  | shown runs below => exact spared_change _ _ _ _ _ trivial rfl rfl

theorem endsReplay_stepReplay (watch : Stopwatch) (now : UInt64) (session : UInt32) :
    EndsReplay watch now (.stepReplay session) ↔
      ∃ orders, (watch.stepReplay session now).2 = .finished orders := by
  simp [EndsReplay, step]

theorem stepReplay_change (watch : Stopwatch) (session : UInt32) (now : UInt64) :
    LapChange watch now (.stepReplay session) (watch.stepReplay session now).1
      (.replay (watch.stepReplay session now).2) := by
  have adds : ¬ AddsLap watch (.stepReplay session) := by simp [AddsLap, AcceptsReset]
  have clears : ClearsLaps watch now (.stepReplay session) ↔
      (∃ orders, (watch.stepReplay session now).2 = .finished orders) ∧
        watch.replay.clearAfter = true := by
    simp [ClearsLaps, AcceptsReset, endsReplay_stepReplay]
  have row := stepReplay_row watch session now
  generalize (watch.stepReplay session now).1 = next at row ⊢
  generalize (watch.stepReplay session now).2 = outcome at row clears ⊢
  cases row with
  | stale other => exact .unchanged adds (by simp [clears]) rfl rfl
  | @shown book lap previous replays current next =>
      have same : book.laps = watch.book.laps := by
        rw [← LapBook.laps_replayNext watch.book, next]
      exact .unchanged adds (by simp [clears]) same rfl
  | ended replays current past =>
      by_cases pending : watch.replay.clearAfter = true
      · exact .cleared adds (clears.mpr ⟨⟨_, rfl⟩, pending⟩)
          (by simp [leaveReplay, pending, LapBook.clear]) rfl
      · exact .unchanged adds (by simp [clears, pending]) (by simp [leaveReplay, pending]) rfl

theorem step_change (watch : Stopwatch) (now : UInt64) (op : WatchOp) :
    LapChange watch now op (watch.step now op).1 (watch.step now op).2 := by
  cases op with
  | press key => exact press_change watch now key
  | refresh => exact refresh_change watch now
  | stepReplay session => exact stepReplay_change watch session now
  | blink => exact spared_change _ _ _ _ _ trivial rfl rfl
  | readRecord =>
      exact spared_change _ _ _ _ _ trivial (LapBook.laps_readNext watch.book) rfl
  | halt =>
      have same : (watch.halt now).1.book = watch.book := by
        by_cases runs : watch.meter.running = true
        · rw [halt_running watch now runs]
        · rw [halt_resting watch now (eq_false_of_ne_true runs)]
      exact spared_change _ _ _ _ _ trivial (congrArg LapBook.laps same) rfl
  | wipe =>
      exact .cleared (by simp [AddsLap, AcceptsReset]) (.inr (.inr rfl)) rfl rfl
  | setMode mode => exact spared_change _ _ _ _ _ trivial rfl rfl

theorem replay_ended (watch : Stopwatch) (now : UInt64) (op : WatchOp)
    (ends : EndsReplay watch now op) :
    (watch.step now op).1.replay =
      { watch.replay with active := false, clearAfter := false } := by
  rcases ends with ⟨rfl, replays⟩ | ⟨orders, finished⟩
  · simp [step, press, replays, leaveReplay]
  · cases op with
    | stepReplay session =>
        have row := stepReplay_row watch session now
        simp only [step, WatchResult.replay.injEq] at finished ⊢
        generalize (watch.stepReplay session now).1 = next at row ⊢
        rw [finished] at row
        cases row with
        | ended replays current past => rfl
    | _ => simp [step] at finished

-- A wipe and the end of a replay leave no replay, and a reset that clears met none.
theorem clears_not_replaying (watch : Stopwatch) (now : UInt64) (op : WatchOp)
    (clears : ClearsLaps watch now op) : (watch.step now op).1.replay.active = false := by
  rcases clears with ⟨⟨rfl, rests⟩, live⟩ | ⟨ends, -⟩ | rfl
  · simp [step, press, reset, rests, live]
  · rw [replay_ended watch now op ends]
  · rfl

theorem LapChange.keeps_laps {watch next : Stopwatch} {now : UInt64} {op : WatchOp}
    {result : WatchResult} (change : LapChange watch now op next result)
    (keeps : ¬ ClearsLaps watch now op) : watch.book.laps <+: next.book.laps := by
  cases change with
  | added lap _ _ _ _ grown _ => exact ⟨[lap], grown.symm⟩
  | cleared _ clears => exact absurd clears keeps
  | unchanged _ _ same => exact ⟨[], by rw [same, List.append_nil]⟩

theorem LapChange.grown_iff {watch next : Stopwatch} {now : UInt64} {op : WatchOp}
    {result : WatchResult} (change : LapChange watch now op next result) :
    (∃ lap, next.book.laps = watch.book.laps ++ [lap]) ↔ AddsLap watch op := by
  cases change with
  | added lap adds _ _ _ grown _ => exact iff_of_true ⟨lap, grown⟩ adds
  | cleared adds _ emptied => exact iff_of_false (by simp [emptied]) adds
  | unchanged adds _ same => exact iff_of_false (by simp [same]) adds

theorem LapChange.told_iff {watch next : Stopwatch} {now : UInt64} {op : WatchOp}
    {result : WatchResult} (change : LapChange watch now op next result) :
    result.newLap.isSome = true ↔ AddsLap watch op := by
  cases change with
  | added lap adds _ _ _ _ told => exact iff_of_true (by simp [told]) adds
  | cleared adds _ _ told => exact iff_of_false (by simp [told]) adds
  | unchanged adds _ _ told => exact iff_of_false (by simp [told]) adds

theorem LapChange.emptied_iff {watch next : Stopwatch} {now : UInt64} {op : WatchOp}
    {result : WatchResult} (change : LapChange watch now op next result)
    (held : watch.book.laps ≠ []) : next.book.laps = [] ↔ ClearsLaps watch now op := by
  cases change with
  | added lap _ keeps _ _ grown => exact iff_of_false (by simp [grown]) keeps
  | cleared _ clears emptied => exact iff_of_true (by simp [emptied]) clears
  | unchanged _ keeps same => exact iff_of_false (by simp [same, held]) keeps

/-- Every operation changes the laps in exactly one of the three ways. Where a
replay goes on after it, no lap was removed, altered or moved. -/
theorem laps_law (watch : Stopwatch) (now : UInt64) (op : WatchOp) :
    let next := (watch.step now op).1
    let result := (watch.step now op).2
    LapChange watch now op next result ∧
      ((∃ lap, next.book.laps = watch.book.laps ++ [lap]) ↔ AddsLap watch op) ∧
      (result.newLap.isSome = true ↔ AddsLap watch op) ∧
      (watch.book.laps ≠ [] → (next.book.laps = [] ↔ ClearsLaps watch now op)) ∧
      (next.replay.active = true → watch.book.laps <+: next.book.laps) := by
  intro next result
  have change : LapChange watch now op next result := step_change watch now op
  refine ⟨change, change.grown_iff, change.told_iff, change.emptied_iff, ?_⟩
  intro replays
  apply change.keeps_laps
  intro clears
  have gone := clears_not_replaying watch now op clears
  exact Bool.false_ne_true (gone.symm.trans replays)

theorem step_clearAfter (watch : Stopwatch) (now : UInt64) (op : WatchOp)
    (reset : ¬ AcceptsReset watch op) (wiped : op ≠ .wipe)
    (ends : watch.replay.clearAfter = true → ¬ EndsReplay watch now op) :
    (watch.step now op).1.replay.clearAfter = watch.replay.clearAfter := by
  by_cases ending : EndsReplay watch now op
  · have kept : watch.replay.clearAfter = false :=
      eq_false_of_ne_true fun pending => ends pending ending
    rw [replay_ended watch now op ending, kept]
  · cases op with
    | press key =>
        have row := press_row watch now key
        simp only [step]
        generalize (watch.press now key).1 = next at row ⊢
        generalize (watch.press now key).2 = orders at row
        cases row with
        | replayLeft replays => exact absurd (.inl ⟨rfl, replays⟩) ending
        | resetAdded rests _ _ => exact absurd ⟨rfl, rests⟩ reset
        | resetDropped rests _ _ => exact absurd ⟨rfl, rests⟩ reset
        | _ => rfl
    | refresh =>
        have row := refresh_row watch now
        simp only [step]
        generalize (watch.refresh now).1 = next at row ⊢
        generalize (watch.refresh now).2 = outcome at row
        cases row <;> rfl
    | stepReplay session =>
        have row := stepReplay_row watch session now
        rw [endsReplay_stepReplay] at ending
        simp only [step]
        generalize (watch.stepReplay session now).1 = next at row ⊢
        generalize (watch.stepReplay session now).2 = outcome at row ending
        cases row with
        | ended => exact absurd ⟨_, rfl⟩ ending
        | _ => rfl
    | halt =>
        simp only [step]
        by_cases runs : watch.meter.running = true
        · rw [halt_running watch now runs]
        · rw [halt_resting watch now (eq_false_of_ne_true runs)]
    | wipe => exact absurd rfl wiped
    | _ => rfl

/-- What may take a captured lap: an accepted reset, a wipe, and where a clear is
`pending` the end of the replay. -/
def TakesLaps (pending : Bool) (watch : Stopwatch) (now : UInt64) (op : WatchOp) : Prop :=
  AcceptsReset watch op ∨ op = .wipe ∨ pending = true ∧ EndsReplay watch now op

theorem taken_by_clear (pending : Bool) (watch : Stopwatch) (now : UInt64) (op : WatchOp)
    (flag : watch.replay.clearAfter = pending) (clears : ClearsLaps watch now op) :
    TakesLaps pending watch now op := by
  rcases clears with ⟨reset, -⟩ | ⟨ends, marked⟩ | wiped
  · exact .inl reset
  · exact .inr (.inr ⟨flag.symm.trans marked, ends⟩)
  · exact .inr (.inl wiped)

theorem run_keeps_lap (pending : Bool) (place : Nat) (lap : Lap) (watch : Stopwatch)
    (flag : watch.replay.clearAfter = pending) (held : watch.book.laps[place]? = some lap)
    (ops : List (UInt64 × WatchOp)) (spared : Avoids (TakesLaps pending) watch ops) :
    (watch.run ops).1.replay.clearAfter = pending ∧
      (watch.run ops).1.book.laps[place]? = some lap := by
  apply spared.keeps
    (fun state => state.replay.clearAfter = pending ∧ state.book.laps[place]? = some lap)
    ?_ ⟨flag, held⟩
  rintro state ⟨now, op⟩ taken ⟨flag, held⟩
  have same : (state.step now op).1.replay.clearAfter = state.replay.clearAfter :=
    step_clearAfter state now op (fun reset => taken (.inl reset))
      (fun wiped => taken (.inr (.inl wiped)))
      (fun marked ends => taken (.inr (.inr ⟨flag.symm.trans marked, ends⟩)))
  have grows : state.book.laps <+: (state.step now op).1.book.laps :=
    (step_change state now op).keeps_laps fun clears =>
      taken (taken_by_clear _ _ _ _ flag clears)
  obtain ⟨more, grown⟩ := grows
  have inside : place < state.book.laps.length := (List.getElem?_eq_some_iff.mp held).1
  refine ⟨same.trans flag, ?_⟩
  show (state.step now op).1.book.laps[place]? = some lap
  rw [← grown, List.getElem?_append_left inside]
  exact held

theorem ended_replay_clears_iff (watch : Stopwatch) (now : UInt64) (op : WatchOp)
    (ends : EndsReplay watch now op) :
    ClearsLaps watch now op ↔ watch.replay.clearAfter = true := by
  constructor
  · rintro (⟨⟨rfl, -⟩, -⟩ | ⟨-, marked⟩ | rfl)
    · simp [endsReplay_press] at ends
    · exact marked
    · simp [EndsReplay, step] at ends
  · intro marked
    exact .inr (.inl ⟨ends, marked⟩)

/-- A lap captured by its key stays in its place until an accepted reset, a wipe, or
the end of a replay whose clear was already pending at the capture. The end of a
replay keeps the lap exactly when no clear was pending. -/
theorem captured_lap_stays (watch : Stopwatch) (now : UInt64) (lap : Lap)
    (captured : (watch.press now .lap).2.newLap = some lap)
    (later : List (UInt64 × WatchOp))
    (spared : Avoids (TakesLaps watch.replay.clearAfter) (watch.press now .lap).1 later) :
    let final := ((watch.press now .lap).1.run later).1
    final.book.laps[watch.book.count]? = some lap ∧
      ∀ instant op, EndsReplay final instant op →
        (lap ∈ (final.step instant op).1.book.laps ↔ watch.replay.clearAfter = false) := by
  intro final
  have flag : (watch.press now .lap).1.replay.clearAfter = watch.replay.clearAfter := by
    apply step_clearAfter watch now (.press .lap)
    · simp [AcceptsReset]
    · simp
    · simp [endsReplay_press]
  have held : (watch.press now .lap).1.book.laps[watch.book.count]? = some lap := by
    cases press_change watch now .lap with
    | added lap' _ _ _ _ grown told =>
        have same : some lap' = some lap := told.symm.trans captured
        rw [grown, ← same]
        exact List.getElem?_concat_length
    | cleared _ _ _ told => exact absurd (told.symm.trans captured) (by simp)
    | unchanged _ _ _ told => exact absurd (told.symm.trans captured) (by simp)
  obtain ⟨flag', held'⟩ := run_keeps_lap _ _ _ _ flag held later spared
  refine ⟨held', ?_⟩
  intro instant op ends
  have clears := ended_replay_clears_iff final instant op ends
  have change := step_change final instant op
  cases marked : watch.replay.clearAfter with
  | true =>
      have gone := (change.emptied_iff (List.ne_nil_of_mem (List.mem_of_getElem? held'))).mpr
        (clears.mpr (flag'.trans marked))
      simp [gone]
  | false =>
      have keeps : ¬ ClearsLaps final instant op := by
        rw [clears, flag', marked]
        exact Bool.false_ne_true
      have stays := (change.keeps_laps keeps).subset (List.mem_of_getElem? held')
      simp [stays]

/-- Replaying, with a clear pending, and running again since the reset. -/
def restarted : Stopwatch :=
  (({} : Stopwatch).run
    [(0, .press .run), (1000000000, .press .run), (1000000000, .press .replay),
      (1000000000, .press .reset), (2000000000, .press .run)]).1

theorem captured_lap_stays_pending :
    (restarted.press 3000000000 .lap).2.newLap = some ⟨1, ⟨0, 1, 0⟩⟩ ∧
      Avoids (TakesLaps restarted.replay.clearAfter) (restarted.press 3000000000 .lap).1
        [(3500000000, .refresh), (4000000000, .press .run)] ∧
      ((restarted.press 3000000000 .lap).1.run
        [(3500000000, .refresh), (4000000000, .press .run)]).1.book.laps[restarted.book.count]? =
          some ⟨1, ⟨0, 1, 0⟩⟩ := by
  have captured : (restarted.press 3000000000 .lap).2.newLap = some ⟨1, ⟨0, 1, 0⟩⟩ := by decide
  have spared : Avoids (TakesLaps restarted.replay.clearAfter) (restarted.press 3000000000 .lap).1
      [(3500000000, .refresh), (4000000000, .press .run)] := by
    simp [Avoids, Throughout, TakesLaps, AcceptsReset, EndsReplay, step]
  exact ⟨captured, spared, (captured_lap_stays _ _ _ captured _ spared).1⟩

/-- An accepted reset and a wipe are not all that takes a captured lap. -/
theorem pending_clear_takes_new_lap :
    ¬ ∀ (before : List (UInt64 × WatchOp)) (now : UInt64) (lap : Lap)
        (later : List (UInt64 × WatchOp)),
      let watch := (({} : Stopwatch).run before).1
      (watch.press now .lap).2.newLap = some lap →
      Avoids (fun state _ op => AcceptsReset state op ∨ op = .wipe)
        (watch.press now .lap).1 later →
      lap ∈ ((watch.press now .lap).1.run later).1.book.laps := by
  intro stays
  have held := stays
    [(0, .press .run), (1000000000, .press .run), (1000000000, .press .replay),
      (1000000000, .press .reset), (2000000000, .press .run)]
    3000000000 ⟨1, ⟨0, 1, 0⟩⟩ [(4000000000, .press .replay)] (by decide)
    (by simp [Avoids, Throughout, AcceptsReset])
  exact absurd held (by decide)

end Stopwatch

end LapTimer
