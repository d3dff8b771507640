import LapTimer.Proofs.LapHistory
import LapTimer.Settings

/-! The course of a replay. Each step shows the lap at its own number, as long as that lap was
in the book at the step before; the first step for which it was not ends the replay. -/

namespace LapTimer

/-- A step of a replay: the stopwatch that it met, its answer, the stopwatch it left. -/
structure ReplayRound where
  met : Stopwatch
  outcome : ReplayOutcome
  left : Stopwatch

namespace ReplayRound

/-- The step shows the lap at a place of the book, against the lap before it. -/
def ShowsLap (round : ReplayRound) (place : Nat) : Prop :=
  ∃ lap, round.met.book.laps[place]? = some lap ∧
    round.outcome = .lap (round.met.mode.value lap.time
      (if place = 0 then none else round.met.book.laps[place - 1]?.map (·.time)))

def Finishes (round : ReplayRound) : Prop :=
  (∃ orders, round.outcome = .finished orders) ∧ round.left.replay.active = false

end ReplayRound

/-- The laps in the book at the round before; none was before the first. -/
def seenBefore (first : Nat) (rounds : List ReplayRound) : Nat → Nat
  | 0 => first
  | k + 1 => rounds[k]?.elim 0 (·.met.book.count)

/-- The course of a replay from a place on. The first laps are those that were in the
book when the replay began; `seen` counts the laps at the round before. -/
inductive ReplayCourse (first : List Lap) : Nat → Nat → List ReplayRound → Prop
  | awaited (place seen : Nat) : ReplayCourse first place seen []
  | shown {place seen : Nat} {round : ReplayRound} {rest : List ReplayRound}
      (inside : place < seen) (room : place < LapBook.capacity)
      (kept : first <+: round.met.book.laps) (shows : round.ShowsLap place)
      (later : ReplayCourse first (place + 1) round.met.book.count rest) :
      ReplayCourse first place seen (round :: rest)
  | ended {place seen : Nat} {round : ReplayRound} {rest : List ReplayRound}
      (past : seen ≤ place) (ends : round.Finishes)
      (stale : ∀ later ∈ rest, later.outcome = .stale) :
      ReplayCourse first place seen (round :: rest)

namespace ReplayCourse

/-- What a course says of each of its rounds: the lap at the number of the round is shown
where it was seen, and else the replay is over. -/
theorem round_law {first : List Lap} {place seen : Nat} {rounds : List ReplayRound}
    (course : ReplayCourse first place seen rounds) (k : Nat) (round : ReplayRound)
    (met : rounds[k]? = some round) (goes : ∀ earlier ∈ rounds.take k, ¬ earlier.Finishes) :
    if place + k < seenBefore seen rounds k then round.ShowsLap (place + k)
    else round.Finishes := by
  induction course generalizing k with
  | awaited place seen => simp at met
  | @shown place seen head rest inside room kept shows later ih =>
      cases k with
      | zero =>
          simp only [List.getElem?_cons_zero, Option.some.injEq] at met
          subst met
          rw [seenBefore, Nat.add_zero, if_pos inside]
          exact shows
      | succ k =>
          have law := ih k met fun earlier member => goes earlier (List.mem_cons_of_mem _ member)
          have seen : seenBefore seen (head :: rest) (k + 1) =
              seenBefore head.met.book.count rest k := by
            cases k <;> rfl
          rw [seen, Nat.add_comm k 1, ← Nat.add_assoc]
          exact law
  | @ended place seen head rest past ends stale =>
      cases k with
      | zero =>
          simp only [List.getElem?_cons_zero, Option.some.injEq] at met
          subst met
          rw [seenBefore, Nat.add_zero, if_neg (Nat.not_lt_of_le past)]
          exact ends
      | succ k => exact absurd ends (goes head List.mem_cons_self)

/-- A course shows laps in order, then is over; it is not over before it has shown the
first laps, and never shows more than a book can hold. -/
theorem shows_in_order {first : List Lap} {place seen : Nat} {rounds : List ReplayRound}
    (course : ReplayCourse first place seen rounds) (held : first.length ≤ seen)
    (room : place ≤ LapBook.capacity) :
    ∃ shows, place + shows ≤ LapBook.capacity ∧
      (∀ k round, rounds[k]? = some round →
        (k < shows → round.ShowsLap (place + k) ∧ first <+: round.met.book.laps) ∧
          (k = shows → round.Finishes) ∧ (shows < k → round.outcome = .stale)) ∧
      (shows < rounds.length → first.length ≤ place + shows) := by
  induction course with
  | awaited place seen => exact ⟨0, room, by simp, by simp⟩
  | @shown place seen head rest inside room' kept shows later ih =>
      obtain ⟨more, bounded, each, complete⟩ := ih kept.length_le room'
      refine ⟨more + 1, by omega, ?_, ?_⟩
      · intro k round met
        cases k with
        | zero =>
            simp only [List.getElem?_cons_zero, Option.some.injEq] at met
            subst met
            exact ⟨fun _ => ⟨shows, kept⟩, by omega, by omega⟩
        | succ k =>
            obtain ⟨before, same, after⟩ := each k round met
            rw [show place + (k + 1) = place + 1 + k by omega]
            exact ⟨fun less => before (by omega), fun equal => same (by omega),
              fun greater => after (by omega)⟩
      · intro less
        have := complete (Nat.lt_of_succ_lt_succ less)
        omega
  | @ended place seen head rest past ends stale =>
      refine ⟨0, room, ?_, fun _ => by omega⟩
      intro k round met
      cases k with
      | zero =>
          simp only [List.getElem?_cons_zero, Option.some.injEq] at met
          subst met
          exact ⟨by omega, fun _ => ends, by omega⟩
      | succ k =>
          exact ⟨by omega, by omega, fun _ => stale round (List.mem_of_getElem? met)⟩

end ReplayCourse

@[simp] theorem LapBook.replayCursor_readNext (book : LapBook) :
    book.readNext.1.replayCursor = book.replayCursor := by
  unfold LapBook.readNext
  split
  · rfl
  · split
    · split <;> rfl
    · rfl

namespace Stopwatch

/-- The round that a step of a session makes here and now. -/
def roundAt (watch : Stopwatch) (session : UInt32) (now : UInt64) : ReplayRound :=
  ⟨watch, (watch.stepReplay session now).2, (watch.stepReplay session now).1⟩

/-- The rounds of one session in a run. -/
def rounds (session : UInt32) (watch : Stopwatch) : List (UInt64 × WatchOp) → List ReplayRound
  | [] => []
  | (now, op) :: rest =>
      if op = .stepReplay session then
        watch.roundAt session now :: rounds session (watch.step now op).1 rest
      else rounds session (watch.step now op).1 rest

def LeavesReplay (op : WatchOp) : Prop := op = .press .replay ∨ op = .wipe

theorem refresh_frame (watch : Stopwatch) (now : UInt64) :
    (watch.refresh now).1.book = watch.book ∧ (watch.refresh now).1.replay = watch.replay := by
  have row := refresh_row watch now
  generalize (watch.refresh now).1 = next at row ⊢
  generalize (watch.refresh now).2 = outcome at row
  cases row <;> exact ⟨rfl, rfl⟩

theorem halt_frame (watch : Stopwatch) (now : UInt64) :
    (watch.halt now).1.book = watch.book ∧ (watch.halt now).1.replay = watch.replay := by
  by_cases runs : watch.meter.running = true
  · rw [halt_running watch now runs]
    exact ⟨rfl, rfl⟩
  · rw [halt_resting watch now (eq_false_of_ne_true runs)]
    exact ⟨rfl, rfl⟩

-- Only the steps of the present session end a replay or move its cursor.
theorem replay_between (watch : Stopwatch) (now : UInt64) (op : WatchOp)
    (stays : ¬ LeavesReplay op)
    (other : watch.replay.active = true → op ≠ .stepReplay watch.replay.session) :
    (watch.step now op).1.replay.active = watch.replay.active ∧
      (watch.step now op).1.replay.session = watch.replay.session ∧
      (watch.replay.active = true →
        (watch.step now op).1.book.replayCursor = watch.book.replayCursor) := by
  cases op with
  | press key =>
      have row := press_row watch now key
      simp only [step]
      generalize (watch.press now key).1 = next at row ⊢
      generalize (watch.press now key).2 = orders at row
      cases row with
      | lapAdded runs captured =>
          exact ⟨rfl, rfl, fun _ => (LapBook.capture_ok _ _ _ _ captured).2.2.2.1⟩
      | resetAdded rests replays captured =>
          exact ⟨rfl, rfl, fun _ => (LapBook.capture_ok _ _ _ _ captured).2.2.2.1⟩
      | replayBegun live => exact absurd (.inl rfl) stays
      | replayLeft replays => exact absurd (.inl rfl) stays
      | resetCleared rests live =>
          exact ⟨rfl, rfl, fun replays => absurd (live.symm.trans replays) Bool.false_ne_true⟩
      | _ => exact ⟨rfl, rfl, fun _ => rfl⟩
  | refresh =>
      obtain ⟨book, replay⟩ := refresh_frame watch now
      simp only [step, book, replay, implies_true, and_self]
  | stepReplay session =>
      have row := stepReplay_row watch session now
      simp only [step]
      generalize (watch.stepReplay session now).1 = next at row ⊢
      generalize (watch.stepReplay session now).2 = outcome at row
      cases row with
      | stale => exact ⟨rfl, rfl, fun _ => rfl⟩
      | shown replays current _ => exact absurd (by rw [current]) (other replays)
      | ended replays current _ => exact absurd (by rw [current]) (other replays)
  | readRecord => exact ⟨rfl, rfl, fun _ => LapBook.replayCursor_readNext watch.book⟩
  | halt =>
      obtain ⟨book, replay⟩ := halt_frame watch now
      simp only [step, book, replay, implies_true, and_self]
  | wipe => exact absurd (.inr rfl) stays
  | _ => exact ⟨rfl, rfl, fun _ => rfl⟩

theorem laps_kept (watch : Stopwatch) (now : UInt64) (op : WatchOp)
    (replays : (watch.step now op).1.replay.active = true) :
    watch.book.laps <+: (watch.step now op).1.book.laps := by
  apply (step_change watch now op).keeps_laps
  intro clears
  exact Bool.false_ne_true ((clears_not_replaying watch now op clears).symm.trans replays)

/-- A book never holds more laps than it has room for. -/
theorem step_bounded (watch : Stopwatch) (now : UInt64) (op : WatchOp)
    (bounded : watch.book.count ≤ LapBook.capacity) :
    (watch.step now op).1.book.count ≤ LapBook.capacity := by
  cases step_change watch now op with
  | added lap adds _ _ _ grown _ =>
      rw [LapBook.count, grown, List.length_append, List.length_singleton]
      exact adds.1
  | cleared _ _ emptied _ =>
      rw [emptied]
      exact Nat.zero_le _
  | unchanged _ _ same _ =>
      rw [LapBook.count, same]
      exact bounded

theorem run_bounded (watch : Stopwatch) (ops : List (UInt64 × WatchOp))
    (bounded : watch.book.count ≤ LapBook.capacity) :
    (watch.run ops).1.book.count ≤ LapBook.capacity :=
  runBy_keeps (fun state => state.book.count ≤ LapBook.capacity)
    (fun state entry => step_bounded state entry.1 entry.2) watch bounded ops

/-- A replay has come to a place of the book: its next step shows the lap there, if that
lap was seen at the step before. -/
structure AtPlace (session : UInt32) (first : List Lap) (place seen : Nat)
    (watch : Stopwatch) : Prop where
  replays : watch.replay.active = true
  current : watch.replay.session = session
  cursor : watch.book.replayCursor = if place < seen then .lap place else .tail
  inside : seen ≤ watch.book.count
  kept : first <+: watch.book.laps
  bounded : watch.book.count ≤ LapBook.capacity

theorem AtPlace.begun (watch : Stopwatch) (now : UInt64) (live : watch.replay.active = false)
    (bounded : watch.book.count ≤ LapBook.capacity) :
    let begun := (watch.press now .replay).1
    AtPlace begun.replay.session begun.book.laps 0 begun.book.count begun := by
  simp only [press, live, Bool.false_eq_true, ↓reduceIte]
  refine ⟨rfl, rfl, ?_, Nat.le_refl _, List.prefix_refl _, bounded⟩
  cases laps : watch.book.laps <;> simp [beginReplay, LapBook.rewind, LapBook.count, laps]

/-- An operation between two steps may lengthen the book, and moves nothing else. -/
theorem AtPlace.between {session : UInt32} {first : List Lap} {place seen : Nat}
    {watch : Stopwatch} (stands : AtPlace session first place seen watch) (now : UInt64)
    (op : WatchOp) (stays : ¬ LeavesReplay op) (other : op ≠ .stepReplay session) :
    AtPlace session first place seen (watch.step now op).1 := by
  have apart : watch.replay.active = true → op ≠ .stepReplay watch.replay.session := by
    intro _
    rwa [stands.current]
  obtain ⟨active, same, cursor⟩ := replay_between watch now op stays apart
  have replays := active.trans stands.replays
  have longer := laps_kept watch now op replays
  refine ⟨replays, same.trans stands.current, ?_, ?_, stands.kept.trans longer, ?_⟩
  · rw [cursor stands.replays, stands.cursor]
  · exact Nat.le_trans stands.inside longer.length_le
  · exact step_bounded watch now op stands.bounded

theorem AtPlace.step_eq {session : UInt32} {first : List Lap} {place seen : Nat}
    {watch : Stopwatch} (stands : AtPlace session first place seen watch) (now : UInt64) :
    watch.stepReplay session now =
      match watch.book.replayNext with
      | (book, some (lap, previous)) =>
          ({ watch with book }, .lap (watch.mode.value lap.time (previous.map (·.time))))
      | (_, none) => ((watch.leaveReplay now).1, .finished (watch.leaveReplay now).2) := by
  have current : (watch.replay.session != session) = false := by simp [stands.current]
  rw [stepReplay, stands.replays, current]
  rfl

theorem AtPlace.step_lap {session : UInt32} {first : List Lap} {place seen : Nat}
    {watch : Stopwatch} (stands : AtPlace session first place seen watch) (now : UInt64)
    (inside : place < seen) :
    ∃ lap, watch.book.laps[place]? = some lap ∧
      watch.stepReplay session now =
        ({ watch with book := { watch.book with replayCursor := watch.book.beyond place } },
          .lap (watch.mode.value lap.time
            (if place = 0 then none else watch.book.laps[place - 1]?.map (·.time)))) := by
  have room : place < watch.book.laps.length := Nat.lt_of_lt_of_le inside stands.inside
  have found : watch.book.get? place = some watch.book.laps[place] :=
    List.getElem?_eq_getElem room
  have cursor : watch.book.replayCursor = .lap place := by rw [stands.cursor, if_pos inside]
  refine ⟨_, found, ?_⟩
  rw [stands.step_eq now]
  simp only [LapBook.replayNext, cursor, found]
  split <;> rfl

theorem AtPlace.step_shows {session : UInt32} {first : List Lap} {place seen : Nat}
    {watch : Stopwatch} (stands : AtPlace session first place seen watch) (now : UInt64)
    (inside : place < seen) :
    (watch.roundAt session now).ShowsLap place ∧
      AtPlace session first (place + 1) watch.book.count (watch.roundAt session now).left := by
  obtain ⟨lap, found, stepped⟩ := stands.step_lap now inside
  simp only [roundAt, stepped]
  refine ⟨⟨lap, found, rfl⟩, ?_⟩
  exact ⟨stands.replays, stands.current, rfl, Nat.le_refl _, stands.kept, stands.bounded⟩

theorem AtPlace.step_finishes {session : UInt32} {first : List Lap} {place seen : Nat}
    {watch : Stopwatch} (stands : AtPlace session first place seen watch) (now : UInt64)
    (past : seen ≤ place) : (watch.roundAt session now).Finishes := by
  have cursor : watch.book.replayCursor = .tail := by
    rw [stands.cursor, if_neg (Nat.not_lt_of_le past)]
  have stepped := stands.step_eq now
  simp only [LapBook.replayNext, cursor] at stepped
  simp only [roundAt, stepped]
  exact ⟨⟨_, rfl⟩, rfl⟩

theorem rounds_idle (session : UInt32) (watch : Stopwatch) (ops : List (UInt64 × WatchOp))
    (idle : watch.replay.active = false) (stays : ∀ entry ∈ ops, ¬ LeavesReplay entry.2) :
    ∀ round ∈ watch.rounds session ops, round.outcome = .stale := by
  induction ops generalizing watch with
  | nil => simp [rounds]
  | cons entry rest ih =>
      obtain ⟨now, op⟩ := entry
      have apart : watch.replay.active = true → op ≠ .stepReplay watch.replay.session :=
        fun replays => absurd (idle.symm.trans replays) Bool.false_ne_true
      have still := (replay_between watch now op (stays _ List.mem_cons_self) apart).1
      have later := ih (watch.step now op).1 (still.trans idle)
        fun entry member => stays entry (List.mem_cons_of_mem _ member)
      rw [rounds]
      split
      next own =>
          intro round member
          rcases List.mem_cons.mp member with rfl | member
          · simp [roundAt, stepReplay, idle]
          · exact later round member
      next => exact later

theorem rounds_course (session : UInt32) (first : List Lap) (place seen : Nat)
    (watch : Stopwatch) (ops : List (UInt64 × WatchOp))
    (stands : AtPlace session first place seen watch)
    (stays : ∀ entry ∈ ops, ¬ LeavesReplay entry.2) :
    ReplayCourse first place seen (watch.rounds session ops) := by
  induction ops generalizing watch place seen with
  | nil => exact .awaited place seen
  | cons entry rest ih =>
      obtain ⟨now, op⟩ := entry
      have stays' : ∀ entry ∈ rest, ¬ LeavesReplay entry.2 :=
        fun entry member => stays entry (List.mem_cons_of_mem _ member)
      by_cases own : op = .stepReplay session
      · subst own
        rw [rounds, if_pos rfl]
        by_cases inside : place < seen
        · obtain ⟨shows, next⟩ := stands.step_shows now inside
          have room := Nat.lt_of_lt_of_le inside (Nat.le_trans stands.inside stands.bounded)
          exact .shown inside room stands.kept shows (ih _ _ _ next stays')
        · have past := Nat.le_of_not_lt inside
          have ends := stands.step_finishes now past
          exact .ended past ends (rounds_idle session _ rest ends.2 stays')
      · rw [rounds, if_neg own]
        exact ih _ _ _ (stands.between now op (stays _ List.mem_cons_self) own) stays'

/-- A replay shows the book. The step of each number shows the lap of that number, if it
was in the book at the step before, and else ends the replay. So the laps are shown in
order, each once, among them all that were there when the replay began, and the replay
is over after at most as many as a book can hold. -/
theorem replay_shows_book (settings : TimerSettings) (before : List (UInt64 × WatchOp))
    (now : UInt64) (ops : List (UInt64 × WatchOp))
    (live : (settings.watch.run before).1.replay.active = false)
    (stays : ∀ entry ∈ ops, ¬ LeavesReplay entry.2) :
    let begun := ((settings.watch.run before).1.press now .replay).1
    let rounds := begun.rounds begun.replay.session ops
    (∀ k round, rounds[k]? = some round →
      (∀ earlier ∈ rounds.take k, ¬ earlier.Finishes) →
        if k < seenBefore begun.book.count rounds k then round.ShowsLap k
        else round.Finishes) ∧
      ∃ shows, shows ≤ LapBook.capacity ∧
        (∀ k round, rounds[k]? = some round →
          (k < shows → round.ShowsLap k ∧ begun.book.laps <+: round.met.book.laps) ∧
            (k = shows → round.Finishes) ∧ (shows < k → round.outcome = .stale)) ∧
        (shows < rounds.length → begun.book.count ≤ shows) := by
  intro begun rounds
  have bounded := run_bounded settings.watch before (Nat.zero_le _)
  have course : ReplayCourse begun.book.laps 0 begun.book.count rounds :=
    rounds_course _ _ 0 _ begun ops (AtPlace.begun _ now live bounded) stays
  refine ⟨?_, ?_⟩
  · intro k round met goes
    have law := course.round_law k round met goes
    rwa [Nat.zero_add] at law
  · obtain ⟨shows, room, each, complete⟩ :=
      course.shows_in_order (Nat.le_refl _) (Nat.zero_le _)
    simp only [Nat.zero_add] at room each complete
    exact ⟨shows, room, each, complete⟩

/-- A lap is captured between two steps and shown in its turn, in the mode set meanwhile. The
lap that a reset adds after the last lap was shown comes too late. -/
theorem replay_shows_book_growing :
    let before : List (UInt64 × WatchOp) :=
      [(0, .press .run), (1000000000, .press .lap), (2000000000, .press .lap)]
    let ops : List (UInt64 × WatchOp) :=
      [(4000000000, .stepReplay 1), (5000000000, .press .lap), (5000000000, .setMode .split),
        (6000000000, .stepReplay 1), (7000000000, .stepReplay 1), (8000000000, .press .run),
        (9000000000, .press .reset), (10000000000, .stepReplay 1)]
    let watch := (({} : TimerSettings).watch.run before).1
    let rounds := (watch.press 3000000000 .replay).1.rounds 1 ops
    watch.replay.active = false ∧ (∀ entry ∈ ops, ¬ LeavesReplay entry.2) ∧
      (rounds.take 3).map (·.outcome) =
        [.lap ⟨0, 1, 0⟩, .lap ⟨0, 1, 0⟩, .lap ⟨0, 3, 0⟩] ∧
      ∃ last, rounds[3]? = some last ∧ last.met.book.count = 4 ∧ last.Finishes := by
  intro before ops watch rounds
  have live : watch.replay.active = false := by decide
  have stays : ∀ entry ∈ ops, ¬ LeavesReplay entry.2 := by simp [ops, LeavesReplay]
  have shown : (rounds.take 3).map (·.outcome) =
      [.lap ⟨0, 1, 0⟩, .lap ⟨0, 1, 0⟩, .lap ⟨0, 3, 0⟩] := by decide
  have goes : ∀ earlier ∈ rounds.take 3, ¬ earlier.Finishes := by
    rintro earlier member ⟨⟨orders, finished⟩, -⟩
    have among := List.mem_map_of_mem (f := fun round => round.outcome) member
    simp [shown, finished] at among
  have law := (replay_shows_book {} before 3000000000 ops live stays).1 3 _ rfl goes
  exact ⟨live, stays, shown, _, rfl, by decide, law⟩

end Stopwatch

end LapTimer
