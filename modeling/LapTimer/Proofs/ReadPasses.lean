import LapTimer.Proofs.Transitions
import Mathlib.Data.List.Induction
import Mathlib.Data.List.Nodup

/-! The passes of the readers. Behind the read cursor lie the laps that the present pass has
delivered; it starts over with an end mark, with a clear, and with a capture that finds all
laps delivered and the end mark still to come. -/

namespace LapTimer

def BookOp.Streams : BookOp → Prop
  | .capture _ => True
  | .readNext => True
  | _ => False

def BookResult.read? : BookResult → Option ReadStep
  | .read step => some step
  | _ => none

/-- What the reads of a run answered. -/
def readSteps (results : List BookResult) : List ReadStep := results.filterMap BookResult.read?

/-- The answers that stand between two passes. -/
def ReadStep.isEnd : ReadStep → Bool
  | .lap _ => false
  | _ => true

def BookResult.isEnd : BookResult → Bool
  | .read step => step.isEnd
  | _ => false

namespace LapBook

/-- The lap under the read cursor. -/
def under (book : LapBook) : Option Lap :=
  match book.readCursor with
  | .lap place => book.laps[place]?
  | .tail => none

def behind (book : LapBook) : List Lap :=
  match book.readCursor with
  | .lap place => book.laps.take place
  | .tail => book.laps

/-- The lap that an operation hands to a reader. -/
def delivers (book : LapBook) (op : BookOp) : List Lap :=
  match (book.step op).2 with
  | .read (.lap _) => book.under.toList
  | _ => []

/-- The laps that a run hands to its readers, in turn. -/
def delivered (book : LapBook) : List BookOp → List Lap
  | [] => []
  | op :: rest => book.delivers op ++ (book.step op).1.delivered rest

/-- A capture that finds all laps delivered and the end mark still to come. -/
def Rewinds (book : LapBook) (op : BookOp) : Prop :=
  (∃ time, op = .capture time) ∧ book.readCursor = .tail ∧
    0 < book.count ∧ book.count < capacity

def Restarts (book : LapBook) (op : BookOp) : Prop :=
  op = .clear ∨ (book.step op).2.isEnd = true ∨ book.Rewinds op

/-- No operation of the run is of the kind, each judged on the book that it meets. -/
abbrev Avoids (kind : LapBook → BookOp → Prop) (book : LapBook) (ops : List BookOp) : Prop :=
  Throughout step (fun book op => ¬ kind book op) book ops

theorem delivered_append (book : LapBook) (ops more : List BookOp) :
    book.delivered (ops ++ more) = book.delivered ops ++ (book.run ops).1.delivered more := by
  induction ops generalizing book with
  | nil => rfl
  | cons op rest ih =>
      have later := ih (book.step op).1
      simp only [List.cons_append, delivered, later, List.append_assoc]
      rfl

/-- The laps are numbered by their places, and a cursor stands on a lap or at the tail. -/
structure InOrder (book : LapBook) : Prop where
  bounded : book.count ≤ capacity
  numbered : book.laps.map (fun lap => lap.index.toNat) = List.range book.count
  reading : ∀ place, book.readCursor = .lap place → place < book.count
  replaying : ∀ place, book.replayCursor = .lap place → place < book.count

theorem inOrder_empty : InOrder {} := by
  constructor
  · exact Nat.zero_le _
  · rfl
  · intro place stands
    simp at stands
  · intro place stands
    simp at stands

theorem nodup_numbered (book : LapBook) (ordered : book.InOrder) :
    (book.laps.map Lap.index).Nodup := by
  apply List.Nodup.of_map UInt64.toNat
  have numbers : (book.laps.map Lap.index).map UInt64.toNat = List.range book.count := by
    rw [List.map_map]
    exact ordered.numbered
  rw [numbers]
  exact List.nodup_range

/-- The three answers of a read, with the book that each leaves. -/
inductive ReadRow (book : LapBook) : LapBook → ReadStep → Prop
  | empty (none : book.laps = []) : ReadRow book book .empty
  | lap {place : Nat} {lap : Lap} (stands : book.readCursor = .lap place)
      (found : book.laps[place]? = some lap) :
      ReadRow book { book with readCursor := book.beyond place } (.lap lap.time)
  | tail (held : book.laps ≠ []) (past : book.readCursor = .tail) :
      ReadRow book { book with readCursor := .lap 0 } .tail

theorem readNext_row (book : LapBook) (ordered : book.InOrder) :
    ReadRow book book.readNext.1 book.readNext.2 := by
  by_cases none : book.laps = []
  · simp only [readNext, none, List.isEmpty_nil, ↓reduceIte]
    exact .empty none
  · have held : book.laps.isEmpty = false := by simpa using none
    cases stands : book.readCursor with
    | tail =>
        simp only [readNext, held, stands, Bool.false_eq_true, ↓reduceIte]
        exact .tail none stands
    | lap place =>
        have inside : place < book.laps.length := ordered.reading place stands
        have found : book.laps[place]? = some book.laps[place] := List.getElem?_eq_getElem inside
        simp only [readNext, held, stands, get?, found, Bool.false_eq_true, ↓reduceIte]
        exact .lap stands found

theorem beyond_within (book : LapBook) (place next : Nat)
    (stands : book.beyond place = .lap next) : next < book.count := by
  unfold beyond at stands
  split at stands
  next inside =>
      simp only [Cursor.lap.injEq] at stands
      omega
  next => simp at stands

theorem capture_inOrder (book next : LapBook) (time : Reading) (lap : Lap)
    (ordered : book.InOrder) (captured : book.capture time = .ok (next, lap)) :
    next.InOrder := by
  obtain ⟨room, rfl, grown, replay, read⟩ := capture_ok book next time lap captured
  have small : book.count < UInt64.size := Nat.lt_trans room (by decide)
  have length : next.count = book.count + 1 := by simp [count, grown]
  constructor
  · omega
  · rw [grown, List.map_append, ordered.numbered, length, List.range_succ]
    simp [UInt64.toNat_ofNat_of_lt' small]
  · intro place stands
    rw [read] at stands
    split at stands
    next => simp only [Cursor.lap.injEq] at stands; omega
    next => have := ordered.reading place stands; omega
  · intro place stands
    have := ordered.replaying place (replay.symm.trans stands)
    omega

theorem InOrder.moved {book : LapBook} (ordered : book.InOrder) (read replay : Cursor)
    (reading : ∀ place, read = .lap place → place < book.count)
    (replaying : ∀ place, replay = .lap place → place < book.count) :
    InOrder { book with readCursor := read, replayCursor := replay } :=
  ⟨ordered.bounded, ordered.numbered, reading, replaying⟩

theorem step_inOrder (book : LapBook) (op : BookOp) (ordered : book.InOrder) :
    (book.step op).1.InOrder := by
  cases op with
  | capture time =>
      simp only [step]
      cases captured : book.capture time with
      | ok added => exact capture_inOrder _ _ _ _ ordered captured
      | error error => exact ordered
  | clear => exact inOrder_empty
  | readNext =>
      have row := readNext_row book ordered
      simp only [step]
      generalize book.readNext.1 = next at row ⊢
      generalize book.readNext.2 = answer at row
      cases row with
      | empty none => exact ordered
      | lap stands found =>
          exact ordered.moved _ _ (beyond_within book _) ordered.replaying
      | tail held past =>
          have first : 0 < book.count := List.length_pos_iff.mpr held
          refine ordered.moved _ _ ?_ ordered.replaying
          rintro place ⟨⟩
          exact first
  | rewind =>
      refine ordered.moved _ _ ordered.reading ?_
      intro place stands
      split at stands
      next => simp at stands
      next held =>
          have first : 0 < book.count := List.length_pos_iff.mpr (by simpa using held)
          cases stands
          exact first
  | replayNext =>
      simp only [step, replayNext]
      split
      next => exact ordered
      next place stands =>
          split
          next => exact ordered
          next => exact ordered.moved _ _ ordered.reading (beyond_within book _)

theorem run_inOrder (book : LapBook) (ops : List BookOp) (ordered : book.InOrder) :
    (book.run ops).1.InOrder :=
  runBy_keeps InOrder step_inOrder book ordered ops

theorem readCursor_replayNext (book : LapBook) :
    book.replayNext.1.readCursor = book.readCursor := by
  unfold replayNext
  split
  · rfl
  · split <;> rfl

theorem behind_beyond (book : LapBook) (place : Nat) (lap : Lap)
    (found : book.laps[place]? = some lap) :
    behind { book with readCursor := book.beyond place } = book.laps.take place ++ [lap] := by
  obtain ⟨inside, same⟩ := List.getElem?_eq_some_iff.mp found
  have taken : book.laps.take (place + 1) = book.laps.take place ++ [lap] := by
    rw [List.take_succ_eq_append_getElem inside, same]
  unfold behind beyond
  by_cases more : place + 1 < book.count
  · simp only [if_pos more]
    exact taken
  · have last : book.laps.length ≤ place + 1 := Nat.le_of_not_lt more
    simp only [if_neg more]
    rw [← taken, List.take_of_length_le last]

theorem capture_behind (book next : LapBook) (time : Reading) (lap : Lap)
    (ordered : book.InOrder) (captured : book.capture time = .ok (next, lap)) :
    next.behind = if book.readCursor = .tail then [] else book.behind := by
  obtain ⟨-, -, grown, -, read⟩ := capture_ok book next time lap captured
  cases stands : book.readCursor with
  | tail =>
      rw [if_pos stands] at read
      simp [behind, read]
  | lap place =>
      have inside : place ≤ book.laps.length := Nat.le_of_lt (ordered.reading place stands)
      rw [stands, if_neg (by simp)] at read
      simp [behind, read, stands, grown, List.take_append_of_le_length inside]

theorem step_behind (book : LapBook) (op : BookOp) (ordered : book.InOrder)
    (goes : ¬ book.Restarts op) :
    (book.step op).1.behind = book.behind ++ book.delivers op := by
  cases op with
  | capture time =>
      simp only [step, delivers]
      cases captured : book.capture time with
      | error error => exact (List.append_nil _).symm
      | ok added =>
          have room := (capture_ok _ _ _ _ captured).1
          rw [capture_behind _ _ _ _ ordered captured, List.append_nil]
          split
          next past =>
              -- All laps are delivered, so without a restart there are none.
              have none : book.laps = [] := by
                by_contra held
                have first : 0 < book.count := List.length_pos_iff.mpr held
                exact goes (.inr (.inr ⟨⟨time, rfl⟩, past, first, room⟩))
              simp [behind, past, none]
          next => rfl
  | clear => exact absurd (.inl rfl) goes
  | readNext =>
      have row := readNext_row book ordered
      have answers : book.readNext.2.isEnd ≠ true := fun ends => goes (.inr (.inl ends))
      simp only [step, delivers]
      generalize book.readNext.1 = next at row ⊢
      generalize book.readNext.2 = answer at row answers ⊢
      cases row with
      | empty none => exact absurd rfl answers
      | tail held past => exact absurd rfl answers
      | @lap place lap stands found =>
          rw [behind_beyond book place lap found]
          simp [behind, under, stands, found]
  | rewind => simp [step, delivers, behind, rewind]
  | replayNext =>
      simp [step, delivers, behind, readCursor_replayNext]

theorem restart_behind (book : LapBook) (op : BookOp) (ordered : book.InOrder)
    (restarts : book.Restarts op) :
    (book.step op).1.behind = [] ∧ book.delivers op = [] := by
  rcases restarts with rfl | ends | ⟨⟨time, rfl⟩, past, -, room⟩
  · exact ⟨rfl, rfl⟩
  · cases op with
    | readNext =>
        have row := readNext_row book ordered
        simp only [step, BookResult.isEnd, delivers] at ends ⊢
        generalize book.readNext.1 = next at row ⊢
        generalize book.readNext.2 = answer at row ends ⊢
        cases row with
        | empty none =>
            refine ⟨?_, rfl⟩
            unfold behind
            split <;> simp [none]
        | lap stands found => simp [ReadStep.isEnd] at ends
        | tail held past => exact ⟨rfl, rfl⟩
    | capture time =>
        simp only [step] at ends
        split at ends <;> simp [BookResult.isEnd] at ends
    | _ => simp [step, BookResult.isEnd] at ends
  · have captured : ∃ next lap, book.capture time = .ok (next, lap) := by
      simp only [capture, if_pos room]
      exact ⟨_, _, rfl⟩
    obtain ⟨next, lap, captured⟩ := captured
    have back := capture_behind _ _ _ _ ordered captured
    rw [if_pos past] at back
    simp only [step, delivers, captured]
    exact ⟨back, trivial⟩

theorem run_behind (book : LapBook) (ops : List BookOp) (ordered : book.InOrder)
    (goes : Avoids Restarts book ops) :
    (book.run ops).1.behind = book.behind ++ book.delivered ops := by
  induction ops generalizing book with
  | nil => exact (List.append_nil _).symm
  | cons op rest ih =>
      have later := ih (book.step op).1 (step_inOrder book op ordered) goes.2
      rw [step_behind book op ordered goes.1, List.append_assoc] at later
      exact later

/-- Every run ends with the pass that is under way, from where it began. -/
theorem run_split (book : LapBook) (ops : List BookOp) (ordered : book.InOrder)
    (fresh : book.behind = []) :
    ∃ before pass, ops = before ++ pass ∧ (book.run before).1.behind = [] ∧
      Avoids Restarts (book.run before).1 pass := by
  induction ops using List.reverseRecOn with
  | nil => exact ⟨[], [], rfl, fresh, trivial⟩
  | append_singleton ops op ih =>
      by_cases restarts : (book.run ops).1.Restarts op
      · have back := restart_behind _ op (run_inOrder book ops ordered) restarts
        refine ⟨ops ++ [op], [], (List.append_nil _).symm, ?_, trivial⟩
        simp only [runBy_append]
        exact back.1
      · obtain ⟨before, pass, rfl, fresh', goes⟩ := ih
        refine ⟨before, pass ++ [op], List.append_assoc before pass [op], fresh', ?_⟩
        simp only [runBy_append] at restarts
        exact (throughout_append _ _ _).mpr ⟨goes, restarts, trivial⟩

theorem avoids_restarts (book : LapBook) (ops : List BookOp) (kept : .clear ∉ ops)
    (unended : ∀ result ∈ (book.run ops).2, result.isEnd = false)
    (goes : Avoids Rewinds book ops) : Avoids Restarts book ops := by
  induction ops generalizing book with
  | nil => trivial
  | cons op rest ih =>
      rw [List.mem_cons, not_or] at kept
      have here : (book.step op).2.isEnd = false := unended _ List.mem_cons_self
      constructor
      · rintro (cleared | ended | rewound)
        · exact kept.1 cleared.symm
        · exact Bool.false_ne_true (here.symm.trans ended)
        · exact goes.1 rewound
      · apply ih _ kept.2 _ goes.2
        intro result member
        exact unended result (List.mem_cons_of_mem _ member)

theorem clear_not_mem (book : LapBook) (ops : List BookOp)
    (goes : Avoids Restarts book ops) : .clear ∉ ops := by
  induction ops generalizing book with
  | nil => simp
  | cons op rest ih =>
      intro member
      rcases List.mem_cons.mp member with first | later
      · exact goes.1 (.inl first.symm)
      · exact ih _ goes.2 later

theorem readSteps_append (results more : List BookResult) :
    readSteps (results ++ more) = readSteps results ++ readSteps more :=
  List.filterMap_append

theorem step_read (book : LapBook) (op : BookOp) (ordered : book.InOrder)
    (goes : ¬ book.Restarts op) :
    readSteps [(book.step op).2] = (book.delivers op).map fun lap => .lap lap.time := by
  cases op with
  | capture time =>
      simp only [step, delivers]
      cases book.capture time <;> rfl
  | readNext =>
      have row := readNext_row book ordered
      have answers : book.readNext.2.isEnd ≠ true := fun ends => goes (.inr (.inl ends))
      simp only [step, delivers]
      generalize book.readNext.1 = next at row
      generalize book.readNext.2 = answer at row answers ⊢
      cases row with
      | empty none => exact absurd rfl answers
      | tail held past => exact absurd rfl answers
      | lap stands found => simp [readSteps, BookResult.read?, under, stands, found]
  | _ => rfl

theorem run_reads (book : LapBook) (ops : List BookOp) (ordered : book.InOrder)
    (goes : Avoids Restarts book ops) :
    readSteps (book.run ops).2 = (book.delivered ops).map fun lap => .lap lap.time := by
  induction ops generalizing book with
  | nil => rfl
  | cons op rest ih =>
      have later := ih (book.step op).1 (step_inOrder book op ordered) goes.2
      have here := step_read book op ordered goes.1
      have split : (book.run (op :: rest)).2 = [(book.step op).2] ++ ((book.step op).1.run rest).2 :=
        rfl
      rw [split, readSteps_append, here, later, delivered, List.map_append]

/-- Where a read answers with the end mark, the reads right before it, as many as
there are laps, have all answered with laps since the last clear: with the laps of
the book, each in its place. No lap captured before the end mark is missing. -/
theorem finished_pass_complete (ops : List BookOp)
    (ends : (({} : LapBook).run ops).1.readNext.2 = .tail) :
    let final := (({} : LapBook).run ops).1
    0 < final.count ∧ ∃ before pass, ops = before ++ pass ∧ .clear ∉ pass ∧
      readSteps (({} : LapBook).run ops).2 =
        readSteps (({} : LapBook).run before).2 ++ final.laps.map fun lap => .lap lap.time := by
  intro final
  have ordered : final.InOrder := run_inOrder {} ops inOrder_empty
  have row := readNext_row final ordered
  have past : final.laps ≠ [] ∧ final.readCursor = .tail := by
    generalize final.readNext.1 = next at row
    rw [ends] at row
    cases row with
    | tail held past => exact ⟨held, past⟩
  refine ⟨List.length_pos_iff.mpr past.1, ?_⟩
  obtain ⟨before, pass, rfl, fresh, goes⟩ := run_split {} ops inOrder_empty rfl
  refine ⟨before, pass, rfl, clear_not_mem _ pass goes, ?_⟩
  have reached := run_inOrder {} before inOrder_empty
  have all : final.behind = final.laps := by simp [behind, past.2]
  have whole : final.laps = (({} : LapBook).run before).1.delivered pass := by
    have behind' := run_behind _ pass reached goes
    rw [fresh, List.nil_append] at behind'
    rw [← all, ← behind']
    simp only [final, runBy_append]
  simp only [runBy_append, readSteps_append, whole]
  rw [run_reads _ pass reached goes]

/-- A late capture starts the pass over, and another one lengthens it. -/
theorem finished_pass_complete_lengthened :
    let ops : List BookOp := [.capture ⟨0, 1, 0⟩, .readNext, .capture ⟨0, 2, 0⟩, .readNext,
      .capture ⟨0, 3, 0⟩, .rewind, .replayNext, .readNext, .readNext]
    let final := (({} : LapBook).run ops).1
    final.readNext.2 = .tail ∧ final.count = 3 ∧
      ∃ before pass, ops = before ++ pass ∧ .clear ∉ pass ∧
        readSteps (({} : LapBook).run ops).2 =
          readSteps (({} : LapBook).run before).2 ++
            [.lap ⟨0, 1, 0⟩, .lap ⟨0, 2, 0⟩, .lap ⟨0, 3, 0⟩] := by
  intro ops final
  have ends : final.readNext.2 = .tail := by decide
  exact ⟨ends, by decide, (finished_pass_complete ops ends).2⟩

theorem prefixOf_behind (book : LapBook) : book.behind <+: book.laps := by
  unfold behind
  split
  · exact List.take_prefix _ _
  · exact List.prefix_refl _

theorem stretch_once (book : LapBook) (ops : List BookOp) (ordered : book.InOrder)
    (goes : Avoids Restarts book ops) : ((book.delivered ops).map Lap.index).Nodup := by
  have reached := run_inOrder book ops ordered
  have tail : book.delivered ops <:+ (book.run ops).1.behind :=
    ⟨book.behind, (run_behind book ops ordered goes).symm⟩
  have held := tail.sublist.trans (prefixOf_behind _).sublist
  exact (held.map Lap.index).nodup (nodup_numbered _ reached)

theorem behind_delivered (book : LapBook) (ops : List BookOp) (ordered : book.InOrder)
    (lap : Lap) (past : lap ∈ (book.run ops).1.behind) :
    lap ∈ book.behind ∨ lap ∈ book.delivered ops := by
  induction ops generalizing book with
  | nil => exact .inl past
  | cons op rest ih =>
      rw [delivered, List.mem_append]
      rcases ih (book.step op).1 (step_inOrder book op ordered) past with first | later
      · by_cases restarts : book.Restarts op
        · rw [(restart_behind book op ordered restarts).1] at first
          simp at first
        · rw [step_behind book op ordered restarts, List.mem_append] at first
          rcases first with before | here
          · exact .inl before
          · exact .inr (.inl here)
      · exact .inr (.inr later)

theorem step_grows (book : LapBook) (op : BookOp) (kept : op ≠ .clear) :
    book.laps <+: (book.step op).1.laps := by
  cases op with
  | capture time =>
      simp only [step]
      cases captured : book.capture time with
      | ok added =>
          obtain ⟨-, -, grown, -, -⟩ := capture_ok _ _ _ _ captured
          exact ⟨_, grown.symm⟩
      | error error => exact List.prefix_refl _
  | clear => exact absurd rfl kept
  | readNext => simp [step]
  | rewind => exact List.prefix_refl _
  | replayNext => simp [step]

theorem unread_stands (book : LapBook) (op : BookOp) (place : Nat) (kept : op ≠ .clear)
    (unread : op ≠ .readNext) (stands : book.readCursor = .lap place) :
    (book.step op).1.readCursor = .lap place := by
  cases op with
  | capture time =>
      simp only [step]
      cases captured : book.capture time with
      | ok added =>
          obtain ⟨-, -, -, -, cursor⟩ := capture_ok _ _ _ _ captured
          simpa [stands] using cursor
      | error error => exact stands
  | clear => exact absurd rfl kept
  | readNext => exact absurd rfl unread
  | rewind => exact stands
  | replayNext => exact (readCursor_replayNext book).trans stands

theorem first_delivered (book : LapBook) (first : Lap) (ops : List BookOp)
    (stands : book.readCursor = .lap 0) (held : book.laps[0]? = some first)
    (kept : .clear ∉ ops) (reads : .readNext ∈ ops) : first ∈ book.delivered ops := by
  induction ops generalizing book with
  | nil => simp at reads
  | cons op rest ih =>
      rw [List.mem_cons, not_or] at kept
      rw [delivered, List.mem_append]
      by_cases read : op = .readNext
      · left
        have nonempty : book.laps ≠ [] := by
          rintro none
          simp [none] at held
        simp [read, delivers, step, readNext, nonempty, stands, get?, held, under]
      · right
        have cleared : op ≠ .clear := fun same => kept.1 same.symm
        obtain ⟨more, grown⟩ := step_grows book op cleared
        have inside := (List.getElem?_eq_some_iff.mp held).1
        apply ih _ (unread_stands book op 0 cleared read stands) ?_ kept.2
        · rcases List.mem_cons.mp reads with same | later
          · exact absurd same.symm read
          · exact later
        · rw [← grown, List.getElem?_append_left inside]
          exact held

theorem unread_delivered (book : LapBook) (ops : List BookOp) (unread : .readNext ∉ ops) :
    book.delivered ops = [] := by
  induction ops generalizing book with
  | nil => rfl
  | cons op rest ih =>
      rw [List.mem_cons, not_or] at unread
      rw [delivered, ih _ unread.2, List.append_nil]
      cases op with
      | readNext => exact absurd rfl unread.1
      | capture time =>
          simp only [delivers, step]
          cases book.capture time <;> rfl
      | _ => rfl

-- After a late capture the next read delivers the first lap, which has been delivered.
theorem rewound_again (book : LapBook) (early late : List BookOp) (op : BookOp)
    (ordered : book.InOrder) (fresh : book.behind = []) (rewinds : (book.run early).1.Rewinds op)
    (kept : .clear ∉ late) (reads : .readNext ∈ late) :
    ¬ ((book.delivered (early ++ op :: late)).map Lap.index).Nodup := by
  obtain ⟨⟨time, rfl⟩, past, someLap, room⟩ := rewinds
  have first : (book.run early).1.laps[0]? = some (book.run early).1.laps[0] :=
    List.getElem?_eq_getElem someLap
  have before : (book.run early).1.laps[0] ∈ book.delivered early := by
    have gone : (book.run early).1.laps[0] ∈ (book.run early).1.behind := by
      simp only [behind, past]
      exact List.getElem_mem someLap
    rcases behind_delivered book early ordered _ gone with none | given
    · simp [fresh] at none
    · exact given
  have again : (book.run early).1.laps[0] ∈
      (book.run early).1.delivered (.capture time :: late) := by
    obtain ⟨more, grown⟩ := step_grows (book.run early).1 (.capture time) (by simp)
    rw [delivered, List.mem_append]
    right
    apply first_delivered _ _ late ?_ ?_ kept reads
    · simp [step, capture, room, past]
    · rw [← grown, List.getElem?_append_left someLap]
      exact first
  intro once
  rw [delivered_append, List.map_append, List.nodup_append] at once
  exact once.2.2 _ (List.mem_map_of_mem before) _ (List.mem_map_of_mem again) rfl

/-- A pass begins with the first operation, or after an answer that ends the pass
before it. -/
def PassBegins (before : List BookOp) : Prop :=
  before = [] ∨ ∃ earlier, before = earlier ++ [.readNext] ∧
    (({} : LapBook).run earlier).1.readNext.2.isEnd = true

theorem begun_behind (before : List BookOp) (begins : PassBegins before) :
    (({} : LapBook).run before).1.behind = [] := by
  rcases begins with rfl | ⟨earlier, rfl, ends⟩
  · rfl
  · have ordered := run_inOrder {} earlier inOrder_empty
    simp only [runBy_append]
    exact (restart_behind _ .readNext ordered (.inr (.inl ends))).1

/-- A stretch of a pass delivers no lap twice unless a late capture falls into it:
one that finds all laps delivered and the end mark still to come. A whole pass
delivers a lap twice exactly where such a capture is followed by a read, for it
sends the cursor back to the first lap. -/
theorem pass_delivers_once (before pass : List BookOp) (begins : PassBegins before)
    (kept : .clear ∉ pass)
    (unended : ∀ result ∈ ((({} : LapBook).run before).1.run pass).2, result.isEnd = false) :
    let book := (({} : LapBook).run before).1
    (∀ early stretch late, pass = early ++ stretch ++ late →
        Avoids Rewinds (book.run early).1 stretch →
        (((book.run early).1.delivered stretch).map Lap.index).Nodup) ∧
      (((book.delivered pass).map Lap.index).Nodup ↔
        ∀ early op late, pass = early ++ op :: late →
          (book.run early).1.Rewinds op → .readNext ∉ late) := by
  intro book
  have ordered : book.InOrder := run_inOrder {} before inOrder_empty
  have fresh : book.behind = [] := begun_behind before begins
  have stretches : ∀ early stretch late, pass = early ++ stretch ++ late →
      Avoids Rewinds (book.run early).1 stretch →
      (((book.run early).1.delivered stretch).map Lap.index).Nodup := by
    rintro early stretch late rfl goes
    simp only [List.mem_append, not_or] at kept
    apply stretch_once _ stretch (run_inOrder book early ordered)
    apply avoids_restarts _ stretch kept.1.2 ?_ goes
    intro result member
    apply unended
    simp [book, runBy_append, member]
  refine ⟨stretches, ?_, ?_⟩
  · rintro once early op late rfl rewinds reads
    rw [List.mem_append, List.mem_cons, not_or, not_or] at kept
    exact rewound_again book early late op ordered fresh rewinds kept.2.2 reads once
  · intro unread
    rcases throughout_or_first book pass with goes | ⟨early, op, late, split, goes, hit⟩
    · exact stretches [] pass [] (List.append_nil _).symm goes
    · -- Nothing is read from the first late capture on.
      have rewinds : (book.run early).1.Rewinds op := Classical.not_not.mp hit
      have silent : .readNext ∉ op :: late := by
        have rest := unread early op late split rewinds
        obtain ⟨time, rfl⟩ := rewinds.1
        simpa using rest
      have nothing := unread_delivered (book.run early).1 (op :: late) silent
      rw [split, delivered_append, nothing, List.append_nil]
      exact stretches [] early (op :: late) split goes

/-- After an end mark a lap is read, a second one captured late, and both are read. -/
theorem pass_delivers_once_late :
    let before : List BookOp := [.capture ⟨0, 1, 0⟩, .readNext, .readNext]
    let pass : List BookOp := [.readNext, .capture ⟨0, 2, 0⟩, .readNext, .readNext]
    let book := (({} : LapBook).run before).1
    PassBegins before ∧ .clear ∉ pass ∧
      (∀ result ∈ (book.run pass).2, result.isEnd = false) ∧
      (book.delivered pass).map Lap.index = [0, 0, 1] ∧
      (((book.run [.readNext, .capture ⟨0, 2, 0⟩]).1.delivered
        [.readNext, .readNext]).map Lap.index).Nodup ∧
      ¬ ∀ early op late, pass = early ++ op :: late →
        (book.run early).1.Rewinds op → .readNext ∉ late := by
  intro before pass book
  have begins : PassBegins before := .inr ⟨[.capture ⟨0, 1, 0⟩, .readNext], rfl, by decide⟩
  have kept : .clear ∉ pass := by decide
  have unended : ∀ result ∈ (book.run pass).2, result.isEnd = false := by decide
  have law := pass_delivers_once before pass begins kept unended
  refine ⟨begins, kept, unended, by decide, ?_, ?_⟩
  · apply law.1 [.readNext, .capture ⟨0, 2, 0⟩] [.readNext, .readNext] [] rfl
    simp [Avoids, Throughout, Rewinds]
  · exact fun unread => absurd (law.2.mpr unread) (by decide)

/-- A pass can deliver a lap twice though only captures and reads are made. -/
theorem late_capture_repeats_lap :
    ¬ ∀ before pass : List BookOp, (∀ op ∈ before ++ pass, op.Streams) → PassBegins before →
      (∀ result ∈ ((({} : LapBook).run before).1.run pass).2, result.isEnd = false) →
      (((({} : LapBook).run before).1.delivered pass).map Lap.index).Nodup := by
  intro once
  have repeated := once []
    [.capture ⟨0, 1, 0⟩, .readNext, .capture ⟨0, 2, 0⟩, .readNext]
    (by simp [BookOp.Streams]) (.inl rfl) (by decide)
  exact absurd repeated (by decide)

end LapBook

end LapTimer
