import LapTimer.Proofs.ReadPasses

/-! Books in order: no cursor ever points to a place without a lap. -/

namespace LapTimer.LapBook

/-- The cursor stands at the tail or on one of the laps. -/
def HasPlace (book : LapBook) (cursor : Cursor) : Prop :=
  cursor = .tail ∨ ∃ place < book.count, cursor = .lap place

/-- The operation follows its cursor to a place that holds no lap. -/
def Dangles (book : LapBook) : BookOp → Prop
  | .readNext => book.laps ≠ [] ∧
      ∃ place, book.readCursor = .lap place ∧ book.get? place = none
  | .replayNext => ∃ place, book.replayCursor = .lap place ∧ book.get? place = none
  | _ => False

/-- The lap at a place of the book with the lap at the place before it. -/
inductive Paired (book : LapBook) : Nat → Lap → Option Lap → Prop
  | first {lap : Lap} (found : book.laps[0]? = some lap) : Paired book 0 lap none
  | later {place : Nat} {lap previous : Lap} (found : book.laps[place + 1]? = some lap)
      (before : book.laps[place]? = some previous) :
      Paired book (place + 1) lap (some previous)

/-- The two answers of a step of the replay, with the book that each leaves. -/
inductive ReplayRow (book : LapBook) : LapBook → Option (Lap × Option Lap) → Prop
  | shown {place : Nat} {lap : Lap} {previous : Option Lap}
      (stands : book.replayCursor = .lap place) (pair : book.Paired place lap previous) :
      ReplayRow book { book with replayCursor := book.beyond place } (some (lap, previous))
  | past (stands : book.replayCursor = .tail) : ReplayRow book book none

variable {book : LapBook}

theorem InOrder.index (ordered : book.InOrder) (place : Nat) (lap : Lap)
    (found : book.laps[place]? = some lap) : lap.index.toNat = place := by
  have inside : place < book.count := (List.getElem?_eq_some_iff.mp found).1
  have number := congrArg (·[place]?) ordered.numbered
  simpa only [List.getElem?_map, found, Option.map_some, List.getElem?_range inside,
    Option.some.injEq] using number

theorem InOrder.not_dangles (ordered : book.InOrder) (op : BookOp) : ¬ book.Dangles op := by
  have found : ∀ place < book.count, book.get? place ≠ none := by
    intro place inside missing
    exact absurd (List.getElem?_eq_none_iff.mp missing) (Nat.not_le_of_lt inside)
  cases op with
  | readNext =>
      rintro ⟨-, place, stands, missing⟩
      exact found place (ordered.reading place stands) missing
  | replayNext =>
      rintro ⟨place, stands, missing⟩
      exact found place (ordered.replaying place stands) missing
  | _ => exact id

theorem avoids_dangles (book : LapBook) (ops : List BookOp) (ordered : book.InOrder) :
    Avoids Dangles book ops :=
  throughout_of_kept InOrder step_inOrder (fun _ op ordered => ordered.not_dangles op) book
    ordered ops

theorem paired_within (book : LapBook) (place : Nat) (inside : place < book.count) :
    ∃ lap, book.get? place = some lap ∧
      book.Paired place lap (if place = 0 then none else book.get? (place - 1)) := by
  have found : book.laps[place]? = some book.laps[place] := List.getElem?_eq_getElem inside
  refine ⟨_, found, ?_⟩
  cases place with
  | zero => exact .first found
  | succ place =>
      have earlier : place < book.laps.length := Nat.lt_of_succ_lt inside
      have before : book.laps[place]? = some book.laps[place] := List.getElem?_eq_getElem earlier
      rw [if_neg (Nat.succ_ne_zero place), Nat.add_sub_cancel, get?, before]
      exact .later found before

theorem replayNext_row (book : LapBook) (ordered : book.InOrder) :
    ReplayRow book book.replayNext.1 book.replayNext.2 := by
  cases stands : book.replayCursor with
  | tail =>
      simp only [replayNext, stands]
      exact .past stands
  | lap place =>
      obtain ⟨lap, found, pair⟩ := paired_within book place (ordered.replaying place stands)
      simp only [replayNext, stands, found]
      exact .shown stands pair

theorem hasPlace_iff (book : LapBook) (cursor : Cursor) :
    book.HasPlace cursor ↔ ∀ place, cursor = .lap place → place < book.count := by
  cases cursor <;> simp [HasPlace]

theorem HasPlace.none (empty : book.laps = []) (cursor : Cursor) (has : book.HasPlace cursor) :
    cursor = .tail := by
  apply has.resolve_right
  rintro ⟨place, inside, -⟩
  rw [count, empty] at inside
  exact Nat.not_lt_zero place inside

/--
Every book that operations have made of an empty one. It holds at most 128 laps, each at the
place of its number; each cursor stands at the tail or on one of the laps, so at the tail where
there are none. No operation on the way has followed a cursor to a place without a lap. The
next read gives the lap under its cursor, or the end where there is none; the next step of
the replay gives the lap under its own together with the lap before.
-/
theorem cursors_never_dangle (ops : List BookOp) :
    let book := (({} : LapBook).run ops).1
    book.count ≤ 128 ∧
      (∀ (place : Nat) (lap : Lap), book.laps[place]? = some lap → lap.index.toNat = place) ∧
      book.HasPlace book.readCursor ∧ book.HasPlace book.replayCursor ∧
      (book.laps = [] → book.readCursor = .tail ∧ book.replayCursor = .tail) ∧
      Avoids Dangles {} ops ∧
      ReadRow book book.readNext.1 book.readNext.2 ∧
      ReplayRow book book.replayNext.1 book.replayNext.2 := by
  intro book
  have ordered : book.InOrder := run_inOrder {} ops inOrder_empty
  have reading := (hasPlace_iff book _).mpr ordered.reading
  have replaying := (hasPlace_iff book _).mpr ordered.replaying
  refine ⟨ordered.bounded, ordered.index, reading, replaying, ?_,
    avoids_dangles {} ops inOrder_empty, readNext_row book ordered, replayNext_row book ordered⟩
  intro empty
  exact ⟨reading.none empty, replaying.none empty⟩

end LapTimer.LapBook
