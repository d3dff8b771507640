import LapTimer.Proofs.PlainUse

/-! The next round of a worker. A worker that is counted on has one round on the agenda, due
now or within one period. -/

namespace LapTimer

variable {P L : Type}

namespace Timekeeper

/-- The next round of a worker is at that instant: it is due by now, or the worker sleeps
until then. -/
def NextRound (keeper : Timekeeper P L) (worker : Worker) (instant : Nat) : Prop :=
  .worker worker ∈ keeper.ready ∧ keeper.millis = instant ∨ (instant, worker) ∈ keeper.asleep

theorem NextRound.same {keeper next : Timekeeper P L} {worker : Worker} {instant : Nat}
    (round : keeper.NextRound worker instant) (millis : next.millis = keeper.millis)
    (ready : .worker worker ∈ keeper.ready → .worker worker ∈ next.ready)
    (asleep : keeper.asleep ⊆ next.asleep) : next.NextRound worker instant := by
  rcases round with ⟨due, now⟩ | sleeps
  · exact .inl ⟨ready due, millis.trans now⟩
  · exact .inr (asleep sleeps)

theorem NextRound.head {keeper : Timekeeper P L} {worker : Worker} {rest : List Task}
    (head : keeper.ready = .worker worker :: rest) : keeper.NextRound worker keeper.millis :=
  .inl ⟨head ▸ List.mem_cons_self, rfl⟩

/-- A wake that passes over no sleeper leaves every round where it is. -/
theorem NextRound.wakeAt {keeper : Timekeeper P L} {worker : Worker} {later : Nat}
    (round : keeper.NextRound worker later) (instant : Nat) (idle : keeper.ready = [])
    (least : ∀ entry ∈ keeper.asleep, instant ≤ entry.1) :
    (keeper.wakeAt instant).NextRound worker later := by
  have sleeps : (later, worker) ∈ keeper.asleep := by simpa [NextRound, idle] using round
  rcases Nat.lt_or_eq_of_le (least _ sleeps) with after | now
  · exact .inr (by simp [Timekeeper.wakeAt, sleeps, after])
  · left
    refine ⟨?_, (wakeAt_frame keeper instant).2.1.trans now⟩
    simp only [Timekeeper.wakeAt, idle, List.nil_append, List.mem_map]
    exact ⟨_, List.mem_filter.mpr ⟨sleeps, by simp [now]⟩, rfl⟩

theorem booked_due (keeper : Timekeeper P L) (worker : Worker) :
    keeper.ready.count (.worker worker) ≤ keeper.booked worker := Nat.le_add_right _ _

theorem booked_asleep {keeper : Timekeeper P L} {worker : Worker} {instant : Nat}
    (sleeps : (instant, worker) ∈ keeper.asleep) :
    keeper.ready.count (.worker worker) + 1 ≤ keeper.booked worker := by
  have held : worker ∈ keeper.asleep.map Prod.snd := List.mem_map.mpr ⟨_, sleeps, rfl⟩
  exact Nat.add_le_add_left (List.count_pos_iff.mpr held) _

variable [Sink P Display.Write] [Sink L Switch]
  {faces : Registers P Display.Position UInt8} {lights : Registers L Lamp Bool}
  {settings : TimerSettings}

theorem InOrder.once {keeper : Timekeeper P L} (ordered : keeper.InOrder faces lights settings)
    (worker : Worker) :
    keeper.booked worker = if keeper.crew.unit.watch.countsOn worker then 1 else 0 := by
  rw [ordered.sound.booked worker, ordered.fit.manned.counted worker]

theorem InOrder.counted {keeper : Timekeeper P L}
    (ordered : keeper.InOrder faces lights settings) {worker : Worker} {instant : Nat}
    (round : keeper.NextRound worker instant) :
    keeper.crew.unit.watch.countsOn worker = true := by
  have once := ordered.once worker
  have booked : 0 < keeper.booked worker := by
    rcases round with ⟨due, -⟩ | sleeps
    · exact Nat.lt_of_lt_of_le (List.count_pos_iff.mpr due) (booked_due keeper worker)
    · exact Nat.lt_of_lt_of_le (Nat.succ_pos _) (booked_asleep sleeps)
  by_contra idle
  rw [if_neg idle] at once
  omega

theorem InOrder.nextRound {keeper : Timekeeper P L}
    (ordered : keeper.InOrder faces lights settings) (worker : Worker)
    (counted : keeper.crew.unit.watch.countsOn worker = true) :
    ∃ instant, keeper.NextRound worker instant := by
  have once := ordered.once worker
  rw [if_pos counted] at once
  by_cases due : .worker worker ∈ keeper.ready
  · exact ⟨keeper.millis, .inl ⟨due, rfl⟩⟩
  · have none := List.count_eq_zero.mpr due
    have sleeps : worker ∈ keeper.asleep.map Prod.snd := by
      apply List.count_pos_iff.mp
      unfold booked at once
      omega
    obtain ⟨⟨instant, _⟩, held, rfl⟩ := List.mem_map.mp sleeps
    exact ⟨instant, .inr held⟩

theorem InOrder.bounds {keeper : Timekeeper P L}
    (ordered : keeper.InOrder faces lights settings) {worker : Worker} {instant : Nat}
    (round : keeper.NextRound worker instant) :
    keeper.millis ≤ instant ∧ instant ≤ keeper.millis + period settings worker := by
  rcases round with ⟨-, rfl⟩ | sleeps
  · exact ⟨Nat.le_refl _, Nat.le_add_right _ _⟩
  · exact ⟨ordered.punctual.later _ sleeps, ordered.punctual.within _ sleeps⟩

-- Its one round is due, so the worker does not sleep.
theorem InOrder.due_now {keeper : Timekeeper P L}
    (ordered : keeper.InOrder faces lights settings) {worker : Worker} {rest : List Task}
    (head : keeper.ready = .worker worker :: rest) {instant : Nat}
    (round : keeper.NextRound worker instant) : keeper.millis = instant := by
  have once := ordered.once worker
  rw [if_pos (ordered.counted round)] at once
  rcases round with ⟨-, now⟩ | sleeps
  · exact now
  · have due : .worker worker ∈ keeper.ready := head ▸ List.mem_cons_self
    have first := List.count_pos_iff.mpr due
    have second := booked_asleep sleeps
    omega

/-- The worker at the head of the agenda is alive. What goes on after its round sleeps for a
period. -/
theorem InOrder.head_round {keeper : Timekeeper P L}
    (ordered : keeper.InOrder faces lights settings) {worker : Worker} {rest : List Task}
    (head : keeper.ready = .worker worker :: rest) :
    let next := ({ keeper with ready := rest } : Timekeeper P L).runTask (.worker worker)
    next.crew.unit = (Crew.work keeper.crew.unit worker).1 ∧
      next.asleep =
        if (Crew.work keeper.crew.unit worker).2 then
          keeper.asleep ++ [(keeper.millis + period settings worker, worker)]
        else keeper.asleep := by
  have live := (ordered.fit.manned.mem_iff worker).mpr (ordered.counted (.head head))
  have alive : keeper.crew.isLive worker = true := by simpa [Crew.isLive] using live
  simp only [runTask, Crew.round, alive, ↓reduceIte, ordered.punctual.keeps, and_self]

/-- The round of one worker leaves those of the others where they are. -/
theorem NextRound.other {keeper : Timekeeper P L} {worker other : Worker} {instant : Nat}
    {rest : List Task} (round : keeper.NextRound other instant)
    (head : keeper.ready = .worker worker :: rest) (apart : other ≠ worker) :
    (({ keeper with ready := rest } : Timekeeper P L).runTask (.worker worker)).NextRound
      other instant := by
  refine round.same rfl ?_ ?_
  · intro due
    rw [head] at due
    exact (List.mem_cons.mp due).resolve_left fun same => apart (Task.worker.inj same)
  · simp only [runTask]
    split
    · exact List.subset_append_left _ _
    · exact List.Subset.refl _

end Timekeeper

end LapTimer
