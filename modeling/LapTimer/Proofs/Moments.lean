import LapTimer.Run

/-! Runs told moment by moment. An onlooker behind a veil misses some operations, and a part of
each state and each answer; where no step brings out what the veil hides, no run does. -/

namespace LapTimer

structure Moment (σ ι ρ : Type) where
  op : ι
  result : ρ
  left : σ

section

variable {σ ι ρ : Type}

def moments (step : σ → ι → σ × ρ) (start : σ) : List ι → List (Moment σ ι ρ)
  | [] => []
  | op :: rest =>
      let (next, result) := step start op
      ⟨op, result, next⟩ :: moments step next rest

structure Veil (σ ι ρ : Type) where
  /-- The operations that are missed. -/
  hushed : ι → Bool
  state : σ → σ
  result : ρ → ρ := id

namespace Veil

def heard (veil : Veil σ ι ρ) (ops : List ι) : List ι := ops.filter fun op => !veil.hushed op

def seen (veil : Veil σ ι ρ) (step : σ → ι → σ × ρ) (start : σ) (ops : List ι) :
    List (Moment σ ι ρ) :=
  ((moments step start ops).filter fun moment => !veil.hushed moment.op).map
    fun moment => ⟨moment.op, veil.result moment.result, veil.state moment.left⟩

/-- A missed operation moves nothing that shows, and what shows of any other depends only
on what showed before. -/
structure Tight (veil : Veil σ ι ρ) (step : σ → ι → σ × ρ) : Prop where
  missed : ∀ state op, veil.hushed op = true →
    veil.state (step state op).1 = veil.state state
  others : ∀ state op, veil.hushed op = false →
    veil.result (step (veil.state state) op).2 = veil.result (step state op).2 ∧
      veil.state (step (veil.state state) op).1 = veil.state (step state op).1

variable {veil : Veil σ ι ρ} {step : σ → ι → σ × ρ}

theorem seen_missed (start : σ) (op : ι) (rest : List ι) (hushed : veil.hushed op = true) :
    veil.seen step start (op :: rest) = veil.seen step (step start op).1 rest := by
  simp [seen, moments, hushed]

theorem seen_heard (start : σ) (op : ι) (rest : List ι) (hushed : veil.hushed op = false) :
    veil.seen step start (op :: rest) =
      ⟨op, veil.result (step start op).2, veil.state (step start op).1⟩ ::
        veil.seen step (step start op).1 rest := by
  simp [seen, moments, hushed]

/-- A run shows as much as the run of its heard operations from any state that looks the same. -/
theorem Tight.heard_alone (tight : veil.Tight step) (start other : σ)
    (alike : veil.state start = veil.state other) (ops : List ι) :
    veil.seen step start ops = veil.seen step other (veil.heard ops) ∧
      veil.state (runBy step start ops).1 = veil.state (runBy step other (veil.heard ops)).1 := by
  induction ops generalizing start other with
  | nil => exact ⟨rfl, alike⟩
  | cons op rest ih =>
      cases hushed : veil.hushed op with
      | true =>
          have dropped : veil.heard (op :: rest) = veil.heard rest := by simp [heard, hushed]
          have still := (tight.missed start op hushed).trans alike
          rw [dropped, seen_missed start op rest hushed]
          exact ih (step start op).1 other still
      | false =>
          have kept : veil.heard (op :: rest) = op :: veil.heard rest := by simp [heard, hushed]
          have here := tight.others start op hushed
          have there := tight.others other op hushed
          have told : veil.result (step start op).2 = veil.result (step other op).2 := by
            rw [← here.1, alike, there.1]
          have moved : veil.state (step start op).1 = veil.state (step other op).1 := by
            rw [← here.2, alike, there.2]
          obtain ⟨later, final⟩ := ih (step start op).1 (step other op).1 moved
          rw [kept, seen_heard start op rest hushed, seen_heard other op _ hushed, told, moved,
            later]
          exact ⟨rfl, final⟩

theorem Tight.same_seen (tight : veil.Tight step) (start other : σ)
    (alike : veil.state start = veil.state other) (ops others : List ι)
    (same : veil.heard ops = veil.heard others) :
    veil.seen step start ops = veil.seen step other others ∧
      veil.state (runBy step start ops).1 = veil.state (runBy step other others).1 := by
  obtain ⟨seen, final⟩ := tight.heard_alone start other alike ops
  obtain ⟨seen', final'⟩ := tight.heard_alone other other rfl others
  rw [seen, final, same, seen', final']
  exact ⟨rfl, rfl⟩

/-- Whether the missed operations take place or not, all others do and answer the same. -/
def LeavesNoMark (veil : Veil σ ι ρ) (step : σ → ι → σ × ρ) : Prop :=
  ∀ start ops,
    veil.seen step start (veil.heard ops) = veil.seen step start ops ∧
      veil.state (runBy step start (veil.heard ops)).1 = veil.state (runBy step start ops).1

theorem Tight.leavesNoMark (tight : veil.Tight step) : veil.LeavesNoMark step := by
  intro start ops
  obtain ⟨seen, final⟩ := tight.heard_alone start start rfl ops
  exact ⟨seen.symm, final.symm⟩

end Veil

end

end LapTimer
