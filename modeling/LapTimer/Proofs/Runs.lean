import LapTimer.Run

/-! Runs of any machine: what every step keeps holds in the end. -/

namespace LapTimer

variable {σ τ ι ρ : Type} {step : σ → ι → σ × ρ} {step' : τ → ι → τ × ρ}

theorem runBy_append (start : σ) (ops more : List ι) :
    runBy step start (ops ++ more) =
      ((runBy step (runBy step start ops).1 more).1,
        (runBy step start ops).2 ++ (runBy step (runBy step start ops).1 more).2) := by
  induction ops generalizing start with
  | nil => rfl
  | cons op rest ih =>
      have later := ih (step start op).1
      simp only [List.cons_append, runBy, later]

/-- Each result of a run is that of an operation, and splits the run there. -/
theorem runBy_split (start : σ) (ops : List ι) (before later : List ρ) (result : ρ)
    (answered : (runBy step start ops).2 = before ++ result :: later) :
    ∃ earlier op rest, (runBy step start earlier).2 = before ∧
      (step (runBy step start earlier).1 op).2 = result ∧
      (runBy step (step (runBy step start earlier).1 op).1 rest).2 = later := by
  induction before generalizing start ops with
  | nil =>
      cases ops with
      | nil => exact nomatch answered
      | cons op rest =>
          obtain ⟨head, tail⟩ := List.cons.inj answered
          exact ⟨[], op, rest, rfl, head, tail⟩
  | cons first before ih =>
      cases ops with
      | nil => exact nomatch answered
      | cons op rest =>
          obtain ⟨head, tail⟩ := List.cons.inj answered
          obtain ⟨earlier, last, others, told, met, after⟩ := ih (step start op).1 rest tail
          exact ⟨op :: earlier, last, others, by rw [← head, ← told]; rfl, met, after⟩

/-- Two machines whose states stay matched, step by step with the same result, answer alike. -/
theorem runBy_matched (Matched : σ → τ → Prop)
    (each : ∀ state other op, Matched state other →
      Matched (step state op).1 (step' other op).1 ∧ (step state op).2 = (step' other op).2)
    (start : σ) (start' : τ) (first : Matched start start') (ops : List ι) :
    Matched (runBy step start ops).1 (runBy step' start' ops).1 ∧
      (runBy step start ops).2 = (runBy step' start' ops).2 := by
  induction ops generalizing start start' with
  | nil => exact ⟨first, rfl⟩
  | cons op rest ih =>
      obtain ⟨next, told⟩ := each start start' op first
      obtain ⟨last, others⟩ := ih (step start op).1 (step' start' op).1 next
      simp only [runBy, told, others]
      exact ⟨last, trivial⟩

/-- Every operation of a run is of some kind, each judged in the state that it meets. -/
def Throughout (step : σ → ι → σ × ρ) (kind : σ → ι → Prop) (start : σ) : List ι → Prop
  | [] => True
  | op :: rest => kind start op ∧ Throughout step kind (step start op).1 rest

variable {kind : σ → ι → Prop}

theorem throughout_append (start : σ) (ops more : List ι) :
    Throughout step kind start (ops ++ more) ↔
      Throughout step kind start ops ∧ Throughout step kind (runBy step start ops).1 more := by
  induction ops generalizing start with
  | nil => simp [Throughout, runBy]
  | cons op rest ih =>
      have later := ih (step start op).1
      simp only [List.cons_append, Throughout, runBy, later, and_assoc]

theorem throughout_of_mem (start : σ) (ops : List ι) (each : ∀ op ∈ ops, ∀ state, kind state op) :
    Throughout step kind start ops := by
  induction ops generalizing start with
  | nil => trivial
  | cons op rest ih =>
      have later := ih (step start op).1 fun other member => each other (.tail op member)
      exact ⟨each op (.head rest) start, later⟩

/-- An operation that is not of the kind, if there is any, comes first at some point. -/
theorem throughout_or_first (start : σ) (ops : List ι) :
    Throughout step kind start ops ∨ ∃ early op late, ops = early ++ op :: late ∧
      Throughout step kind start early ∧ ¬ kind (runBy step start early).1 op := by
  induction ops generalizing start with
  | nil => exact .inl trivial
  | cons op rest ih =>
      by_cases here : kind start op
      · rcases ih (step start op).1 with along | ⟨early, other, late, rfl, along, hit⟩
        · exact .inl ⟨here, along⟩
        · exact .inr ⟨op :: early, other, late, rfl, ⟨here, along⟩, hit⟩
      · exact .inr ⟨[], op, rest, rfl, trivial, here⟩

/-- What every operation of the kind keeps holds at the end of a run of that kind. -/
theorem Throughout.keeps (Kept : σ → Prop)
    (each : ∀ state op, kind state op → Kept state → Kept (step state op).1) {start : σ}
    {ops : List ι} (along : Throughout step kind start ops) (first : Kept start) :
    Kept (runBy step start ops).1 := by
  induction ops generalizing start with
  | nil => exact first
  | cons op rest ih => exact ih along.2 (each start op along.1 first)

theorem runBy_keeps (Kept : σ → Prop) (each : ∀ state op, Kept state → Kept (step state op).1)
    (start : σ) (first : Kept start) (ops : List ι) : Kept (runBy step start ops).1 := by
  have along : Throughout step (fun _ _ => True) start ops :=
    throughout_of_mem start ops fun _ _ _ => trivial
  exact along.keeps Kept (fun state op _ => each state op) first

/-- Where what every step keeps leaves room for one kind only, all of a run is of that kind. -/
theorem throughout_of_kept (Kept : σ → Prop)
    (each : ∀ state op, Kept state → Kept (step state op).1)
    (only : ∀ state op, Kept state → kind state op) (start : σ) (first : Kept start)
    (ops : List ι) : Throughout step kind start ops := by
  induction ops generalizing start with
  | nil => trivial
  | cons op rest ih => exact ⟨only start op first, ih (step start op).1 (each start op first)⟩

end LapTimer
