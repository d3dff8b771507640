/-! Operations taken one after the other by any machine that takes them one at a time. -/

namespace LapTimer

variable {σ ι ρ : Type}

/-- The final state and the result of every operation in turn. -/
def runBy (step : σ → ι → σ × ρ) (start : σ) : List ι → σ × List ρ
  | [] => (start, [])
  | op :: rest =>
      let (next, result) := step start op
      let (final, results) := runBy step next rest
      (final, result :: results)

/-- An operation together with its instant, taken as one. -/
def timed (step : σ → UInt64 → ι → σ × ρ) (state : σ) (entry : UInt64 × ι) : σ × ρ :=
  step state entry.1 entry.2

end LapTimer
