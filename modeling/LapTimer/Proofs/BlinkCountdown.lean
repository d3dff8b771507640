import LapTimer.Proofs.LampCoherence

/-! The countdown of a blink. How it ends depends on the last arming alone, and its toggles
alternate through all armings. -/

namespace LapTimer

/-- Whether a blink is on: from an arming that asks for a worker to the tick that is done. -/
def blinkOpen (results : List BlinkResult) : Bool :=
  results.foldl (fun isOpen result =>
    match result with
    | .armed fresh => isOpen || fresh
    | .ticked (.toggle _) => isOpen
    | .ticked .done => false) false

/-- What the toggles made of the lamp, in their order. -/
def lampToggles (results : List BlinkResult) : List Bool :=
  results.filterMap fun result =>
    match result with
    | .ticked (.toggle lit) => some lit
    | _ => none

def Alternates : Bool → List Bool → Prop
  | _, [] => True
  | next, lit :: rest => lit = next ∧ Alternates (!next) rest

namespace Blinker

/-- The blinker agrees with what it answered: it is active just while a blink is on, and
nothing is left of a blink that is over. -/
structure Answers (results : List BlinkResult) (blinker : Blinker) : Prop where
  active : blinker.active = blinkOpen results
  settled : blinker.Settled

theorem tick_left (blinker : Blinker) (left : 0 < blinker.remaining) :
    blinker.tick = ({ blinker with remaining := blinker.remaining - 1, lit := !blinker.lit },
      .toggle (!blinker.lit)) := if_pos left

theorem tick_spent (blinker : Blinker) (spent : ¬ 0 < blinker.remaining) :
    blinker.tick = ({ blinker with lit := false, active := false }, .done) := if_neg spent

theorem answers_step (results : List BlinkResult) (blinker : Blinker)
    (answers : Answers results blinker) (op : BlinkOp) :
    Answers (results ++ [(blinker.step op).2]) (blinker.step op).1 := by
  obtain ⟨active, settled⟩ := answers
  rw [blinkOpen] at active
  cases op with
  | arm toggles =>
      constructor
      · rw [blinkOpen, List.foldl_append, ← active]
        simp [step, arm]
      · exact settled_armed blinker _ (.inr ⟨toggles, rfl⟩) settled
  | tick =>
      refine ⟨?_, settled_tick blinker settled⟩
      rw [blinkOpen, List.foldl_append, ← active]
      by_cases left : 0 < blinker.remaining
      · simp [step, tick_left blinker left]
      · simp [step, tick_spent blinker left]

theorem answers_run (before : List BlinkResult) (blinker : Blinker)
    (answers : Answers before blinker) (ops : List BlinkOp) :
    Answers (before ++ (blinker.run ops).2) (blinker.run ops).1 := by
  induction ops generalizing before blinker with
  | nil =>
      show Answers (before ++ []) blinker
      rwa [List.append_nil]
  | cons op rest ih =>
      have later := ih _ _ (answers_step before blinker answers op)
      rwa [List.append_assoc] at later

/-- Up to the tick that is done, each toggle turns the lamp over. -/
theorem alternates_run (blinker : Blinker) (ops : List BlinkOp)
    (during later : List BlinkResult) (answered : (blinker.run ops).2 = during ++ later)
    (goesOn : .ticked .done ∉ during) : Alternates (!blinker.lit) (lampToggles during) := by
  induction during generalizing blinker ops with
  | nil => trivial
  | cons result during ih =>
      cases ops with
      | nil => exact nomatch answered
      | cons op rest =>
          obtain ⟨head, tail⟩ := List.cons.inj answered
          have others := ih _ rest tail fun done => goesOn (.tail result done)
          subst head
          cases op with
          | arm toggles => exact others
          | tick =>
              by_cases left : 0 < blinker.remaining
              · simp only [tick_left blinker left] at others ⊢
                exact ⟨rfl, others⟩
              · have done : (blinker.step .tick).2 = .ticked .done := by
                  simp only [step, tick_spent blinker left]
                exact absurd (done ▸ .head during) goesOn

/-- What a tick answers that comes after so many others, with no arming among them. -/
def tickAfter (blinker : Blinker) (others : Nat) : BlinkOutcome :=
  (blinker.run (List.replicate others .tick)).1.tick.2

theorem remaining_tick (blinker : Blinker) :
    blinker.tick.1.remaining.toNat = blinker.remaining.toNat - 1 := by
  by_cases left : 0 < blinker.remaining
  · have positive : 1 ≤ blinker.remaining := UInt8.le_iff_toNat_le.mpr left
    rw [tick_left blinker left]
    exact UInt8.toNat_sub_of_le _ _ positive
  · have none : blinker.remaining = 0 := by simpa using left
    rw [tick_spent blinker left, none]
    rfl

theorem tickAfter_cases (blinker : Blinker) (others : Nat) :
    if others < blinker.remaining.toNat then ∃ lit, blinker.tickAfter others = .toggle lit
    else blinker.tickAfter others = .done := by
  induction others generalizing blinker with
  | zero =>
      by_cases left : 0 < blinker.remaining
      · have some : 0 < blinker.remaining.toNat := UInt8.lt_iff_toNat_lt.mp left
        rw [if_pos some]
        exact ⟨_, congrArg Prod.snd (tick_left blinker left)⟩
      · have none : ¬ 0 < blinker.remaining.toNat := fun some =>
          left (UInt8.lt_iff_toNat_lt.mpr some)
        rw [if_neg none]
        exact congrArg Prod.snd (tick_spent blinker left)
  | succ others ih =>
      have later := ih blinker.tick.1
      rw [remaining_tick] at later
      simp only [Nat.lt_sub_iff_add_lt] at later
      exact later

/--
However armings and ticks follow each other. One blink, from the arming that asks for a
worker to the next tick that is done, toggles the lamp in turns and lights it first. After
an arming there come as many toggles as it asked for, whatever was left before, and then
the blink is done. An arming asks for a worker just when no blink is on. A tick that is
done leaves nothing behind, and toggles are left only while the blinker is active.
-/
theorem countdown_law (ops : List BlinkOp) :
    let blinker := (({} : Blinker).run ops).1
    let results := (({} : Blinker).run ops).2
    (∀ before during later, results = before ++ .armed true :: (during ++ later) →
        .ticked .done ∉ during → Alternates true (lampToggles during)) ∧
      (∀ toggles others,
        if others < toggles.toNat then
          ∃ lit, (blinker.arm toggles).1.tickAfter others = .toggle lit
        else (blinker.arm toggles).1.tickAfter others = .done) ∧
      (∀ toggles, (blinker.arm toggles).2 = true ↔ blinkOpen results = false) ∧
      (blinker.tick.2 = .done → blinker.tick.1 = {}) ∧
      (0 < blinker.remaining → blinker.active = true) := by
  intro blinker results
  have fresh : Answers [] {} := ⟨rfl, fun _ => ⟨rfl, rfl⟩⟩
  have answers : Answers results blinker := answers_run [] {} fresh ops
  refine ⟨?_, ?_, ?_, ?_, ?_⟩
  · intro before during later answered goesOn
    obtain ⟨earlier, op, rest, -, met, after⟩ := runBy_split ({} : Blinker) ops before _ _ answered
    have settled := (answers_run [] {} fresh earlier).settled
    have alternates := alternates_run _ rest during later after goesOn
    -- The arming met no blink, so the lamp was off, and it left the lamp as it was.
    cases op with
    | tick => exact nomatch met
    | arm toggles =>
        have idle : (({} : Blinker).run earlier).1.active = false := by
          simpa [step, arm] using met
        simpa [step, arm, (settled idle).2] using alternates
  · intro toggles others
    exact tickAfter_cases (blinker.arm toggles).1 others
  · intro toggles
    rw [← answers.active]
    simp [arm]
  · intro done
    by_cases left : 0 < blinker.remaining
    · simp [tick_left blinker left] at done
    · have none : blinker.remaining = 0 := by simpa using left
      simp [tick_spent blinker left, none]
  · intro left
    by_contra idle
    have none := (answers.settled (eq_false_of_ne_true idle)).1
    rw [none] at left
    exact absurd left (by decide)

end Blinker

end LapTimer
