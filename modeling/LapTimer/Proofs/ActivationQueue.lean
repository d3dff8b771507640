import LapTimer.Proofs.Channels
import LapTimer.Proofs.Runs

/-! Activations on their way through the queue. No activation is lost or made up while there is
a receiver, whoever has built the channel behind the queue. -/

namespace LapTimer

namespace Interrupt

variable {line next : Interrupt} {op : InterruptOp} {result : InterruptResult}

/-- One row for each way through an operation. -/
inductive Moved (line : Interrupt) : InterruptOp → Interrupt → InterruptResult → Prop
  | queued (held : 0 < line.lines) (served : line.receiving = true)
      (room : line.queued < line.depth) :
      Moved line .raise { line with queued := line.queued + 1 } (.raised true)
  | unqueued (held : 0 < line.lines)
      (noRoom : line.receiving = false ∨ line.depth ≤ line.queued) :
      Moved line .raise line (.raised false)
  | unraised (unheld : line.lines = 0) : Moved line .raise line .done
  | cloned (held : 0 < line.lines) :
      Moved line .clone { line with lines := line.lines + 1 } .done
  | uncloned (unheld : line.lines = 0) : Moved line .clone line .done
  | lineDropped : Moved line .dropLine { line with lines := line.lines - 1 } .done
  | receiverDropped :
      Moved line .dropReceiver { line with queued := 0, receiving := false } .done
  | activated (served : line.receiving = true) (waits : 0 < line.queued) :
      Moved line .wait { line with queued := line.queued - 1 } (.waited .activation)
  | ended (served : line.receiving = true) (empty : line.queued = 0) (unheld : line.lines = 0) :
      Moved line .wait line (.waited .ended)
  | blocked (served : line.receiving = true) (empty : line.queued = 0) (held : 0 < line.lines) :
      Moved line .wait line (.waited .pending)
  | unwaited (gone : line.receiving = false) : Moved line .wait line .done

theorem moved_raise (line : Interrupt) :
    Moved line .raise (line.step .raise).1 (line.step .raise).2 := by
  by_cases unheld : line.lines = 0
  · rw [step, if_pos unheld]
    exact .unraised unheld
  · have held := Nat.pos_of_ne_zero unheld
    have steps : line.step .raise = (line.raise.1, .raised line.raise.2) := if_neg unheld
    by_cases free : line.receiving = true ∧ line.queued < line.depth
    · have raised : line.raise = ({ line with queued := line.queued + 1 }, true) :=
        if_pos (by simpa using free)
      rw [steps, raised]
      exact .queued held free.1 free.2
    · have raised : line.raise = (line, false) := if_neg (by simpa using free)
      rw [steps, raised]
      apply Moved.unqueued held
      cases served : line.receiving with
      | false => exact .inl rfl
      | true => exact .inr (Nat.le_of_not_lt fun room => free ⟨served, room⟩)

theorem moved_wait (line : Interrupt) :
    Moved line .wait (line.step .wait).1 (line.step .wait).2 := by
  by_cases served : line.receiving = true
  · have steps : line.step .wait = (line.wait.1, .waited line.wait.2) := if_pos served
    rw [steps, wait]
    split
    next waits => exact .activated served waits
    next none =>
        have empty : line.queued = 0 := Nat.eq_zero_of_not_pos none
        split
        next unheld => exact .ended served empty unheld
        next held => exact .blocked served empty (Nat.pos_of_ne_zero held)
  · rw [step, if_neg served]
    exact .unwaited (Bool.eq_false_iff.mpr served)

theorem moved_step (line : Interrupt) (op : InterruptOp) :
    Moved line op (line.step op).1 (line.step op).2 := by
  cases op with
  | raise => exact moved_raise line
  | clone =>
      rw [step]
      split
      next unheld => exact .uncloned unheld
      next held => exact .cloned (Nat.pos_of_ne_zero held)
  | dropLine => exact .lineDropped
  | dropReceiver => exact .receiverDropped
  | wait => exact moved_wait line

/-- The raises that were queued. -/
def accepted (results : List InterruptResult) : Nat := results.count (.raised true)

/-- The waits that got an activation. -/
def delivered (results : List InterruptResult) : Nat := results.count (.waited .activation)

theorem Moved.balance (moved : Moved line op next result) (keeps : op ≠ .dropReceiver) :
    accepted [result] + line.queued = delivered [result] + next.queued := by
  cases moved with
  | receiverDropped => exact absurd rfl keeps
  | queued => exact Nat.add_comm 1 line.queued |>.trans (Nat.zero_add _).symm
  | activated _ waits => exact (Nat.zero_add _).trans (Nat.add_sub_cancel' waits).symm
  | _ => rfl

theorem Moved.receiving (moved : Moved line op next result) :
    next.receiving = true ↔ line.receiving = true ∧ op ≠ .dropReceiver := by
  cases moved <;> simp_all

theorem Moved.room (moved : Moved line op next result) (fits : line.queued ≤ line.depth) :
    next.depth = line.depth ∧ next.queued ≤ next.depth := by
  cases moved with
  | queued _ _ room => exact ⟨rfl, room⟩
  | receiverDropped => exact ⟨rfl, Nat.zero_le _⟩
  | activated => exact ⟨rfl, Nat.le_trans (Nat.sub_le _ _) fits⟩
  | _ => exact ⟨rfl, fits⟩

/-- Without a line nothing is queued any more, and a wait takes what is. -/
theorem Moved.drains (moved : Moved line op next result) (unheld : line.lines = 0)
    (served : line.receiving = true) (keeps : op ≠ .dropReceiver) :
    next.lines = 0 ∧ next.queued = line.queued - [op].count .wait ∧
      delivered [result] = min ([op].count .wait) line.queued := by
  cases moved with
  | queued held => omega
  | unqueued held => omega
  | cloned held => omega
  | receiverDropped => exact absurd rfl keeps
  | blocked _ _ held => omega
  | unwaited gone => exact absurd served (Bool.eq_false_iff.mp gone)
  | unraised => exact ⟨unheld, rfl, (Nat.zero_min _).symm⟩
  | uncloned => exact ⟨unheld, rfl, (Nat.zero_min _).symm⟩
  | lineDropped => exact ⟨by simp [unheld], rfl, (Nat.zero_min _).symm⟩
  | activated _ waits => exact ⟨unheld, rfl, (Nat.min_eq_left waits).symm⟩
  | ended _ empty => exact ⟨unheld, by simp [empty], by simp [delivered, empty]⟩

theorem Moved.raised (moved : Moved line .raise next result) (held : 0 < line.lines)
    (fits : line.queued ≤ line.depth) : ∃ queued, result = .raised queued ∧
      (queued = false ↔ line.receiving = false ∨ line.queued = line.depth) := by
  cases moved with
  | queued _ served room =>
      refine ⟨true, rfl, ?_⟩
      simp only [served, Bool.true_eq_false, false_or, false_iff]
      omega
  | unqueued _ noRoom =>
      exact ⟨false, rfl, iff_of_true rfl (noRoom.imp_right (Nat.le_antisymm fits))⟩
  | unraised unheld => omega

theorem Moved.waited (moved : Moved line .wait next result) (served : line.receiving = true) :
    (result = .waited .activation ↔ 0 < line.queued) ∧
      (result = .waited .ended ↔ line.queued = 0 ∧ line.lines = 0) ∧
      (result = .waited .pending ↔ line.queued = 0 ∧ 0 < line.lines) := by
  cases moved with
  | activated _ waits =>
      exact ⟨iff_of_true rfl waits, iff_of_false nofun fun idle => by omega,
        iff_of_false nofun fun idle => by omega⟩
  | ended _ empty unheld =>
      exact ⟨iff_of_false nofun (by omega), iff_of_true rfl ⟨empty, unheld⟩,
        iff_of_false nofun fun idle => by omega⟩
  | blocked _ empty held =>
      exact ⟨iff_of_false nofun (by omega), iff_of_false nofun fun idle => by omega,
        iff_of_true rfl ⟨empty, held⟩⟩
  | unwaited gone => exact absurd served (Bool.eq_false_iff.mp gone)

theorem accepted_append (results more : List InterruptResult) :
    accepted (results ++ more) = accepted results + accepted more := List.count_append

theorem delivered_append (results more : List InterruptResult) :
    delivered (results ++ more) = delivered results + delivered more := List.count_append

theorem results_run_cons (line : Interrupt) (op : InterruptOp) (rest : List InterruptOp) :
    (line.run (op :: rest)).2 = [(line.step op).2] ++ ((line.step op).1.run rest).2 := rfl

theorem run_balance (line : Interrupt) (ops : List InterruptOp)
    (keeps : .dropReceiver ∉ ops) :
    accepted (line.run ops).2 + line.queued =
      delivered (line.run ops).2 + (line.run ops).1.queued := by
  induction ops generalizing line with
  | nil => rfl
  | cons op rest ih =>
      rw [List.mem_cons, not_or] at keeps
      have first := (moved_step line op).balance (Ne.symm keeps.1)
      have later := ih (line.step op).1 keeps.2
      have last : (line.run (op :: rest)).1 = ((line.step op).1.run rest).1 := rfl
      rw [results_run_cons, last, accepted_append, delivered_append]
      omega

theorem run_receiving (line : Interrupt) (ops : List InterruptOp) :
    (line.run ops).1.receiving = true ↔ line.receiving = true ∧ .dropReceiver ∉ ops := by
  induction ops generalizing line with
  | nil => simp [runBy]
  | cons op rest ih =>
      show ((line.step op).1.run rest).1.receiving = true ↔ _
      rw [ih, (moved_step line op).receiving, List.mem_cons, not_or, and_assoc,
        ne_comm]

theorem run_room (line : Interrupt) (ops : List InterruptOp)
    (fits : line.queued ≤ line.depth) :
    (line.run ops).1.depth = line.depth ∧
      (line.run ops).1.queued ≤ (line.run ops).1.depth := by
  apply runBy_keeps (fun next => next.depth = line.depth ∧ next.queued ≤ next.depth) ?_ line
    ⟨rfl, fits⟩
  intro next op ⟨same, fits⟩
  obtain ⟨same', fits'⟩ := (moved_step next op).room fits
  exact ⟨same'.trans same, fits'⟩

theorem run_drains (line : Interrupt) (ops : List InterruptOp) (unheld : line.lines = 0)
    (served : line.receiving = true) (keeps : .dropReceiver ∉ ops) :
    delivered (line.run ops).2 = min (ops.count .wait) line.queued := by
  induction ops generalizing line with
  | nil => exact (Nat.zero_min _).symm
  | cons op rest ih =>
      rw [List.mem_cons, not_or] at keeps
      have moved := moved_step line op
      obtain ⟨unheld', left, first⟩ := moved.drains unheld served (Ne.symm keeps.1)
      have later := ih (line.step op).1 unheld'
        (moved.receiving.mpr ⟨served, Ne.symm keeps.1⟩) keeps.2
      have waits : (op :: rest).count .wait = [op].count .wait + rest.count .wait := by
        rw [← List.count_append, List.singleton_append]
      rw [results_run_cons, delivered_append, first, later, left, waits]
      omega

/-- Whatever is done with the lines and the receiver, in whatever order: while there is a
receiver, what was queued has been delivered or still waits, and there is never more of it
than the depth allows. A raise fails exactly at a full queue or without a receiver. A wait
gets an activation if there is one, ends if there is none and no line, and is blocked
otherwise; so all that was queued is delivered after the last line is gone. All of this holds
of the lines and the receiver of any channel, for as great a depth as it can be made with. -/
theorem activations_conserved {κ : Type} (kit : Channel κ) (depth : Nat)
    (ops : List InterruptOp) :
    let line := ((ofDepth depth).run ops).1
    let results := ((ofDepth depth).run ops).2
    (.dropReceiver ∉ ops → accepted results = delivered results + line.queued) ∧
      line.queued ≤ max depth 1 ∧
      (0 < line.lines → ∃ queued, (line.step .raise).2 = .raised queued ∧
        (queued = false ↔ .dropReceiver ∈ ops ∨ line.queued = max depth 1)) ∧
      (.dropReceiver ∉ ops →
        ((line.step .wait).2 = .waited .activation ↔ 0 < line.queued) ∧
          ((line.step .wait).2 = .waited .ended ↔ line.queued = 0 ∧ line.lines = 0) ∧
          ((line.step .wait).2 = .waited .pending ↔ line.queued = 0 ∧ 0 < line.lines)) ∧
      (∀ more, .dropReceiver ∉ ops ++ more → line.lines = 0 →
        line.queued ≤ more.count .wait →
          delivered ((ofDepth depth).run (ops ++ more)).2 = accepted results) ∧
      (line.isClosed = true ↔ .dropReceiver ∈ ops) ∧
      (max depth 1 ≤ kit.limit → ∃ made, kit.line? depth = some made ∧
        (kit.run made ops).2 = results ∧ kit.view (kit.run made ops).1 = line ∧
        kit.isClosed (kit.run made ops).1 = line.isClosed) := by
  intro line results
  have balance (keeps : .dropReceiver ∉ ops) :
      accepted results = delivered results + line.queued :=
    run_balance (ofDepth depth) ops keeps
  have served : line.receiving = true ↔ .dropReceiver ∉ ops := by
    rw [run_receiving]
    exact and_iff_right rfl
  have gone : line.receiving = false ↔ .dropReceiver ∈ ops := by
    rw [← Bool.not_eq_true, served, Classical.not_not]
  obtain ⟨deep, fits⟩ : line.depth = max depth 1 ∧ line.queued ≤ line.depth :=
    run_room (ofDepth depth) ops (Nat.zero_le _)
  refine ⟨balance, deep ▸ fits, ?_, ?_, ?_, ?_, ?_⟩
  · intro held
    rw [← gone, ← deep]
    exact (moved_raise line).raised held fits
  · exact fun keeps => (moved_wait line).waited (served.mpr keeps)
  · intro more keeps unheld enough
    rw [List.mem_append, not_or] at keeps
    have rest := run_drains line more unheld (served.mpr keeps.1) keeps.2
    simp only [runBy_append, delivered_append]
    rw [rest, Nat.min_eq_right enough, balance keeps.1]
  · rw [isClosed, Bool.not_eq_true', gone]
  · intro bound
    have positive : 0 < max depth 1 := Nat.lt_of_lt_of_le Nat.one_pos (Nat.le_max_right _ _)
    obtain ⟨made, created, view⟩ := kit.creates (max depth 1) positive bound
    have same := kit.view_run made ops
    rw [view] at same
    have left : kit.view (kit.run made ops).1 = line := congrArg Prod.fst same
    refine ⟨made, created, congrArg Prod.snd same, left, ?_⟩
    rw [kit.closes, left, isClosed]

/-- A depth of zero makes room for one. The second raise fails, the one after the wait is
queued, and once both lines are gone it is still delivered before the waits end. -/
theorem activations_conserved_zeroDepth :
    let start : List InterruptOp := [.clone, .raise]
    let ops : List InterruptOp := start ++ [.raise, .wait, .raise, .dropLine, .dropLine]
    let line := ((ofDepth 0).run start).1
    let results := ((ofDepth 0).run ops).2
    accepted results = 2 ∧ delivered results = 1 ∧ ((ofDepth 0).run ops).1.queued = 1 ∧
      (line.step .raise).2 = .raised false ∧
      (((ofDepth 0).run ops).1.step .wait).2 = .waited .activation ∧
      delivered ((ofDepth 0).run (ops ++ [.wait, .raise, .wait])).2 = 2 ∧
      ∃ made, Mailbox.channel.line? 0 = some made ∧
        (Mailbox.channel.run made ops).2 = results := by
  intro start ops line results
  obtain ⟨-, -, raises, -⟩ := activations_conserved Mailbox.channel 0 start
  obtain ⟨balance, -, -, waits, drains, -, others⟩ :=
    activations_conserved Mailbox.channel 0 ops
  have two : accepted results = 2 := by decide
  have one : delivered results = 1 := by decide
  have queued : ((ofDepth 0).run ops).1.queued = 1 := by
    have kept := balance (by decide)
    rw [two, one] at kept
    omega
  obtain ⟨free, told, full⟩ := raises (by decide)
  have failed : free = false := full.mpr (.inr (by decide))
  obtain ⟨made, created, same, -⟩ := others (by decide)
  refine ⟨two, one, queued, ?_, (waits (by decide)).1.mpr (by rw [queued]; decide), ?_, made,
    created, same⟩
  · rw [told, failed]
  · rw [drains [.wait, .raise, .wait] (by decide) (by decide) (by decide), two]

end Interrupt

end LapTimer
