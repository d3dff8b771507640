import LapTimer.Proofs.HandlerLine

/-! Key strikes that come faster than the handler reads them. Where the queue is full some
activation waits in it, and its turn reads all bits latched until then. -/

namespace LapTimer

theorem Key.ofEdges?_eq_some (edges : UInt32) (key : Key) :
    Key.ofEdges? edges = some key ↔ edges = key.bit := by
  constructor
  · intro found
    have matching := List.find?_some found
    exact (beq_iff_eq.mp matching).symm
  · rintro rfl
    cases key <;> rfl

/-- Nothing that latches bits without a raise, and no shutdown. -/
def TimekeeperOp.SparesKeys : TimekeeperOp → Prop
  | .latch _ => False
  | .shutDown => False
  | _ => True

/-- What happens between the keys and the handler, and all that may happen meanwhile. -/
inductive KeyStep where
  | strike (bits : UInt32)
  /-- The handler takes an activation, if there is one, and reads the keys. -/
  | turn
  | other (op : TimekeeperOp) (spares : op.SparesKeys)

namespace Timekeeper

variable {P L : Type}

/-- The line is served and what is latched has an activation that waits for its turn. -/
structure Covered (depth : Nat) (keeper : Timekeeper P L) : Prop where
  served : keeper.line.receiving = true
  deep : keeper.line.depth = depth
  room : keeper.line.queued ≤ depth
  waits : keeper.keys.edges ≠ 0 → 0 < keeper.line.queued

theorem Covered.same {depth : Nat} {keeper next : Timekeeper P L}
    (covered : Covered depth keeper) (line : next.line = keeper.line)
    (keys : next.keys = keeper.keys) : Covered depth next := by
  constructor
  · rw [line]
    exact covered.served
  · rw [line]
    exact covered.deep
  · rw [line]
    exact covered.room
  · rw [line, keys]
    exact covered.waits

theorem line_wakeAt (keeper : Timekeeper P L) (instant : Nat) :
    (keeper.wakeAt instant).line = keeper.line := by
  rw [wakeAt]

def strike (keeper : Timekeeper P L) (bits : UInt32) : Timekeeper P L :=
  (keeper.latch bits).raise.1

-- A raise that is not queued has met a full queue, and a full queue is not empty.
theorem raise_queued (line : Interrupt) (served : line.receiving = true)
    (positive : 0 < line.depth) (room : line.queued ≤ line.depth) :
    line.raise.1.receiving = true ∧ line.raise.1.depth = line.depth ∧
      line.raise.1.queued ≤ line.depth ∧ 0 < line.raise.1.queued := by
  by_cases free : line.queued < line.depth
  · simp only [Interrupt.raise, served, free, decide_true, Bool.and_self, ↓reduceIte]
    exact ⟨trivial, trivial, free, Nat.succ_pos _⟩
  · simp only [Interrupt.raise, free, decide_false, Bool.and_false, Bool.false_eq_true,
      ↓reduceIte]
    exact ⟨served, trivial, room, by omega⟩

theorem covered_raise {depth : Nat} (positive : 0 < depth) (keeper : Timekeeper P L)
    (served : keeper.line.receiving = true) (deep : keeper.line.depth = depth)
    (room : keeper.line.queued ≤ depth) : Covered depth keeper.raise.1 := by
  subst deep
  obtain ⟨served', deep', room', queued⟩ := raise_queued keeper.line served positive room
  exact ⟨served', deep', room', fun _ => queued⟩

theorem covered_strike {depth : Nat} (positive : 0 < depth) (keeper : Timekeeper P L)
    (bits : UInt32) (covered : Covered depth keeper) : Covered depth (keeper.strike bits) :=
  covered_raise positive (keeper.latch bits) covered.served covered.deep covered.room

variable [Sink P Display.Write] [Sink L Switch]

theorem covered_readKeys {depth : Nat} (keeper : Timekeeper P L)
    (served : keeper.line.receiving = true) (deep : keeper.line.depth = depth)
    (room : keeper.line.queued ≤ depth) : Covered depth keeper.readKeys.1 := by
  have emptied : keeper.readKeys.1.keys.edges = 0 := rfl
  have line : keeper.readKeys.1.line = keeper.line := by
    unfold readKeys
    cases Key.ofEdges? keeper.keys.edges with
    | none => rfl
    | some key => exact (press_frame keeper key).2.2.2.1
  constructor
  · rw [line]
    exact served
  · rw [line]
    exact deep
  · rw [line]
    exact room
  · exact fun latched => absurd emptied latched

theorem wait_queued (line : Interrupt) (queued : 0 < line.queued) :
    line.wait = ({ line with queued := line.queued - 1 }, .activation) := if_pos queued

theorem activate_queued (keeper : Timekeeper P L) (queued : 0 < keeper.line.queued) :
    keeper.activate = (({ keeper with
      line := { keeper.line with queued := keeper.line.queued - 1 } } :
        Timekeeper P L).readKeys).1 := by
  rw [activate, wait_queued keeper.line queued]

theorem activate_idle (keeper : Timekeeper P L) (idle : keeper.line.queued = 0) :
    keeper.activate = keeper := by
  have none : ¬ 0 < keeper.line.queued := by omega
  by_cases lines : keeper.line.lines = 0
  · rw [activate, Interrupt.wait, if_neg none, if_pos lines]
  · rw [activate, Interrupt.wait, if_neg none, if_neg lines]

theorem covered_activate {depth : Nat} (keeper : Timekeeper P L)
    (covered : Covered depth keeper) : Covered depth keeper.activate := by
  by_cases queued : 0 < keeper.line.queued
  · rw [activate_queued keeper queued]
    apply covered_readKeys
    · exact covered.served
    · exact covered.deep
    · exact Nat.le_trans (Nat.sub_le _ _) covered.room
  · rwa [activate_idle keeper (by omega)]

theorem steady_covered (depth : Nat) : Steady (P := P) (L := L) (Covered depth) where
  handlerTaken _ _ _ covered := covered.same rfl rfl
  activate keeper _ := covered_activate keeper
  round _ _ _ _ covered := covered.same rfl rfl
  wakeAt keeper instant covered :=
    covered.same (line_wakeAt keeper instant) (keys_wakeAt keeper instant)

theorem covered_step {depth : Nat} (positive : 0 < depth) (keeper : Timekeeper P L)
    (op : TimekeeperOp) (spares : op.SparesKeys) (covered : Covered depth keeper) :
    Covered depth (keeper.step op).1 := by
  cases op with
  | press key =>
      obtain ⟨-, -, -, line, keys⟩ := press_frame keeper key
      exact covered.same line keys
  | sleep millis => exact (steady_covered depth).sleep keeper millis covered
  | attach =>
      rcases attach_cases keeper with ⟨-, same⟩ | ⟨-, attached⟩
      · rwa [same]
      · rw [attached]
        exact covered.same rfl rfl
  | latch bits => exact spares.elim
  | raise => exact covered_raise positive keeper covered.served covered.deep covered.room
  | readKeys => exact covered_readKeys keeper covered.served covered.deep covered.room
  | shutDown => exact spares.elim
  | consult op => exact covered.same rfl rfl

def keyStep (keeper : Timekeeper P L) : KeyStep → Timekeeper P L
  | .strike bits => keeper.strike bits
  | .turn => keeper.activate
  | .other op _ => (keeper.step op).1

def afterKeys (keeper : Timekeeper P L) (steps : List KeyStep) : Timekeeper P L :=
  steps.foldl keyStep keeper

theorem covered_afterKeys {depth : Nat} (positive : 0 < depth) (keeper : Timekeeper P L)
    (steps : List KeyStep) (covered : Covered depth keeper) :
    Covered depth (keeper.afterKeys steps) := by
  refine List.foldlRecOn steps keyStep covered fun keeper covered step _ => ?_
  cases step with
  | strike bits => exact covered_strike positive keeper bits covered
  | turn => exact covered_activate keeper covered
  | other op spares => exact covered_step positive keeper op spares covered

/-- The timekeeper once an activation has been taken off its line. -/
def taken (keeper : Timekeeper P L) : Timekeeper P L :=
  { keeper with line := { keeper.line with queued := keeper.line.queued - 1 } }

def acknowledged (keeper : Timekeeper P L) : Timekeeper P L :=
  { keeper with keys := keeper.keys.acknowledge }

theorem activate_key (keeper : Timekeeper P L) (queued : 0 < keeper.line.queued) (key : Key)
    (found : keeper.keys.edges = key.bit) :
    keeper.activate = acknowledged (keeper.taken.press key).1 := by
  have event : Key.ofEdges? keeper.taken.keys.edges = some key :=
    (Key.ofEdges?_eq_some _ key).mpr found
  have reads : keeper.taken.readKeys.1 = acknowledged (keeper.taken.press key).1 := by
    simp only [readKeys, event, acknowledged]
  rw [activate_queued keeper queued]
  exact reads

theorem readKeys_other (keeper : Timekeeper P L)
    (unknown : ∀ key : Key, keeper.keys.edges ≠ key.bit) :
    keeper.readKeys = (keeper.acknowledged, none) := by
  have event : Key.ofEdges? keeper.keys.edges = none := by
    rcases found : Key.ofEdges? keeper.keys.edges with _ | key
    · rfl
    · exact absurd ((Key.ofEdges?_eq_some _ key).mp found) (unknown key)
  simp only [readKeys, event, acknowledged]

theorem activate_other (keeper : Timekeeper P L) (queued : 0 < keeper.line.queued)
    (unknown : ∀ key : Key, keeper.keys.edges ≠ key.bit) :
    keeper.activate = acknowledged keeper.taken := by
  rw [activate_queued keeper queued]
  exact congrArg Prod.fst (keeper.taken.readKeys_other unknown)

theorem activate_counts (keeper : Timekeeper P L) (queued : 0 < keeper.line.queued) :
    keeper.activate.line.queued + 1 = keeper.line.queued ∧
      keeper.activate.keys = keeper.keys.acknowledge := by
  have less : keeper.taken.line.queued + 1 = keeper.line.queued :=
    Nat.succ_pred_eq_of_pos queued
  by_cases known : ∃ key : Key, keeper.keys.edges = key.bit
  · obtain ⟨key, found⟩ := known
    obtain ⟨-, -, -, line, keys⟩ := press_frame keeper.taken key
    rw [activate_key keeper queued key found]
    refine ⟨?_, congrArg EdgeRegister.acknowledge keys⟩
    rw [← less, ← line]
    rfl
  · rw [activate_other keeper queued fun key found => known ⟨key, found⟩]
    exact ⟨less, rfl⟩

theorem covered_attached (settings : TimerSettings) (panel : P) (lamps : L) :
    Covered (max settings.queueDepth.toNat 1)
      ((start settings panel lamps).step .attach).1 :=
  ⟨rfl, rfl, Nat.zero_le _, fun latched => absurd rfl latched⟩

/--
However the keys are struck, whatever the queue has room for and whatever else goes on,
bits that are latched have an activation that is still to be taken. The turn that takes it
presses a key where the register holds just that key, leaves everything but line and
register alone where it does not, and acknowledges once in both cases.
-/
theorem strikes_never_stranded (settings : TimerSettings) (panel : P) (lamps : L)
    (steps : List KeyStep) :
    let attached := ((start settings panel lamps).step .attach).1
    let keeper := attached.afterKeys steps
    (keeper.keys.edges ≠ 0 → 0 < keeper.line.queued) ∧
      (keeper.line.queued = 0 → keeper.keys.edges = 0 ∧ keeper.activate = keeper) ∧
      keeper.line.queued ≤ max settings.queueDepth.toNat 1 ∧
      (0 < keeper.line.queued →
        keeper.activate.line.queued + 1 = keeper.line.queued ∧
          keeper.activate.keys = { edges := 0, acks := keeper.keys.acks + 1 } ∧
          (∀ key : Key, keeper.keys.edges = key.bit →
            keeper.activate.crew = (keeper.crew.press key).1 ∧
              keeper.activate = acknowledged (keeper.taken.press key).1) ∧
          ((∀ key : Key, keeper.keys.edges ≠ key.bit) →
            keeper.activate.crew = keeper.crew ∧
              keeper.activate = acknowledged keeper.taken)) := by
  intro attached keeper
  have positive : 0 < max settings.queueDepth.toNat 1 := by omega
  have covered : Covered (max settings.queueDepth.toNat 1) keeper :=
    covered_afterKeys positive attached steps (covered_attached settings panel lamps)
  refine ⟨covered.waits, fun idle => ⟨?_, activate_idle keeper idle⟩, covered.room,
    fun queued => ?_⟩
  · by_contra latched
    have waiting := covered.waits latched
    omega
  · obtain ⟨fewer, once⟩ := activate_counts keeper queued
    refine ⟨fewer, once, fun key found => ?_, fun unknown => ?_⟩
    · have pressed := activate_key keeper queued key found
      refine ⟨?_, pressed⟩
      rw [pressed]
      exact (press_frame keeper.taken key).1
    · have same := activate_other keeper queued unknown
      refine ⟨?_, same⟩
      rw [same]
      rfl

-- The second strike finds no room, and the turn that the first one asked for meets two keys.
example :
    let attached := ((start { ({} : TimerSettings) with queueDepth := 0 }
      ({} : Display.Panel) ({} : LampBank)).step .attach).1
    let struck := attached.afterKeys [.strike Key.run.bit, .strike Key.lap.bit]
    struck.line.queued = 1 ∧ struck.keys.edges = 3 ∧ struck.activate.line.queued = 0 ∧
      struck.activate.keys = { edges := 0, acks := 1 } ∧
      struck.activate.crew.unit.watch.meter.running = false := by
  decide +kernel

end Timekeeper

end LapTimer
