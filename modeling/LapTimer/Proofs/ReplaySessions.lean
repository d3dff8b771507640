import LapTimer.Proofs.Transitions
import LapTimer.Settings

/-! The sessions of the replays: the replays of a run are numbered by their place in it, as far
as one word goes. -/

namespace LapTimer

/-- The session of the replay that an operation began. -/
def WatchResult.begun : WatchResult → Option UInt32
  | .orders given => given.startStepper
  | _ => none

/-- The sessions of the replays that began in a run, in their order. -/
def sessionsBegun (results : List WatchResult) : List UInt32 :=
  results.filterMap WatchResult.begun

/-- Two counts agree in one word exactly if they differ by a multiple of its size. -/
theorem ofNat_eq_iff (a b : Nat) :
    UInt32.ofNat a = UInt32.ofNat b ↔ (UInt32.size : Int) ∣ (b : Int) - a := by
  have word : UInt32.size = 4294967296 := rfl
  rw [← UInt32.toNat_inj, UInt32.toNat_ofNat', UInt32.toNat_ofNat', word]
  omega

theorem add_ofNat_succ (session : UInt32) (n : Nat) :
    session + 1 + .ofNat n = session + .ofNat (n + 1) := by
  rw [UInt32.ofNat_add, UInt32.add_assoc, UInt32.add_comm 1]
  rfl

namespace Stopwatch

def BeginsReplay (watch : Stopwatch) (op : WatchOp) : Prop :=
  op = .press .replay ∧ watch.replay.active = false

/-- An operation begins a replay in the next session, or leaves the session as it was. -/
inductive SessionChange (watch : Stopwatch) (op : WatchOp) (next : Stopwatch)
    (result : WatchResult) : Prop
  | begun (begins : BeginsReplay watch op)
      (session : next.replay.session = watch.replay.session + 1)
      (told : result.begun = some (watch.replay.session + 1))
  | kept (goes : ¬ BeginsReplay watch op)
      (session : next.replay.session = watch.replay.session) (told : result.begun = none)

theorem press_session (watch : Stopwatch) (now : UInt64) (key : Key) :
    SessionChange watch (.press key) (watch.press now key).1
      (.orders (watch.press now key).2) := by
  have row := press_row watch now key
  generalize (watch.press now key).1 = next at row ⊢
  generalize (watch.press now key).2 = orders at row ⊢
  cases row with
  | replayBegun live => exact .begun ⟨rfl, live⟩ rfl rfl
  | replayLeft replays => exact .kept (by simp [BeginsReplay, replays]) rfl rfl
  | _ => exact .kept (by simp [BeginsReplay]) rfl rfl

theorem step_session (watch : Stopwatch) (now : UInt64) (op : WatchOp) :
    SessionChange watch op (watch.step now op).1 (watch.step now op).2 := by
  cases op with
  | press key => exact press_session watch now key
  | refresh =>
      have row := refresh_row watch now
      simp only [step]
      generalize (watch.refresh now).1 = next at row ⊢
      generalize (watch.refresh now).2 = outcome at row
      cases row <;> exact .kept (by simp [BeginsReplay]) rfl rfl
  | stepReplay session =>
      have row := stepReplay_row watch session now
      simp only [step]
      generalize (watch.stepReplay session now).1 = next at row ⊢
      generalize (watch.stepReplay session now).2 = outcome at row
      cases row <;> exact .kept (by simp [BeginsReplay]) rfl rfl
  | halt =>
      have session : (watch.halt now).1.replay.session = watch.replay.session := by
        by_cases runs : watch.meter.running = true
        · rw [halt_running watch now runs]
        · rw [halt_resting watch now (eq_false_of_ne_true runs)]
      exact .kept (by simp [BeginsReplay]) session rfl
  | _ => exact .kept (by simp [BeginsReplay]) rfl rfl

theorem SessionChange.told_iff {watch next : Stopwatch} {op : WatchOp} {result : WatchResult}
    (change : SessionChange watch op next result) :
    result.begun.isSome = true ↔ BeginsReplay watch op := by
  cases change with
  | begun begins _ told => exact iff_of_true (by simp [told]) begins
  | kept goes _ told => exact iff_of_false (by simp [told]) goes

/-- The sessions of a run are the numbers after the first, one after the other, and the
last of them is the session in the end. -/
theorem run_sessions (watch : Stopwatch) (ops : List (UInt64 × WatchOp)) :
    let sessions := sessionsBegun (watch.run ops).2
    (watch.run ops).1.replay.session = watch.replay.session + .ofNat sessions.length ∧
      ∀ place session, sessions[place]? = some session →
        session = watch.replay.session + .ofNat (place + 1) := by
  induction ops generalizing watch with
  | nil => exact ⟨(UInt32.add_zero _).symm, by simp [runBy, sessionsBegun]⟩
  | cons entry rest ih =>
      obtain ⟨now, op⟩ := entry
      obtain ⟨last, each⟩ := ih (watch.step now op).1
      simp only [runBy, timed, sessionsBegun]
      cases step_session watch now op with
      | kept _ same told =>
          rw [same] at last each
          rw [List.filterMap_cons_none told]
          exact ⟨last, each⟩
      | begun _ next told =>
          rw [next] at last each
          rw [List.filterMap_cons_some told]
          refine ⟨?_, ?_⟩
          · rw [List.length_cons, ← add_ofNat_succ]
            exact last
          · intro place session held
            cases place with
            | zero =>
                cases held
                rfl
            | succ place =>
                rw [each place session held, add_ofNat_succ]

theorem stepReplay_other (watch : Stopwatch) (session : UInt32) (now : UInt64)
    (other : watch.replay.active = false ∨ watch.replay.session ≠ session) :
    watch.stepReplay session now = (watch, .stale) := by
  apply if_pos
  simpa using other

theorem stepReplay_current (watch : Stopwatch) (now : UInt64)
    (replays : watch.replay.active = true) :
    (watch.stepReplay watch.replay.session now).2 ≠ .stale := by
  have row := stepReplay_row watch watch.replay.session now
  generalize (watch.stepReplay watch.replay.session now).1 = next at row
  generalize (watch.stepReplay watch.replay.session now).2 = outcome at row ⊢
  cases row with
  | stale other => simp [replays] at other
  | shown => exact nofun
  | ended => exact nofun

/-- The replays of a run are the presses of the replay key where none is on, in the order
of the run. A step meant for one of them is stale and does nothing at all once the latest
replay is over, and also while it goes on if later replays have begun, but fewer than a word
has values. Two replays share a session exactly if their places in the order differ by a
multiple of that number. A step of the latest replay is not stale while that replay is on. -/
theorem old_steps_stale (settings : TimerSettings) (ops : List (UInt64 × WatchOp)) :
    let final := (settings.watch.run ops).1
    let sessions := sessionsBegun (settings.watch.run ops).2
    (∀ now op, (final.step now op).2.begun.isSome = true ↔
        op = .press .replay ∧ final.replay.active = false) ∧
      ∀ place session, sessions[place]? = some session →
        (final.replay.active = false ∨
            place + 1 < sessions.length ∧ sessions.length - (place + 1) < UInt32.size →
          ∀ now, final.stepReplay session now = (final, .stale)) ∧
        (∀ (place' : Nat) session', sessions[place']? = some session' →
          (session = session' ↔ (UInt32.size : Int) ∣ (place' : Int) - place)) ∧
        (final.replay.active = true → place + 1 = sessions.length →
          ∀ now, (final.stepReplay session now).2 ≠ .stale) := by
  intro final sessions
  obtain ⟨last, each⟩ : final.replay.session = 0 + .ofNat sessions.length ∧ _ :=
    run_sessions settings.watch ops
  have first : settings.watch.replay.session = 0 := rfl
  simp only [first, UInt32.zero_add] at last each
  refine ⟨fun now op => (step_session final now op).told_iff, ?_⟩
  intro place session held
  have number := each place session held
  refine ⟨?_, ?_, ?_⟩
  · intro old now
    apply stepReplay_other
    rcases old with idle | ⟨later, few⟩
    · exact .inl idle
    · refine .inr ?_
      have word : UInt32.size = 4294967296 := rfl
      rw [last, number, ne_eq, ofNat_eq_iff, word]
      rw [word] at few
      omega
  · intro place' session' held'
    have gap : ((place' + 1 : Nat) : Int) - (place + 1 : Nat) = place' - place := by omega
    rw [number, each place' session' held', ofNat_eq_iff, gap]
  · intro replays latest now
    have current : final.replay.session = session := by rw [last, number, latest]
    rw [← current]
    exact stepReplay_current final now replays

/-- The second replay was left early and a third one is on: steps of the first two are
stale, and the step of the third shows a lap. -/
theorem old_steps_stale_third :
    let ops : List (UInt64 × WatchOp) := [(0, .press .run), (1000000000, .press .lap),
      (2000000000, .press .replay), (2000000000, .stepReplay 1), (3000000000, .stepReplay 1),
      (4000000000, .press .replay), (5000000000, .press .replay), (6000000000, .press .replay)]
    let run := ({} : TimerSettings).watch.run ops
    sessionsBegun run.2 = [1, 2, 3] ∧ run.1.replay.active = true ∧
      (∀ now, run.1.stepReplay 1 now = (run.1, .stale)) ∧
      (∀ now, run.1.stepReplay 2 now = (run.1, .stale)) ∧
      (∀ now, (run.1.stepReplay 3 now).2 ≠ .stale) ∧
      (run.1.stepReplay 3 7000000000).2 = .lap ⟨0, 1, 0⟩ := by
  intro ops run
  have sessions : sessionsBegun run.2 = [1, 2, 3] := by decide
  have replays : run.1.replay.active = true := by decide
  have law := (old_steps_stale {} ops).2
  have place : ∀ n : Nat, (sessionsBegun run.2)[n]? = ([1, 2, 3] : List UInt32)[n]? := by
    simp [sessions]
  have length : (sessionsBegun run.2).length = 3 := by rw [sessions]; rfl
  refine ⟨sessions, replays, ?_, ?_, ?_, by decide⟩
  · exact (law 0 1 (place 0)).1 (.inr (by rw [length]; decide))
  · exact (law 1 2 (place 1)).1 (.inr (by rw [length]; decide))
  · exact (law 2 3 (place 2)).2.2 replays length.symm

end Stopwatch

end LapTimer
