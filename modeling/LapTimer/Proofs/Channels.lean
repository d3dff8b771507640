import LapTimer.Interrupt
import LapTimer.Proofs.Runs

/-! Channels that somebody else has built. What such a channel documents of one call is enough
for lines and receiver to give the answers that the queue itself gives. -/

namespace LapTimer

/-- What trying to send comes to. -/
inductive Sending where
  | sent
  | full
  | closed

/-- A bounded channel for messages without content, with senders that can be cloned and one
receiver. `view` is what its documentation speaks of: the room, the messages that wait, the
number of senders, and whether there is a receiver. -/
structure Channel (κ : Type) where
  /-- The greatest room that a channel can be made with. -/
  limit : Nat
  create? : Nat → Option κ
  trySend : κ → κ × Sending
  /-- One poll of the receiver: nothing yet, the end of the messages, or one of them. -/
  receive : κ → κ × Option (Option Unit)
  cloneSender : κ → κ
  dropSender : κ → κ
  dropReceiver : κ → κ
  isClosed : κ → Bool
  view : κ → Interrupt
  creates : ∀ room, 0 < room → room ≤ limit →
    ∃ made, create? room = some made ∧ view made = { depth := room }
  sends : ∀ channel, (view channel).receiving = true →
    (view channel).queued < (view channel).depth →
      (trySend channel).2 = .sent ∧ view (trySend channel).1 =
        { view channel with queued := (view channel).queued + 1 }
  refuses : ∀ channel, (view channel).receiving = true →
    (view channel).depth ≤ (view channel).queued →
      (trySend channel).2 = .full ∧ view (trySend channel).1 = view channel
  loses : ∀ channel, (view channel).receiving = false →
    (trySend channel).2 = .closed ∧ view (trySend channel).1 = view channel
  receives : ∀ channel, (view channel).receiving = true → 0 < (view channel).queued →
      (receive channel).2 = some (some ()) ∧ view (receive channel).1 =
        { view channel with queued := (view channel).queued - 1 }
  ends : ∀ channel, (view channel).receiving = true → (view channel).queued = 0 →
    (view channel).lines = 0 →
      (receive channel).2 = some none ∧ view (receive channel).1 = view channel
  pends : ∀ channel, (view channel).receiving = true → (view channel).queued = 0 →
    0 < (view channel).lines →
      (receive channel).2 = none ∧ view (receive channel).1 = view channel
  clones : ∀ channel, view (cloneSender channel) =
    { view channel with lines := (view channel).lines + 1 }
  drops : ∀ channel, view (dropSender channel) =
    { view channel with lines := (view channel).lines - 1 }
  leaves : ∀ channel, view (dropReceiver channel) =
    { view channel with queued := 0, receiving := false }
  closes : ∀ channel, isClosed channel = !(view channel).receiving

namespace Channel

variable {κ : Type} (kit : Channel κ)

/-- The channel between the lines and the receiver; it has room for one activation at least. -/
def line? (depth : Nat) : Option κ := kit.create? (max depth 1)

def raise (channel : κ) : κ × Bool :=
  match kit.trySend channel with
  | (next, .sent) => (next, true)
  | (next, .full) => (next, false)
  | (next, .closed) => (next, false)

def wait (channel : κ) : κ × Wait :=
  match kit.receive channel with
  | (next, some (some ())) => (next, .activation)
  | (next, some none) => (next, .ended)
  | (next, none) => (next, .pending)

def step (channel : κ) : InterruptOp → κ × InterruptResult
  | .raise =>
      if (kit.view channel).lines = 0 then (channel, .done)
      else
        let (next, queued) := kit.raise channel
        (next, .raised queued)
  | .clone =>
      if (kit.view channel).lines = 0 then (channel, .done)
      else (kit.cloneSender channel, .done)
  | .dropLine => (kit.dropSender channel, .done)
  | .dropReceiver => (kit.dropReceiver channel, .done)
  | .wait =>
      if (kit.view channel).receiving then
        let (next, wait) := kit.wait channel
        (next, .waited wait)
      else (channel, .done)

abbrev run (channel : κ) (ops : List InterruptOp) : κ × List InterruptResult :=
  runBy kit.step channel ops

theorem view_raise (channel : κ) :
    (kit.view (kit.raise channel).1, (kit.raise channel).2) = (kit.view channel).raise := by
  unfold raise Interrupt.raise
  rcases sending : kit.trySend channel with ⟨next, answer⟩
  cases served : (kit.view channel).receiving with
  | false =>
      have lost := kit.loses channel served
      rw [sending] at lost
      obtain ⟨rfl, same⟩ := lost
      simp [same]
  | true =>
      by_cases room : (kit.view channel).queued < (kit.view channel).depth
      · have sent := kit.sends channel served room
        rw [sending] at sent
        obtain ⟨rfl, same⟩ := sent
        simp [same, served, room]
      · have refused := kit.refuses channel served (Nat.le_of_not_lt room)
        rw [sending] at refused
        obtain ⟨rfl, same⟩ := refused
        simp [same, room]

theorem view_wait (channel : κ) (served : (kit.view channel).receiving = true) :
    (kit.view (kit.wait channel).1, (kit.wait channel).2) = (kit.view channel).wait := by
  unfold wait Interrupt.wait
  rcases receiving : kit.receive channel with ⟨next, message⟩
  by_cases waits : 0 < (kit.view channel).queued
  · have received := kit.receives channel served waits
    rw [receiving] at received
    obtain ⟨rfl, same⟩ := received
    simp [same, waits]
  · have empty : (kit.view channel).queued = 0 := Nat.eq_zero_of_not_pos waits
    by_cases unheld : (kit.view channel).lines = 0
    · have ended := kit.ends channel served empty unheld
      rw [receiving] at ended
      obtain ⟨rfl, same⟩ := ended
      simp [same, empty, unheld]
    · have pending := kit.pends channel served empty (Nat.pos_of_ne_zero unheld)
      rw [receiving] at pending
      obtain ⟨rfl, same⟩ := pending
      simp [same, empty, unheld]

theorem view_step (channel : κ) (op : InterruptOp) :
    (kit.view (kit.step channel op).1, (kit.step channel op).2) =
      (kit.view channel).step op := by
  cases op with
  | raise =>
      by_cases unheld : (kit.view channel).lines = 0
      · simp only [step, Interrupt.step, if_pos unheld]
      · simp only [step, Interrupt.step, if_neg unheld, ← view_raise]
  | clone =>
      by_cases unheld : (kit.view channel).lines = 0
      · simp only [step, Interrupt.step, if_pos unheld]
      · simp only [step, Interrupt.step, if_neg unheld, clones, Interrupt.clone]
  | dropLine => simp only [step, Interrupt.step, drops, Interrupt.dropLine]
  | dropReceiver => simp only [step, Interrupt.step, leaves, Interrupt.dropReceiver]
  | wait =>
      by_cases served : (kit.view channel).receiving = true
      · simp only [step, Interrupt.step, if_pos served, ← kit.view_wait channel served]
      · simp only [step, Interrupt.step, if_neg served]

/-- The channel answers what the queue answers. -/
theorem view_run (channel : κ) (ops : List InterruptOp) :
    (kit.view (kit.run channel ops).1, (kit.run channel ops).2) =
      (kit.view channel).run ops := by
  have each (channel : κ) (line : Interrupt) (op : InterruptOp)
      (viewed : kit.view channel = line) :
      kit.view (kit.step channel op).1 = (line.step op).1 ∧
        (kit.step channel op).2 = (line.step op).2 := by
    subst viewed
    exact Prod.mk.inj (kit.view_step channel op)
  obtain ⟨viewed, told⟩ := runBy_matched _ each channel (kit.view channel) rfl ops
  exact Prod.ext viewed told

end Channel

/-- A channel that keeps its messages in a list. -/
structure Mailbox where
  room : Nat
  messages : List Unit := []
  senders : Nat := 1
  served : Bool := true

namespace Mailbox

def trySend (box : Mailbox) : Mailbox × Sending :=
  if box.served then
    if box.messages.length < box.room then
      ({ box with messages := box.messages ++ [()] }, .sent)
    else (box, .full)
  else (box, .closed)

def receive (box : Mailbox) : Mailbox × Option (Option Unit) :=
  match box.messages with
  | message :: rest => ({ box with messages := rest }, some (some message))
  | [] => (box, if box.senders = 0 then some none else none)

def channel : Channel Mailbox where
  limit := 0x1fffffffffffffff
  create? room := if 0 < room ∧ room ≤ 0x1fffffffffffffff then some { room } else none
  trySend := trySend
  receive := receive
  cloneSender box := { box with senders := box.senders + 1 }
  dropSender box := { box with senders := box.senders - 1 }
  dropReceiver box := { box with messages := [], served := false }
  isClosed box := !box.served
  view box :=
    { depth := box.room, queued := box.messages.length, lines := box.senders,
      receiving := box.served }
  creates room positive bound := ⟨{ room }, if_pos ⟨positive, bound⟩, rfl⟩
  sends box served room := by
    have free : box.messages.length < box.room := room
    have taken : box.served = true := served
    simp [trySend, taken, free]
  refuses box served full := by
    have taken : box.served = true := served
    have noRoom : ¬ box.messages.length < box.room := Nat.not_lt.mpr full
    simp [trySend, taken, noRoom]
  loses box gone := by
    have closed : box.served = false := gone
    simp [trySend, closed]
  receives box _ waits := by
    obtain ⟨room, _ | ⟨message, rest⟩, senders, served⟩ := box
    · cases waits
    · exact ⟨rfl, rfl⟩
  ends box _ empty unheld := by
    have none : box.messages = [] := List.length_eq_zero_iff.mp empty
    have last : box.senders = 0 := unheld
    simp [receive, none, last]
  pends box _ empty held := by
    have none : box.messages = [] := List.length_eq_zero_iff.mp empty
    have some : box.senders ≠ 0 := Nat.ne_of_gt held
    simp [receive, none, some]
  clones _ := rfl
  drops _ := rfl
  leaves _ := rfl
  closes _ := rfl

end Mailbox

end LapTimer
