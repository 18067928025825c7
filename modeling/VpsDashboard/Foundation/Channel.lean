/-
# VpsDashboard.Foundation.Channel — Go's buffered channels

A channel is a bounded queue that can be closed once.  What it holds when it is
closed can still be received.  `send` is the `select` with a `default` case, which
never blocks; a send or a close after the close panics.

Each operation has its specification: `send_open` and `close_open` of a channel
that is open, `receive_some`, `receive_none`, `receive_ended` and
`receive_waits` of any.
-/
import Mathlib.Data.List.Basic

namespace VpsDashboard.Foundation

set_option autoImplicit false

/-- The run-time errors that end the process. -/
inductive Panic where
  | sendOnClosedChannel
  | closeOfClosedChannel
deriving DecidableEq

/-- A channel made with room for `capacity` values. -/
structure Channel (capacity : Nat) (α : Type) where
  buffer : List α
  closed : Bool
  fits : buffer.length ≤ capacity

namespace Channel

variable {capacity : Nat} {α : Type}

def make (capacity : Nat) (α : Type) : Channel capacity α := ⟨[], false, Nat.zero_le capacity⟩

theorem room_for {buffer : List α} (value : α) (room : buffer.length < capacity) :
    (buffer ++ [value]).length ≤ capacity := by
  rw [List.length_append, List.length_singleton]
  exact room

/-- Send without blocking, and whether the value was taken. -/
def send (c : Channel capacity α) (value : α) : Except Panic (Bool × Channel capacity α) :=
  if c.closed then .error .sendOnClosedChannel
  else if room : c.buffer.length < capacity then
    .ok (true, { c with buffer := c.buffer ++ [value], fits := room_for value room })
  else .ok (false, c)

def close (c : Channel capacity α) : Except Panic (Channel capacity α) :=
  if c.closed then .error .closeOfClosedChannel else .ok { c with closed := true }

/-- Receive: a value, or none from a channel that is closed and empty.  A receive
from an open empty channel does not return. -/
def receive (c : Channel capacity α) : Option (Option α × Channel capacity α) :=
  match held : c.buffer with
  | value :: rest => some (some value, { c with
      buffer := rest
      fits := by
        have fits := c.fits
        rw [held, List.length_cons] at fits
        omega })
  | [] => if c.closed then some (none, c) else none

@[simp] theorem make_buffer : (make capacity α).buffer = [] := rfl

@[simp] theorem make_closed : (make capacity α).closed = false := rfl

/-- An open channel takes the value at its end, or is full and stays as it is. -/
theorem send_open {c : Channel capacity α} (isOpen : c.closed = false) (value : α) :
    (∃ c', c.send value = .ok (true, c') ∧ c'.buffer = c.buffer ++ [value] ∧ c'.closed = false) ∨
      c.send value = .ok (false, c) := by
  unfold send
  rw [if_neg (by simp [isOpen])]
  by_cases room : c.buffer.length < capacity
  · left
    exact ⟨_, dif_pos room, rfl, isOpen⟩
  · right
    exact dif_neg room

theorem close_open {c : Channel capacity α} (isOpen : c.closed = false) :
    c.close = .ok { c with closed := true } := by
  rw [close, if_neg (by simp [isOpen])]

/-- A receive takes the first value, and neither opens nor closes the channel. -/
theorem receive_some {c c' : Channel capacity α} {value : α}
    (received : c.receive = some (some value, c')) :
    c.buffer = value :: c'.buffer ∧ c'.closed = c.closed := by
  unfold receive at received
  split at received
  · rename_i held
    simp only [Option.some.injEq, Prod.mk.injEq] at received
    obtain ⟨rfl, rfl⟩ := received
    exact ⟨held, rfl⟩
  · split at received
    · simp at received
    · cases received

/-- The end of a closed channel leaves it as it is. -/
theorem receive_none {c c' : Channel capacity α} (received : c.receive = some (none, c')) :
    c' = c := by
  unfold receive at received
  split at received
  · simp at received
  · split at received
    · simp only [Option.some.injEq, Prod.mk.injEq, true_and] at received
      exact received.symm
    · cases received

theorem receive_ended {c c' : Channel capacity α} (received : c.receive = some (none, c')) :
    c.buffer = [] := by
  unfold receive at received
  split at received
  · simp at received
  · assumption

/-- A receive waits only at a channel that is empty and open. -/
theorem receive_waits {c : Channel capacity α} (waits : c.receive = none) :
    c.buffer = [] ∧ c.closed = false := by
  unfold receive at waits
  split at waits
  · cases waits
  · rename_i held
    split at waits
    · cases waits
    · rename_i isOpen
      exact ⟨held, by simpa using isOpen⟩

end Channel

end VpsDashboard.Foundation
