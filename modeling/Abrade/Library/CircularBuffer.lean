import Mathlib.Data.List.Basic

/-!
# Circular buffers

A queue of bounded capacity, oldest entry first.  Pushing into a full buffer
drops the oldest entry; a buffer without capacity takes nothing.
-/

universe u

/-- The entries of a circular buffer, never more than it has room for. -/
structure CircularBuffer (α : Type u) where
  capacity : ℕ
  entries : List α
  bounded : entries.length ≤ capacity
  deriving DecidableEq

namespace CircularBuffer

variable {α : Type u}

def empty (capacity : ℕ) : CircularBuffer α :=
  { capacity, entries := [], bounded := Nat.zero_le capacity }

def size (buffer : CircularBuffer α) : ℕ :=
  buffer.entries.length

/-- The entries that stay when one more is pushed, and that one. -/
def pushBack (buffer : CircularBuffer α) (entry : α) : CircularBuffer α where
  capacity := buffer.capacity
  entries := (buffer.entries ++ [entry]).drop (buffer.entries.length + 1 - buffer.capacity)
  bounded := by
    rw [List.length_drop, List.length_append, List.length_singleton]
    omega

/-- The buffer holds the end of a history, as much as it has room for. -/
def Holds (buffer : CircularBuffer α) (history : List α) : Prop :=
  buffer.entries = history.drop (history.length - buffer.capacity)

theorem holds_empty (capacity : ℕ) : (empty capacity : CircularBuffer α).Holds [] := by
  simp [Holds, empty]

theorem Holds.pushBack {buffer : CircularBuffer α} {history : List α}
    (holds : buffer.Holds history) (entry : α) :
    (buffer.pushBack entry).Holds (history ++ [entry]) := by
  have kept : buffer.entries.length = min history.length buffer.capacity := by
    rw [holds, List.length_drop]
    omega
  unfold Holds CircularBuffer.pushBack at *
  simp only [kept, List.length_append, List.length_singleton]
  rw [holds, ← List.drop_append_of_le_length (Nat.sub_le _ _), List.drop_drop]
  congr 1
  omega

end CircularBuffer
