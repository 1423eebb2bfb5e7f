import EventTransport.Error
import EventTransport.Bytes.Basic

/-!
Contract: one direction of a byte stream held in memory.

Owns:
- `Pipe`, bytes between a writer and a reader, with room for a number of them;
- `Pipe.write` and `Pipe.read`, which take what they can at once or say why not.

A closed pipe takes no more bytes, but those that it holds can still be read.

Main statement: what was held and what is accepted is what is held next.

Does not own: waiting.
-/

namespace EventTransport

/-- Bytes on their way from a writer to a reader. -/
structure Pipe where
  capacity : Nat
  held : Bytes := []
  isClosed : Bool := false

namespace Pipe

/-- What a writer learns. -/
inductive Written where
  /-- The pipe is closed. -/
  | broken
  /-- There is no room. -/
  | full
  /-- That many of the first bytes went in. -/
  | accepted (count : Nat)
deriving DecidableEq

/-- What a reader learns. -/
inductive Taken where
  /-- There is nothing yet. -/
  | nothing
  /-- There will be nothing any more. -/
  | finished
  /-- The first bytes of what was held. -/
  | bytes (bytes : Bytes)
deriving DecidableEq

def room (pipe : Pipe) : Nat := pipe.capacity - pipe.held.length

/-- As many of some bytes put in as there is room for. -/
def write (pipe : Pipe) (bytes : Bytes) : Written × Pipe :=
  if pipe.isClosed then (.broken, pipe)
  else if pipe.room = 0 then (.full, pipe)
  else
    let part := bytes.take pipe.room
    (.accepted part.length, { pipe with held := pipe.held ++ part })

/-- At most that many of the bytes that are held taken out. -/
def read (pipe : Pipe) (most : Nat) : Taken × Pipe :=
  if pipe.held.isEmpty then (if pipe.isClosed then .finished else .nothing, pipe)
  else (.bytes (pipe.held.take most), { pipe with held := pipe.held.drop most })

/-- No more bytes from now on. -/
def close (pipe : Pipe) : Pipe := { pipe with isClosed := true }

@[simp] theorem capacity_write (pipe : Pipe) (bytes : Bytes) :
    (pipe.write bytes).2.capacity = pipe.capacity := by
  unfold write
  split
  · rfl
  · split <;> rfl

@[simp] theorem capacity_read (pipe : Pipe) (most : Nat) :
    (pipe.read most).2.capacity = pipe.capacity := by
  unfold read
  split <;> rfl

@[simp] theorem isClosed_read (pipe : Pipe) (most : Nat) :
    (pipe.read most).2.isClosed = pipe.isClosed := by
  unfold read
  split <;> rfl

/-- Reading makes room. -/
theorem room_le_room_read (pipe : Pipe) (most : Nat) : pipe.room ≤ (pipe.read most).2.room := by
  unfold read
  split
  · exact Nat.le_refl _
  · simp only [room, List.length_drop]
    omega

theorem length_held_write_le_add (pipe : Pipe) (bytes : Bytes) :
    (pipe.write bytes).2.held.length ≤ pipe.held.length + bytes.length := by
  unfold write
  split
  · exact Nat.le_add_right _ _
  · split
    · exact Nat.le_add_right _ _
    · simp only [List.length_append, List.length_take]
      omega

/-- What is accepted is the front of what is written, and comes after what was held. -/
theorem held_of_accepted {pipe after : Pipe} {bytes : Bytes} {count : Nat}
    (written : pipe.write bytes = (.accepted count, after)) :
    after.held = pipe.held ++ bytes.take count ∧ count ≤ bytes.length := by
  unfold write at written
  split at written
  · simp at written
  · split at written
    · simp at written
    · simp only [Prod.mk.injEq, Written.accepted.injEq, List.length_take] at written
      obtain ⟨rfl, rfl⟩ := written
      refine ⟨?_, Nat.min_le_right _ _⟩
      simp only [List.append_cancel_left_eq]
      by_cases fits : pipe.room ≤ bytes.length
      · rw [Nat.min_eq_left fits]
      · rw [Nat.min_eq_right (by omega), List.take_of_length_le (by omega), List.take_length]

/-- What is accepted had room, in a pipe that is open and stays so. -/
theorem room_of_accepted {pipe after : Pipe} {bytes : Bytes} {count : Nat}
    (written : pipe.write bytes = (.accepted count, after)) :
    pipe.isClosed = false ∧ after.isClosed = false ∧ pipe.room = count + after.room := by
  unfold write at written
  split at written
  · simp at written
  · rename_i isOpen
    split at written
    · simp at written
    · simp only [Prod.mk.injEq, Written.accepted.injEq, List.length_take] at written
      obtain ⟨rfl, rfl⟩ := written
      refine ⟨by simpa using isOpen, by simpa using isOpen, ?_⟩
      simp only [room, List.length_append, List.length_take]
      omega

theorem length_held_write_le {pipe : Pipe} (bytes : Bytes)
    (fits : pipe.held.length ≤ pipe.capacity) :
    (pipe.write bytes).2.held.length ≤ pipe.capacity := by
  unfold write
  split
  · exact fits
  · split
    · exact fits
    · simp only [List.length_append, List.length_take, room]
      omega

/-- What a reader takes is the front of what was held, and the rest stays. -/
theorem read_eq_bytes_iff {pipe after : Pipe} {most : Nat} {bytes : Bytes} :
    pipe.read most = (.bytes bytes, after) ↔
      pipe.held ≠ [] ∧ bytes = pipe.held.take most ∧
        after = { pipe with held := pipe.held.drop most } := by
  unfold read
  split
  · rename_i empty
    have nothing : pipe.held = [] := by simpa using empty
    constructor
    · split <;> simp
    · rintro ⟨some, _⟩
      exact absurd nothing some
  · rename_i some
    have nonempty : pipe.held ≠ [] := by simpa using some
    simp only [Prod.mk.injEq, Taken.bytes.injEq]
    constructor
    · rintro ⟨rfl, rfl⟩
      exact ⟨nonempty, rfl, rfl⟩
    · rintro ⟨_, rfl, rfl⟩
      exact ⟨rfl, rfl⟩

/-- A reader learns of the end when nothing is held any more. -/
theorem read_eq_finished_iff {pipe after : Pipe} {most : Nat} :
    pipe.read most = (.finished, after) ↔
      pipe.held = [] ∧ pipe.isClosed = true ∧ after = pipe := by
  unfold read
  cases held : pipe.held <;> cases closed : pipe.isClosed <;> simp [eq_comm]

theorem write_of_full {pipe : Pipe} (isOpen : pipe.isClosed = false) (full : pipe.room = 0)
    (bytes : Bytes) : pipe.write bytes = (.full, pipe) := by
  unfold write
  rw [isOpen, if_neg Bool.false_ne_true, if_pos full]

theorem read_of_empty {pipe : Pipe} (isOpen : pipe.isClosed = false) (empty : pipe.held = [])
    (most : Nat) : pipe.read most = (.nothing, pipe) := by
  unfold read
  simp [isOpen, empty]

/-- Bytes for which there is room are taken. -/
theorem write_of_fits {pipe : Pipe} {bytes : Bytes} (isOpen : pipe.isClosed = false)
    (some : bytes ≠ []) (fits : bytes.length ≤ pipe.room) :
    pipe.write bytes = (.accepted bytes.length, { pipe with held := pipe.held ++ bytes }) := by
  have notFull : pipe.room ≠ 0 := by
    have positive := List.length_pos_iff.mpr some
    omega
  unfold write
  rw [isOpen, if_neg Bool.false_ne_true, if_neg notFull, List.take_of_length_le fits]

/-- A writer is turned away only by a closed pipe. -/
theorem write_eq_broken_iff {pipe after : Pipe} {bytes : Bytes} :
    pipe.write bytes = (.broken, after) ↔ pipe.isClosed = true ∧ after = pipe := by
  unfold write
  cases closed : pipe.isClosed
  · by_cases full : pipe.room = 0 <;> simp [full]
  · simp [eq_comm]

end Pipe

end EventTransport
