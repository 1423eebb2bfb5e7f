import EventTransport.Bytes.Basic

/-!
Contract: the memory that a read loop reads into.

Bytes come in behind those held and are used up from the front. How many can come at once depends on
how much memory is left behind them. Memory is asked for only when it is needed; then what is held
moves to the front if at least as much has been used up before it and the room suffices, and
otherwise the memory is at least doubled.

Owns:
- `ReadBuffer`, a block of memory with the bytes held in it;
- `ReadBuffer.room`, `append`, `drop` and `reserve`.

Main statement: reserving gives the room asked for and keeps the bytes that are held.

Does not own: frames.
-/

namespace EventTransport

/-- Bytes in a block of memory whose front has been used up. -/
structure ReadBuffer where
  size : Nat
  /-- How much of the front is used up. -/
  used : Nat := 0
  /-- What is held behind the front. -/
  held : Bytes := []
deriving DecidableEq

namespace ReadBuffer

/-- The least size of a block that has grown. -/
def leastGrown : Nat := 8

/-- How many bytes can be put behind those that are held. -/
def room (buffer : ReadBuffer) : Nat := buffer.size - buffer.used - buffer.held.length

/-- Bytes put behind those that are held. -/
def append (buffer : ReadBuffer) (bytes : Bytes) : ReadBuffer :=
  { buffer with held := buffer.held ++ bytes }

/-- The first `count` bytes used up. -/
def drop (buffer : ReadBuffer) (count : Nat) : ReadBuffer :=
  { buffer with used := buffer.used + count, held := buffer.held.drop count }

/-- The same bytes with room for `count` more. -/
def reserve (buffer : ReadBuffer) (count : Nat) : ReadBuffer :=
  if count ≤ buffer.room then buffer
  else if buffer.held.length ≤ buffer.used && count ≤ buffer.size - buffer.held.length then
    { buffer with used := 0 }
  else
    { buffer with
      size := max leastGrown (max (2 * buffer.size) (buffer.used + buffer.held.length + count)) }

/-- The same bytes with room for `count` more if there was no room at all. -/
def reserveIfFull (buffer : ReadBuffer) (count : Nat) : ReadBuffer :=
  if buffer.room = 0 then buffer.reserve count else buffer

@[simp] theorem held_append (buffer : ReadBuffer) (bytes : Bytes) :
    (buffer.append bytes).held = buffer.held ++ bytes := rfl

@[simp] theorem held_drop (buffer : ReadBuffer) (count : Nat) :
    (buffer.drop count).held = buffer.held.drop count := rfl

@[simp] theorem held_reserve (buffer : ReadBuffer) (count : Nat) :
    (buffer.reserve count).held = buffer.held := by
  unfold reserve
  split
  · rfl
  · split <;> rfl

@[simp] theorem held_reserveIfFull (buffer : ReadBuffer) (count : Nat) :
    (buffer.reserveIfFull count).held = buffer.held := by
  unfold reserveIfFull
  split
  · exact held_reserve buffer count
  · rfl

theorem le_room_reserve (buffer : ReadBuffer) (count : Nat) :
    count ≤ (buffer.reserve count).room := by
  unfold reserve
  split
  · assumption
  · split
    · rename_i fits
      simp only [Bool.and_eq_true, decide_eq_true_eq] at fits
      simp only [room]
      omega
    · simp only [room]
      omega

end ReadBuffer

end EventTransport
