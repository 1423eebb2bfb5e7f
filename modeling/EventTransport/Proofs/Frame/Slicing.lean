import EventTransport.Proofs.Frame.Decision

/-!
Contract: where the bytes of a drained buffer go.

Owns:
- `Codec.Slices`, a buffer cut into frames and a rest, each frame with the event that it is by
  itself;
- that a drain cuts its buffer so, and that there are no more frames than one for every fifteen
  bytes;
- that a refused rest is refused again.

Does not own: who drains buffers.
-/

namespace EventTransport

namespace Codec

/-- A buffer cut into frames and a rest. Each frame, decoded without what follows it, gives its
event and is used up, and the event knows its size. -/
structure Slices (codec : Codec) (buffer : Bytes) (taken : List (Bytes × Event)) (rest : Bytes) :
    Prop where
  whole : (taken.map Prod.fst).flatten ++ rest = buffer
  alone : ∀ entry ∈ taken, codec.decode entry.1 = .ok (some (entry.2, entry.1.length))
  rawSize : ∀ entry ∈ taken, entry.2.framing.rawSize = entry.1.length

variable {codec : Codec}

/-- The frame of an event is decoded by itself as it is decoded in a buffer. -/
theorem decode_take {buffer : Bytes} {event : Event} {count : Nat}
    (decoded : codec.decode buffer = .ok (some (event, count))) :
    codec.decode (buffer.take count) = .ok (some (event, count)) := by
  have inside := taken_le_of_decode decoded
  have size := (size_eq_of_decode decoded).1
  rw [← decoded]
  refine (decode_of_isPrefix_of_le (List.take_prefix count buffer) ?_).symm
  rw [List.length_take, Nat.min_eq_left inside]
  exact Nat.le_of_eq size.symm

/-- A frame of a buffer is decoded in place as it is by itself. -/
theorem decode_of_slice {slice : Bytes} {event : Event}
    (alone : codec.decode slice = .ok (some (event, slice.length))) (more : Bytes) :
    codec.decode (slice ++ more) = .ok (some (event, slice.length)) :=
  (decode_append more (by rw [alone]; exact fun impossible => nomatch impossible)).trans alone

namespace Slices

variable {buffer rest : Bytes} {taken : List (Bytes × Event)}

theorem nil (buffer : Bytes) : codec.Slices buffer [] buffer where
  whole := rfl
  alone _ none := nomatch none
  rawSize _ none := nomatch none

/-- The frame at the front goes before those that the remaining bytes are cut into. -/
theorem cons {event : Event} {count : Nat}
    (decoded : codec.decode buffer = .ok (some (event, count)))
    (slices : codec.Slices (buffer.drop count) taken rest) :
    codec.Slices buffer ((buffer.take count, event) :: taken) rest := by
  have size : (buffer.take count).length = count := by
    rw [List.length_take, Nat.min_eq_left (taken_le_of_decode decoded)]
  constructor
  case whole =>
    rw [List.map_cons, List.flatten_cons, List.append_assoc, slices.whole]
    exact List.take_append_drop count buffer
  case alone =>
    refine List.forall_mem_cons.mpr ⟨?_, slices.alone⟩
    rw [size]
    exact decode_take decoded
  case rawSize =>
    refine List.forall_mem_cons.mpr ⟨?_, slices.rawSize⟩
    rw [size]
    exact (size_eq_of_decode decoded).2.1

theorem tail {entry : Bytes × Event} (slices : codec.Slices buffer (entry :: taken) rest) :
    codec.Slices (buffer.drop entry.1.length) taken rest where
  whole := by
    rw [← slices.whole, List.map_cons, List.flatten_cons, List.append_assoc, List.drop_left]
  alone := (List.forall_mem_cons.mp slices.alone).2
  rawSize := (List.forall_mem_cons.mp slices.rawSize).2

/-- The first frame is what is decoded at the front. -/
theorem decode_eq {entry : Bytes × Event} (slices : codec.Slices buffer (entry :: taken) rest) :
    codec.decode buffer = .ok (some (entry.2, entry.1.length)) := by
  rw [← slices.whole, List.map_cons, List.flatten_cons, List.append_assoc]
  exact decode_of_slice (slices.alone entry List.mem_cons_self) _

/-- The cut may stop short of the last frames, which belong to the rest then. -/
theorem take (slices : codec.Slices buffer taken rest) (count : Nat) :
    codec.Slices buffer (taken.take count) (((taken.drop count).map Prod.fst).flatten ++ rest) where
  whole := by
    rw [← List.append_assoc, ← List.flatten_append, ← List.map_append, List.take_append_drop]
    exact slices.whole
  alone entry member := slices.alone entry (List.mem_of_mem_take member)
  rawSize entry member := slices.rawSize entry (List.mem_of_mem_take member)

/-- There is no more than one frame for every fifteen bytes. -/
theorem length_le (slices : codec.Slices buffer taken rest) :
    taken.length ≤ buffer.length / 15 := by
  rw [Nat.le_div_iff_mul_le (by decide)]
  induction taken generalizing buffer with
  | nil => exact Nat.zero_le _
  | cons entry taken inductionHypothesis =>
      have later := inductionHypothesis slices.tail
      have least := fifteen_le_of_decode slices.decode_eq
      have inside := taken_le_of_decode slices.decode_eq
      rw [List.length_drop] at later
      rw [List.length_cons]
      omega

end Slices

/-- A drain cuts a buffer into the frames of its events and what it leaves. -/
theorem exists_slices (codec : Codec) (buffer : Bytes) :
    ∃ taken, codec.Slices buffer taken (codec.drain buffer).rest ∧
      taken.map Prod.snd = (codec.drain buffer).events := by
  induction buffer using codec.drain_induct with
  | refused buffer error decoded =>
      rw [drain_of_error decoded]
      exact ⟨[], .nil buffer, rfl⟩
  | waiting buffer decoded =>
      rw [drain_of_waiting decoded]
      exact ⟨[], .nil buffer, rfl⟩
  | taken buffer event count decoded inductionHypothesis =>
      obtain ⟨taken, slices, events⟩ := inductionHypothesis
      rw [drain_of_event decoded]
      exact ⟨(buffer.take count, event) :: taken, slices.cons decoded, congrArg (event :: ·) events⟩

/-- What a drain leaves with an error is refused with that error. -/
theorem decode_rest_of_fault {buffer : Bytes} {error : Error}
    (broken : (codec.drain buffer).fault = some error) :
    codec.decode (codec.drain buffer).rest = .error error := by
  induction buffer using codec.drain_induct with
  | refused buffer other decoded =>
      rw [drain_of_error decoded] at broken ⊢
      cases broken
      exact decoded
  | waiting buffer decoded =>
      rw [drain_of_waiting decoded] at broken
      cases broken
  | taken buffer event count decoded inductionHypothesis =>
      rw [drain_of_event decoded] at broken ⊢
      exact inductionHypothesis broken

/-- No event is left at the front once a buffer has been drained. -/
theorem decode_rest_ne_event {buffer : Bytes} (event : Event) (count : Nat) :
    codec.decode (codec.drain buffer).rest ≠ .ok (some (event, count)) := by
  intro decoded
  cases verdict : (codec.drain buffer).fault with
  | none => exact nomatch (decode_rest_drain verdict).symm.trans decoded
  | some error => exact nomatch (decode_rest_of_fault verdict).symm.trans decoded

end Codec

end EventTransport
