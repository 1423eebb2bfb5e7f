import EventTransport.Frame.Codec

/-!
Contract: events taken from a buffer that grows.

Owns:
- `Codec.next`, one event taken from the front of a buffer;
- `Codec.drain`, all complete ones, up to the first error;
- `Codec.feed`, chunks appended one after the other, each followed by a drain.

Main statement: a drain takes the event at the front and goes on with the rest, and it is over after
as many events as the buffer has room for.
-/

namespace EventTransport

namespace Codec

/-- The event at the front of a buffer, and the buffer without it. Nothing is taken while the frame
is not complete, nor on an error. -/
def next (codec : Codec) (buffer : Bytes) : Except Error (Option Event) × Bytes :=
  match codec.decode buffer with
  | .error error => (.error error, buffer)
  | .ok none => (.ok none, buffer)
  | .ok (some (event, taken)) => (.ok (some event), buffer.drop taken)

/-- The same at the end of the stream, where bytes of an unfinished frame are an error. -/
def nextAtEnd (codec : Codec) (buffer : Bytes) : Except Error (Option Event) × Bytes :=
  match codec.next buffer with
  | (.ok none, rest) =>
    if rest.isEmpty then (.ok none, rest) else (.error (.stream .bytesRemaining), rest)
  | other => other

structure Drained where
  events : List Event
  /-- The error that stopped the drain, if it was not the end of complete frames. -/
  fault : Option Error
  rest : Bytes

/-- At most that many complete events at the front of a buffer, up to the first error. -/
def drainUpTo (codec : Codec) : Nat → Bytes → Drained
  | 0, buffer => ⟨[], none, buffer⟩
  | count + 1, buffer =>
    match codec.decode buffer with
    | .error error => ⟨[], some error, buffer⟩
    | .ok none => ⟨[], none, buffer⟩
    | .ok (some (event, taken)) =>
      let later := codec.drainUpTo count (buffer.drop taken)
      { later with events := event :: later.events }

/-- All complete events at the front of a buffer, up to the first error. A frame has fifteen bytes
at least, so there are no more than the buffer has room for, and one more attempt finds the end. -/
def drain (codec : Codec) (buffer : Bytes) : Drained :=
  codec.drainUpTo (buffer.length / 15 + 1) buffer

/-- An attempt more than there can be frames is as good as any number of attempts. -/
theorem drainUpTo_eq_drain (codec : Codec) {buffer : Bytes} {count : Nat}
    (enough : buffer.length / 15 < count) : codec.drainUpTo count buffer = codec.drain buffer := by
  suffices agree : ∀ fewer more buffer, buffer.length / 15 < fewer → buffer.length / 15 < more →
      codec.drainUpTo fewer buffer = codec.drainUpTo more buffer from
    agree _ _ _ enough (Nat.lt_succ_self _)
  intro fewer
  induction fewer with
  | zero =>
    intro more buffer impossible
    exact absurd impossible (Nat.not_lt_zero _)
  | succ fewer inductionHypothesis =>
    intro more buffer fewerEnough moreEnough
    obtain _ | more := more
    · exact absurd moreEnough (Nat.not_lt_zero _)
    · unfold drainUpTo
      split
      · rfl
      · rfl
      · rename_i event taken decoded
        have least := fifteen_le_of_decode decoded
        have most := taken_le_of_decode decoded
        rw [inductionHypothesis more (buffer.drop taken)]
        · rw [List.length_drop]
          omega
        · rw [List.length_drop]
          omega

/-- A drain takes the event at the front and goes on with the rest. -/
theorem drain_eq (codec : Codec) (buffer : Bytes) :
    codec.drain buffer =
      match codec.decode buffer with
      | .error error => ⟨[], some error, buffer⟩
      | .ok none => ⟨[], none, buffer⟩
      | .ok (some (event, taken)) =>
        let later := codec.drain (buffer.drop taken)
        { later with events := event :: later.events } := by
  rw [drain, drainUpTo]
  split
  · rfl
  · rfl
  · rename_i event taken decoded
    have least := fifteen_le_of_decode decoded
    have most := taken_le_of_decode decoded
    simp only
    rw [drainUpTo_eq_drain]
    rw [List.length_drop]
    omega

/-- Chunks appended to what is left, each followed by a drain; nothing follows an error. -/
def feed (codec : Codec) (start : Bytes) : List Bytes → Drained
  | [] => ⟨[], none, start⟩
  | chunk :: chunks =>
    let now := codec.drain (start ++ chunk)
    match now.fault with
    | some _ => now
    | none =>
      let later := codec.feed now.rest chunks
      { later with events := now.events ++ later.events }

end Codec

end EventTransport
