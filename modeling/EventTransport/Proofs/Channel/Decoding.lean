import EventTransport.Channel.Reading
import EventTransport.Proofs.Frame.Draining

/-!
Contract: what a read loop makes of the bytes that it reads.

Owns:
- `Decodes`, which events have been put into the queue of the bus and which bytes are left, as the
  drain of all bytes read so far tells;
- that everything a read loop does keeps this.

Does not own: what becomes of the events.
-/

namespace EventTransport

namespace Channel

variable {codec : Codec}

/-- What the read loop has made of the bytes read, the events put into the queue included. -/
def Decodes (codec : Codec) (bytes : Bytes) (delivered : List Event) : ReadLoop → Prop
  | .absent => bytes = [] ∧ delivered = []
  | .awaiting buffer => codec.drain bytes = ⟨delivered, none, buffer.held⟩
  | .decoding buffer =>
    codec.drain bytes =
      { codec.drain buffer.held with events := delivered ++ (codec.drain buffer.held).events }
  | .ended => delivered = (codec.drain bytes).events

namespace Decodes

variable {bytes : Bytes} {delivered : List Event}

theorem begin (decodes : Decodes codec bytes delivered .absent) {buffer : ReadBuffer}
    (nothing : buffer.held = []) : Decodes codec bytes delivered (.awaiting buffer) := by
  obtain ⟨rfl, rfl⟩ := decodes
  show codec.drain [] = _
  rw [Codec.drain_of_waiting codec.decode_nil, nothing]

theorem received {buffer : ReadBuffer} (decodes : Decodes codec bytes delivered (.awaiting buffer))
    (more : Bytes) :
    Decodes codec (bytes ++ more) delivered (.decoding (buffer.append more)) := by
  change codec.drain bytes = _ at decodes
  show codec.drain (bytes ++ more) = _
  rw [Codec.drain_append, decodes]
  rfl

theorem unfinished {buffer after : ReadBuffer}
    (decodes : Decodes codec bytes delivered (.decoding buffer))
    (waiting : codec.decode buffer.held = .ok none) (same : after.held = buffer.held) :
    Decodes codec bytes delivered (.awaiting after) := by
  change codec.drain bytes = _ at decodes
  rw [Codec.drain_of_waiting waiting, List.append_nil] at decodes
  show codec.drain bytes = _
  rw [decodes, same]

theorem decoded {buffer : ReadBuffer} {event : Event} {count : Nat}
    (decodes : Decodes codec bytes delivered (.decoding buffer))
    (taken : codec.decode buffer.held = .ok (some (event, count))) :
    Decodes codec bytes (delivered ++ [event]) (.decoding (buffer.drop count)) := by
  change codec.drain bytes = _ at decodes
  rw [Codec.drain_of_event taken] at decodes
  show codec.drain bytes = _
  rw [decodes, ReadBuffer.held_drop, List.append_assoc]
  rfl

theorem invalid {buffer : ReadBuffer} {error : Error}
    (decodes : Decodes codec bytes delivered (.decoding buffer))
    (refused : codec.decode buffer.held = .error error) :
    Decodes codec bytes delivered .ended := by
  change codec.drain bytes = _ at decodes
  rw [Codec.drain_of_error refused, List.append_nil] at decodes
  show delivered = _
  rw [decodes]

theorem ended {buffer : ReadBuffer}
    (decodes : Decodes codec bytes delivered (.awaiting buffer)) :
    Decodes codec bytes delivered .ended := by
  change codec.drain bytes = _ at decodes
  show delivered = _
  rw [decodes]

/-- What has been put into the queue is the front of what can be decoded. -/
theorem isPrefix {reader : ReadLoop} (decodes : Decodes codec bytes delivered reader) :
    delivered <+: (codec.drain bytes).events := by
  cases reader with
  | absent =>
      obtain ⟨_, rfl⟩ := decodes
      exact List.nil_prefix
  | awaiting buffer =>
      change codec.drain bytes = _ at decodes
      exact ⟨[], by rw [decodes, List.append_nil]⟩
  | decoding buffer =>
      change codec.drain bytes = _ at decodes
      rw [decodes]
      exact List.prefix_append ..
  | ended => exact ⟨[], (List.append_nil _).trans decodes⟩

end Decodes

end Channel

end EventTransport
