import Mathlib.Data.List.Forall2
import EventTransport.Proofs.Frame.Layout
import EventTransport.Proofs.Frame.RecordRoundTrip

/-!
Contract: a stream of frames gives back the events that they were made from.

Owns:
- `Event.received`, what a receiver makes of an event, and the frame of one event, decoded;
- the drain of any number of frames and of what follows them.

Does not own: events that go through a compressor.
-/

namespace EventTransport

/-! ### Single events -/

/-- The event as it is restored from a frame that says this of itself. -/
def Event.received (event : Event) (framing : Framing) : Event :=
  { event with feedback := event.feedback.normalized, framing := framing }

/-- A status in normal form survives, and then nothing differs but what the last frame said. -/
theorem Event.received_beq {event : Event} (normal : event.feedback.IsNormal)
    (framing : Framing) : (event.received framing == event) = true := by
  have same : event.feedback.normalized = event.feedback :=
    Feedback.normalized_eq_self_iff.mpr normal
  rw [Event.beq_iff]
  unfold Event.content Event.received
  simp only [same]

namespace Codec

theorem plainBody_of_wireBody {codec : Codec} {event : Event} {body : Bytes}
    (uncompressed : event.isCompressed = false) (made : codec.wireBody event = .ok body) :
    plainBody event = .ok body := by
  unfold wireBody at made
  split at made
  · cases made
  · rename_i plain isPlain
    rw [uncompressed] at made
    cases made
    exact isPlain

/-- What an accepted event is transmitted as. -/
theorem exists_body_of_encode {codec : Codec} {event : Event} {frame : Bytes}
    (encoded : codec.encode event = .ok frame) :
    ∃ body, codec.wireBody event = .ok body ∧ body.length ≤ codec.limit ∧
      body.length ≤ maxLength ∧ frame = (frameOf event body).bytes := by
  unfold encode at encoded
  split at encoded
  · cases encoded
  · rename_i body made
    split at encoded
    · cases encoded
    · rename_i withinLimit
      split at encoded
      · cases encoded
      · rename_i announced
        cases encoded
        exact ⟨body, made, Nat.le_of_not_lt withinLimit, Nat.le_of_not_lt announced, rfl⟩

/-- The two kinds of body are read back as what they were written for, whatever body they were
transmitted as. -/
theorem openBody_frameOf {event : Event} {plain : Bytes} (made : plainBody event = .ok plain)
    (body : Bytes) :
    openBody (frameOf event body) plain = .ok (event.received (frameOf event body).framing) := by
  unfold openBody
  generalize (frameOf event body).framing = framing
  obtain ⟨uid, options, feedback, ⟨entries, sorted⟩, payload, stale⟩ := event
  unfold plainBody at made
  by_cases isOpaque : options.contains Options.noFormat = true
  · -- A payload comes without properties, and is the body.
    simp only [Event.isOpaque, isOpaque, if_true] at made
    split at made
    · rename_i noProperties
      cases made
      have noEntries : entries = [] := by simpa [Properties.isEmpty] using noProperties
      subst noEntries
      simp only [Event.isOpaque, frameOf, isOpaque, if_true]
      rfl
    · cases made
  · -- Properties come without a payload, and are what the records denote.
    simp only [Event.isOpaque, isOpaque, if_false, Bool.false_eq_true] at made
    split at made
    · rename_i noPayload
      have emptyPayload : payload = [] := by simpa using noPayload
      subst emptyPayload
      simp only [Event.isOpaque, frameOf, isOpaque, if_false, Bool.false_eq_true]
      rw [readRecords_of_writeRecords made]
      rfl
    · cases made

theorem decode_of_openFrame {codec : Codec} {buffer : Bytes} {frame : Frame} {event : Event}
    (found : Frame.read codec.limit buffer = .ok (some frame))
    (opened : codec.openFrame frame = .ok event) :
    codec.decode buffer = .ok (some (event, frame.bytes.length)) := by
  rw [Frame.length_bytes]
  unfold decode
  rw [found]
  simp only [opened]

/-- The frame of an uncompressed event is decoded, by any codec that admits its body, from the
front of any buffer it stands in. -/
theorem decode_encode {sender receiver : Codec} {event : Event} {body frame : Bytes}
    (uncompressed : event.isCompressed = false) (made : sender.wireBody event = .ok body)
    (encoded : sender.encode event = .ok frame) (fits : body.length ≤ receiver.limit)
    (rest : Bytes) :
    receiver.decode (frame ++ rest) =
      .ok (some (event.received ⟨body.length, (crc32 body).toNat, frame.length⟩,
        frame.length)) := by
  obtain ⟨sameBody, made', _, announced, rfl⟩ := exists_body_of_encode encoded
  rw [made] at made'
  cases made'
  have unpacked : receiver.inflate (frameOf event body) = .ok body := by
    unfold inflate
    rw [if_neg]
    · rfl
    · intro packed
      have compressed : event.isCompressed = true := packed
      rw [uncompressed] at compressed
      cases compressed
  have restored : receiver.openFrame (frameOf event body) =
      .ok (event.received (frameOf event body).framing) := by
    unfold openFrame
    rw [unpacked]
    exact openBody_frameOf (plainBody_of_wireBody uncompressed made) body
  have hasBody : (frameOf event body).body = body := rfl
  rw [Frame.framing_eq, hasBody] at restored
  exact decode_of_openFrame (Frame.read_bytes fits announced rest) restored

/-! ### Streams -/

/-- An event as it is restored from the frame that a sender makes of it. -/
def Restores (sender : Codec) (event restored : Event) : Prop :=
  ∃ body frame, sender.wireBody event = .ok body ∧ sender.encode event = .ok frame ∧
    restored = event.received ⟨body.length, (crc32 body).toNat, frame.length⟩

theorem exists_restored {sender : Codec} {event : Event} {frame : Bytes}
    (encoded : sender.encode event = .ok frame) : ∃ restored, sender.Restores event restored := by
  obtain ⟨body, made, _, _, _⟩ := exists_body_of_encode encoded
  exact ⟨_, body, frame, made, encoded, rfl⟩

theorem Restores.unique {sender : Codec} {event left right : Event}
    (isLeft : sender.Restores event left) (isRight : sender.Restores event right) :
    left = right := by
  obtain ⟨body, frame, made, encoded, rfl⟩ := isLeft
  obtain ⟨sameBody, sameFrame, madeAgain, encodedAgain, rfl⟩ := isRight
  rw [made] at madeAgain
  rw [encoded] at encodedAgain
  cases madeAgain
  cases encodedAgain
  rfl

theorem Restores.beq {sender : Codec} {event restored : Event}
    (restores : sender.Restores event restored) (normal : event.feedback.IsNormal) :
    (restored == event) = true := by
  obtain ⟨body, frame, _, _, rfl⟩ := restores
  exact Event.received_beq normal _

/-- Frames in front of other bytes give their events, and then the drain goes on with
these bytes. -/
theorem drain_append_of_frames {sender receiver : Codec} {events : List Event} {frames : List Bytes}
    (uncompressed : ∀ event ∈ events, event.isCompressed = false)
    (encoded : List.Forall₂ (fun event frame => sender.encode event = .ok frame) events frames)
    (fits : ∀ event ∈ events, ∀ body, sender.wireBody event = .ok body →
      body.length ≤ receiver.limit)
    (tail : Bytes) :
    ∃ decoded, List.Forall₂ sender.Restores events decoded ∧
      receiver.drain (frames.flatten ++ tail) =
        { receiver.drain tail with events := decoded ++ (receiver.drain tail).events } := by
  induction encoded with
  | nil => exact ⟨[], .nil, rfl⟩
  | @cons event frame events frames headEncoded _ inductionHypothesis =>
      obtain ⟨later, restored, drained⟩ := inductionHypothesis
        (fun other member => uncompressed other (List.mem_cons_of_mem event member))
        (fun other member => fits other (List.mem_cons_of_mem event member))
      obtain ⟨body, made, _, _, _⟩ := exists_body_of_encode headEncoded
      have decoded : receiver.decode (frame ++ (frames.flatten ++ tail)) =
          .ok (some (event.received ⟨body.length, (crc32 body).toNat, frame.length⟩,
            frame.length)) :=
        decode_encode (uncompressed event List.mem_cons_self) made headEncoded
          (fits event List.mem_cons_self body made) _
      refine ⟨event.received ⟨body.length, (crc32 body).toNat, frame.length⟩ :: later,
        .cons ⟨body, frame, made, headEncoded, rfl⟩ restored, ?_⟩
      rw [List.flatten_cons, List.append_assoc, drain_of_event decoded, List.drop_left, drained]
      rfl

/-- **A stream of frames of uncompressed events is drained into these events**, each with its
status as read from its byte, and what follows the frames is left. An event whose status is in
normal form is restored as an equal value. -/
theorem drain_flatten_frames (sender receiver : Codec) {events : List Event}
    {frames : List Bytes} {tail : Bytes}
    (uncompressed : ∀ event ∈ events, event.isCompressed = false)
    (encoded : List.Forall₂ (fun event frame => sender.encode event = .ok frame) events frames)
    (fits : ∀ event ∈ events, ∀ body, sender.wireBody event = .ok body →
      body.length ≤ receiver.limit)
    (waiting : receiver.decode tail = .ok none) :
    ∃ decoded, receiver.drain (frames.flatten ++ tail) = ⟨decoded, none, tail⟩ ∧
      List.Forall₂ (fun event restored => sender.Restores event restored ∧
        (event.feedback.IsNormal → (restored == event) = true)) events decoded := by
  obtain ⟨decoded, restored, drained⟩ := drain_append_of_frames uncompressed encoded fits tail
  rw [drain_of_waiting waiting, List.append_nil] at drained
  exact ⟨decoded, drained, restored.imp fun _ _ restores => ⟨restores, restores.beq⟩⟩

/-- A payload made of the footer and both separators, with a status that has a name, and a text that
holds the footer, for a receiver whose limit the second body just meets. -/
theorem drain_flatten_frames_of_footers :
    let blob : Event :=
      { uid := ⟨3⟩, options := Options.noFormat, feedback := .other 2,
        payload := footer ++ [fieldSeparator, recordSeparator] }
    let text : Event :=
      { uid := ⟨5⟩, feedback := .other 9,
        properties := Properties.empty.set "name" "a\r\n\r\nb" }
    let frames := [(frameOf blob (footer ++ [fieldSeparator, recordSeparator])).bytes,
      (frameOf text (Records.record "name" "a\r\n\r\nb")).bytes]
    ∃ decoded, (Codec.mk 12 none).drain (frames.flatten ++ [5, 1]) = ⟨decoded, none, [5, 1]⟩ ∧
      List.Forall₂ (fun event restored => (Codec.mk 64 none).Restores event restored ∧
        (event.feedback.IsNormal → (restored == event) = true)) [blob, text] decoded := by
  intro blob text frames
  have blobBody : (Codec.mk 64 none).wireBody blob =
      .ok (footer ++ [fieldSeparator, recordSeparator]) := by decide +kernel
  have textBody : (Codec.mk 64 none).wireBody text =
      .ok (Records.record "name" "a\r\n\r\nb") := by decide +kernel
  refine drain_flatten_frames (Codec.mk 64 none) (Codec.mk 12 none) ?_ ?_ ?_ rfl
  · decide +kernel
  · exact .cons (by decide +kernel) (.cons (by decide +kernel) .nil)
  · intro event member body made
    simp only [List.mem_cons, List.not_mem_nil, or_false] at member
    rcases member with rfl | rfl
    · rw [blobBody] at made
      cases made
      decide +kernel
    · rw [textBody] at made
      cases made
      decide +kernel

end Codec

end EventTransport
