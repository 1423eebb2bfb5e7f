import EventTransport.Proofs.Frame.Decision
import EventTransport.Proofs.Frame.Reencoding

/-!
Contract: which events a codec accepts, and what becomes of the buffer that their frames go to.

Owns:
- `Event.IsWritable` and `Event.plain`, what an event must be like to have a body, and that body;
- `Codec.Packs`, the body as it is transmitted;
- that a codec accepts exactly the writable events whose packed body is within the limits, and
  touches a buffer for no other.

Does not own: what the frames are decoded into.
-/

namespace EventTransport

namespace Event

/-- One kind of content only, and properties that may stand in records: keys are not empty, and
neither keys nor values hold a separator. -/
def IsWritable (event : Event) : Prop :=
  if event.isOpaque then event.properties.entries = []
  else event.payload = [] ∧ ∀ entry ∈ event.properties.entries, entry.1 ≠ "" ∧
    ∀ separator ∈ [fieldSeparator, recordSeparator],
      separator ∉ Utf8.encode entry.1 ∧ separator ∉ Utf8.encode entry.2

/-- The body of an event before compression. -/
def plain (event : Event) : Bytes :=
  if event.isOpaque then event.payload else Records.layout event.properties.entries

end Event

/-- Entries may be written exactly if no key is empty and there is no separator. -/
theorem Records.writeEntries_eq_ok_iff_separate {entries : List (String × String)} {body : Bytes} :
    writeEntries entries = .ok body ↔
      (∀ entry ∈ entries, entry.1 ≠ "" ∧ ∀ separator ∈ [fieldSeparator, recordSeparator],
        separator ∉ Utf8.encode entry.1 ∧ separator ∉ Utf8.encode entry.2) ∧
      body = layout entries := by
  rw [writeEntries_eq_ok_iff]
  simp only [List.forall_mem_cons, List.not_mem_nil, false_implies, implies_true, and_true]
  constructor
  · rintro ⟨consists, clear⟩
    refine ⟨fun entry member => ?_, consists.laidOut⟩
    have readable := consists.readable entry member
    exact ⟨readable.named, ⟨readable.keyNoField, clear entry member⟩,
      readable.keyNoRecord, readable.valueNoRecord⟩
  · rintro ⟨separate, laidOut⟩
    refine ⟨⟨laidOut, fun entry member => ?_⟩, fun entry member => (separate entry member).2.1.2⟩
    obtain ⟨named, ⟨keyNoField, _⟩, keyNoRecord, valueNoRecord⟩ := separate entry member
    exact ⟨named, keyNoField, keyNoRecord, valueNoRecord⟩

namespace Codec

variable {codec : Codec} {event : Event} {body : Bytes}

theorem plainBody_eq_ok_iff :
    plainBody event = .ok body ↔ event.IsWritable ∧ body = event.plain := by
  unfold plainBody Event.IsWritable Event.plain
  cases event.isOpaque with
  | true =>
      cases entries : event.properties.entries <;>
        simp [Properties.isEmpty, entries, eq_comm]
  | false =>
      cases payload : event.payload with
      | nil =>
          simp only [Bool.false_eq_true, if_false, List.isEmpty_nil, if_true, true_and]
          exact Records.writeEntries_eq_ok_iff_separate
      | cons byte rest => simp

/-- A body as it is transmitted: compressed if the event is marked so, else as it stands. -/
def Packs (codec : Codec) (event : Event) (body : Bytes) : Prop :=
  if event.isCompressed then
    ∃ compressor, codec.compressor = some compressor ∧ compressor.compress event.plain = .ok body
  else body = event.plain

theorem wireBody_eq_ok_iff :
    codec.wireBody event = .ok body ↔ event.IsWritable ∧ codec.Packs event body := by
  constructor
  · intro made
    unfold wireBody at made
    split at made
    · cases made
    · rename_i plain isPlain
      obtain ⟨writable, rfl⟩ := plainBody_eq_ok_iff.mp isPlain
      refine ⟨writable, ?_⟩
      unfold Packs
      split at made
      · rename_i compressed
        rw [if_pos compressed]
        split at made
        · cases made
        · rename_i compressor carries
          split at made
          · cases made
          · rename_i packed
            cases made
            exact ⟨compressor, carries, packed⟩
      · rename_i uncompressed
        rw [if_neg uncompressed]
        cases made
        rfl
  · rintro ⟨writable, packs⟩
    unfold wireBody
    rw [plainBody_eq_ok_iff.mpr ⟨writable, rfl⟩]
    unfold Packs at packs
    split at packs
    · rename_i compressed
      obtain ⟨compressor, carries, packed⟩ := packs
      simp only [if_pos compressed, carries, packed]
    · rename_i uncompressed
      simp only [if_neg uncompressed, packs]

/-- What may be framed, and its frame. -/
theorem encode_eq_ok_iff {frame : Bytes} :
    codec.encode event = .ok frame ↔ event.IsWritable ∧
      ∃ body, codec.Packs event body ∧ body.length ≤ min codec.limit maxLength ∧
        frame = (frameOf event body).bytes := by
  constructor
  · intro encoded
    obtain ⟨body, made, fits, announced, rfl⟩ := exists_body_of_encode encoded
    obtain ⟨writable, packs⟩ := wireBody_eq_ok_iff.mp made
    exact ⟨writable, body, packs, Nat.le_min.mpr ⟨fits, announced⟩, rfl⟩
  · rintro ⟨writable, body, packs, within, rfl⟩
    obtain ⟨fits, announced⟩ := Nat.le_min.mp within
    exact encode_of_wireBody (wireBody_eq_ok_iff.mpr ⟨writable, packs⟩) fits announced

theorem append_of_ok {frame : Bytes} (encoded : codec.encode event = .ok frame) (buffer : Bytes) :
    codec.append event buffer = (.ok (), buffer ++ frame) := by
  unfold append
  rw [encoded]

theorem append_of_error {error : Error} (refused : codec.encode event = .error error)
    (buffer : Bytes) : codec.append event buffer = (.error error, buffer) := by
  unfold append
  rw [refused]

/-- The length in a frame is never cut down to what four bytes can hold. -/
theorem announcedLength_frameOf (announced : body.length ≤ maxLength) :
    Frame.announcedLength (frameOf event body).bytes = body.length := by
  apply Bytes.wordValue_word
  show body.length < 4294967296
  unfold maxLength at announced
  omega

/-- **A codec accepts exactly the writable events whose packed body is within its limit and within
what four bytes can announce.** An accepted event adds its frame to what the buffer held: three
bytes of its own, the length of the body in full, the body, in which records stand in the byte order
of their keys, its checksum and the footer. A refused event leaves the buffer as it was. -/
theorem append_accepts_exactly_writable (codec : Codec) (event : Event) (buffer : Bytes) :
    ((codec.append event buffer).1 = .ok () ↔ event.IsWritable ∧
      ∃ body, codec.Packs event body ∧ body.length ≤ min codec.limit (2 ^ 32 - 1)) ∧
    (∀ written, codec.append event buffer = (.ok (), written) →
      ∃ body, codec.Packs event body ∧
        written = buffer ++ ([event.uid.value, event.options.bits, event.feedback.code] ++
          Bytes.word body.length ++ body ++ Bytes.word (crc32 body).toNat ++ footer) ∧
        Frame.announcedLength (written.drop buffer.length) = body.length ∧
        event.properties.entries.Pairwise fun left right =>
          Utf8.encode left.1 < Utf8.encode right.1) ∧
    ∀ error after, codec.append event buffer = (.error error, after) → after = buffer := by
  cases encoded : codec.encode event with
  | error error =>
      rw [append_of_error encoded]
      refine ⟨?_, ?_, ?_⟩
      · simp only [reduceCtorEq, false_iff]
        rintro ⟨writable, body, packs, within⟩
        rw [encode_eq_ok_iff.mpr ⟨writable, body, packs, within, rfl⟩] at encoded
        cases encoded
      · intro written impossible
        cases impossible
      · intro other after refused
        cases refused
        rfl
  | ok frame =>
      rw [append_of_ok encoded]
      obtain ⟨writable, body, packs, within, rfl⟩ := encode_eq_ok_iff.mp encoded
      refine ⟨⟨fun _ => ⟨writable, body, packs, within⟩, fun _ => rfl⟩, ?_, ?_⟩
      · intro written accepted
        cases accepted
        refine ⟨body, packs, ?_, ?_, event.properties.sorted⟩
        · simp [Frame.bytes, frameOf]
        · rw [List.drop_left]
          exact announcedLength_frameOf (Nat.le_min.mp within).2
      · intro error after impossible
        cases impossible

end Codec

end EventTransport
