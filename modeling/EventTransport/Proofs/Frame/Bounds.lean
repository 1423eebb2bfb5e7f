import EventTransport.Deflate.Basic
import EventTransport.Proofs.Frame.Reencoding

/-!
Contract: how large a decoded event can be.

Owns:
- the size of properties, counted with the two separators of each record;
- that records read of a body are no larger than the body, keys that come again included;
- that deflate never restores more than the limit;
- that neither body of a decoded event exceeds the limit of the codec.

Does not own: what a body means.
-/

namespace EventTransport

/-- The bytes of entries in records: keys, values and two separators each. -/
def Records.totalSize : List (String × String) → Nat
  | [] => 0
  | entry :: rest =>
    (Utf8.encode entry.1).length + (Utf8.encode entry.2).length + 2 + totalSize rest

/-- The bytes of properties in records. -/
def Properties.recordSize (properties : Properties) : Nat := Records.totalSize properties.entries

namespace Records

theorem length_record (key value : String) :
    (record key value).length = (Utf8.encode key).length + (Utf8.encode value).length + 2 := by
  simp only [record, List.length_append, List.length_cons, List.length_nil]
  omega

theorem length_layout (entries : List (String × String)) :
    (layout entries).length = totalSize entries := by
  induction entries with
  | nil => rfl
  | cons entry rest inductionHypothesis =>
      rw [layout_cons, List.length_append, length_record, inductionHypothesis]
      rfl

end Records

/-- What is read of a body is no larger than the body: a record whose key comes again is dropped. -/
theorem recordSize_le_of_readRecords {body : Bytes} {properties : Properties}
    (isRead : readRecords body = .ok properties) : properties.recordSize ≤ body.length := by
  obtain ⟨entries, consists, rfl⟩ := readRecords_eq_ok_iff.mp isRead
  unfold Properties.recordSize
  rw [← Records.length_layout]
  exact consists.length_layout_setAll_le

theorem Compressor.bounded_deflate (level : Nat) : (Compressor.deflate level).Bounded :=
  Deflate.coder.bounded_compressor level

namespace Codec

variable {codec : Codec} {frame : Frame} {event : Event} {plain : Bytes}

/-- The compressor of a codec, if there is one, keeps to the limits that it is given. -/
def IsBounded (codec : Codec) : Prop :=
  ∀ compressor, codec.compressor = some compressor → compressor.Bounded

/-- Restored or as it was sent, a body stays within the limit. -/
theorem length_le_of_inflate (bounded : codec.IsBounded) (fits : frame.body.length ≤ codec.limit)
    (inflated : codec.inflate frame = .ok plain) : plain.length ≤ codec.limit := by
  unfold inflate at inflated
  split at inflated
  · split at inflated
    · cases inflated
    · rename_i compressor carries
      split at inflated
      · cases inflated
      · rename_i restored isRestored
        cases inflated
        exact bounded compressor carries frame.body codec.limit plain isRestored
  · cases inflated
    exact fits

/-- **A decoded event is bounded by the limit of its codec.** Whatever the bytes are, the body that
was transmitted, the payload and the properties with their separators are no larger than the limit,
and the one of the two that the options do not select is empty. The compressor may be any one that
keeps to its limit; deflate does. -/
theorem decoded_within_limit :
    (∀ level, (Compressor.deflate level).Bounded) ∧
    ∀ (codec : Codec) (source : Bytes) (event : Event) (taken : Nat), codec.IsBounded →
      codec.decode source = .ok (some (event, taken)) →
        event.framing.length ≤ codec.limit ∧ event.payload.length ≤ codec.limit ∧
        event.properties.recordSize ≤ codec.limit ∧
        if event.isOpaque then event.properties.entries = [] else event.payload = [] := by
  refine ⟨Compressor.bounded_deflate, ?_⟩
  intro codec source event taken bounded decoded
  obtain ⟨frame, found, opened, -⟩ := exists_frame_of_decode decoded
  obtain ⟨-, -, fits, -⟩ := Frame.exists_rest_of_read found
  obtain ⟨plain, inflated, opens⟩ := exists_opens_of_openFrame opened
  have within := length_le_of_inflate bounded fits inflated
  have bodies := opens.bodies
  rw [opens.framing_eq]
  refine ⟨fits, ?_⟩
  split at bodies
  · rename_i isOpaque
    obtain ⟨payload, properties⟩ := bodies
    rw [if_pos isOpaque, payload, properties]
    exact ⟨within, Nat.zero_le _, rfl⟩
  · rename_i formatted
    obtain ⟨payload, isRead⟩ := bodies
    rw [if_neg formatted, payload]
    exact ⟨Nat.zero_le _, Nat.le_trans (recordSize_le_of_readRecords isRead) within, rfl⟩

/-- A compressed body in which a key comes twice, at a limit that it just keeps to: five bytes of
its nine are left, and there is no payload. -/
theorem decoded_within_limit_of_repeated_key :
    let codec : Codec := ⟨14, some (Compressor.deflate 1)⟩
    let plain := Records.layout [("k", "1"), ("k", "22")]
    let frame : Frame := ⟨7, 2, 0, Deflate.storedStream plain⟩
    ∃ event, codec.decode (frame.bytes ++ [1]) = .ok (some (event, 29)) ∧
      event.properties.entries = [("k", "22")] ∧ event.framing.length ≤ 14 ∧
      event.properties.recordSize ≤ 14 ∧ event.payload = [] := by
  intro codec plain frame
  let event : Event :=
    { uid := ⟨7⟩, options := ⟨2⟩, feedback := Feedback.ofCode 0,
      properties := Properties.empty.set "k" "22", framing := frame.framing }
  have decoded : codec.decode (frame.bytes ++ [1]) = .ok (some (event, 29)) := by decide +kernel
  have bounded : codec.IsBounded := by
    intro compressor carries
    cases carries
    exact decoded_within_limit.1 1
  obtain ⟨framed, -, properties, other⟩ :=
    decoded_within_limit.2 codec (frame.bytes ++ [1]) event 29 bounded decoded
  rw [if_neg (by decide)] at other
  exact ⟨event, decoded, rfl, framed, properties, other⟩

end Codec

end EventTransport
