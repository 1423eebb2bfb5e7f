import EventTransport.Proofs.Frame.RoundTrip

/-!
Contract: what becomes of a frame whose event is decoded and encoded again, as a relay does.

Owns:
- which decoded events a codec accepts again;
- how the second frame stands to the first: never longer, of the same meaning, and the same bytes
  exactly if the keys of the first one increase.

Does not own: frames whose body went through a compressor.
-/

namespace EventTransport

theorem Feedback.isNormal_ofCode (code : UInt8) : (ofCode code).IsNormal := by
  rw [← normalized_eq_self_iff]
  unfold normalized
  rw [code_ofCode]

/-! ### Records set in turn, laid out again -/

namespace Records

theorem length_layout_insert_le (key value : String) (entries : List (String × String)) :
    (layout (Keyed.insert key value entries)).length ≤
      (record key value).length + (layout entries).length := by
  induction entries with
  | nil => exact Nat.le_of_eq List.length_append
  | cons head rest inductionHypothesis =>
      unfold Keyed.insert
      split
      · simp only [layout_cons, List.length_append]
        omega
      · split
        · exact Nat.le_of_eq List.length_append
        · simp only [layout_cons, List.length_append] at inductionHypothesis ⊢
          omega

/-- A key that is set again takes the place of its older record, so nothing grows. -/
theorem length_layout_setAll_le (properties : Properties) (entries : List (String × String)) :
    (layout (properties.setAll entries).entries).length ≤
      (layout properties.entries).length + (layout entries).length := by
  induction entries generalizing properties with
  | nil => exact Nat.le_refl _
  | cons entry rest inductionHypothesis =>
      have later := inductionHypothesis (properties.set entry.1 entry.2)
      have here := length_layout_insert_le entry.1 entry.2 properties.entries
      have inner : (properties.set entry.1 entry.2).entries =
          Keyed.insert entry.1 entry.2 properties.entries := rfl
      rw [inner] at later
      rw [Properties.setAll_cons, layout_cons, List.length_append]
      omega

variable {body : Bytes} {entries : List (String × String)}

/-- What is read of a body may be written again, separators in values apart. -/
theorem Consists.of_setAll (consists : Consists body entries) :
    Consists (layout (Properties.empty.setAll entries).entries)
      (Properties.empty.setAll entries).entries := by
  refine ⟨rfl, fun entry member => ?_⟩
  rcases Properties.mem_of_mem_setAll member with none | raw
  · cases none
  · exact consists.readable entry raw

theorem Consists.length_layout_setAll_le (consists : Consists body entries) :
    (layout (Properties.empty.setAll entries).entries).length ≤ body.length := by
  have shorter := Records.length_layout_setAll_le Properties.empty entries
  have emptyLayout : layout Properties.empty.entries = [] := rfl
  rw [emptyLayout, List.length_nil, Nat.zero_add] at shorter
  rw [consists.laidOut]
  exact shorter

/-- A body is what is written for the properties that it denotes exactly if its keys increase. -/
theorem Consists.layout_setAll_eq_iff (consists : Consists body entries) :
    layout (Properties.empty.setAll entries).entries = body ↔ Keyed.Sorted entries := by
  constructor
  · intro same
    have again := consists.of_setAll
    rw [same] at again
    rw [consists.unique again]
    exact (Properties.empty.setAll entries).sorted
  · intro sorted
    have unchanged : (Properties.empty.setAll entries).entries = entries :=
      Properties.entries_setAll_of_sorted sorted
    rw [unchanged, consists.laidOut]

end Records

theorem writeRecords_eq_ok_iff {properties : Properties} {written : Bytes}
    (readable : ∀ entry ∈ properties.entries, Records.Readable entry) :
    writeRecords properties = .ok written ↔ written = Records.layout properties.entries ∧
      ∀ entry ∈ properties.entries, fieldSeparator ∉ Utf8.encode entry.2 := by
  unfold writeRecords
  rw [Records.writeEntries_eq_ok_iff]
  constructor
  · rintro ⟨consists, clear⟩
    exact ⟨consists.laidOut, clear⟩
  · rintro ⟨laidOut, clear⟩
    exact ⟨⟨laidOut, readable⟩, clear⟩

/-! ### Frames -/

theorem Frame.bytes_inj {left right : Frame} (leftAnnounced : left.body.length ≤ maxLength)
    (rightAnnounced : right.body.length ≤ maxLength) : left.bytes = right.bytes ↔ left = right := by
  constructor
  · intro same
    have leftRead := read_bytes (Nat.le_refl _) leftAnnounced []
    have sameLength := congrArg List.length same
    rw [length_bytes, length_bytes] at sameLength
    have sameBody : left.body.length = right.body.length := by
      unfold size at sameLength
      omega
    have rightRead := read_bytes (Nat.le_of_eq sameBody.symm) rightAnnounced []
    rw [← same, leftRead] at rightRead
    cases rightRead
    rfl
  · intro same
    rw [same]

namespace Codec

variable {codec : Codec} {frame : Frame} {event : Event} {plain : Bytes}

/-- The header of a frame is the one of its event, and the status is in the form in which bytes are
read. -/
theorem Opens.frameOf_eq (opens : Opens frame plain event) (body : Bytes) :
    frameOf event body = { frame with body := body } := by
  unfold frameOf
  rw [opens.uid_eq, opens.options_eq, opens.feedback_eq, Feedback.code_ofCode]

theorem Opens.isNormal (opens : Opens frame plain event) : event.feedback.IsNormal := by
  rw [opens.feedback_eq]
  exact Feedback.isNormal_ofCode frame.feedback

theorem Opens.plainBody_of_isOpaque (opens : Opens frame plain event)
    (isOpaque : event.isOpaque = true) : plainBody event = .ok plain := by
  have bodies := opens.bodies
  rw [if_pos isOpaque] at bodies
  unfold plainBody
  rw [if_pos isOpaque, bodies.1, bodies.2]
  rfl

theorem Opens.plainBody_of_formatted (opens : Opens frame plain event)
    (formatted : event.isOpaque = false) :
    readRecords plain = .ok event.properties ∧ plainBody event = writeRecords event.properties := by
  have bodies := opens.bodies
  rw [formatted, if_neg Bool.false_ne_true] at bodies
  refine ⟨bodies.2, ?_⟩
  unfold plainBody
  rw [formatted, bodies.1]
  rfl

/-- The body of an uncompressed frame is opened as it stands. -/
theorem opens_of_uncompressed (opened : codec.openFrame frame = .ok event)
    (uncompressed : event.isCompressed = false) : Opens frame frame.body event := by
  obtain ⟨plain, inflated, opens⟩ := exists_opens_of_openFrame opened
  have isPlain : codec.inflate frame = .ok frame.body := by
    unfold inflate
    rw [← opens.options_eq]
    exact if_neg (Bool.eq_false_iff.mp uncompressed)
  rw [isPlain] at inflated
  cases inflated
  exact opens

theorem wireBody_of_plainBody (uncompressed : event.isCompressed = false)
    (made : plainBody event = .ok plain) : codec.wireBody event = .ok plain := by
  unfold wireBody
  rw [made, uncompressed]
  rfl

theorem encode_of_wireBody {body : Bytes} (made : codec.wireBody event = .ok body)
    (fits : body.length ≤ codec.limit) (announced : body.length ≤ maxLength) :
    codec.encode event = .ok (frameOf event body).bytes := by
  unfold encode
  rw [made]
  simp only [if_neg (Nat.not_lt.mpr fits), if_neg (Nat.not_lt.mpr announced)]

/-- The records of a body, and how what is written for its event stands to them. -/
theorem Opens.exists_entries (opens : Opens frame plain event)
    (formatted : event.isOpaque = false) :
    ∃ entries, Records.Consists plain entries ∧
      plainBody event = writeRecords event.properties ∧
      (∀ entry ∈ event.properties.entries, Records.Readable entry) ∧
      (Records.layout event.properties.entries).length ≤ plain.length ∧
      (Records.layout event.properties.entries = plain ↔ Keyed.Sorted entries) := by
  obtain ⟨isRead, made⟩ := opens.plainBody_of_formatted formatted
  obtain ⟨entries, consists, setAll⟩ := readRecords_eq_ok_iff.mp isRead
  rw [setAll] at made ⊢
  exact ⟨entries, consists, made, consists.of_setAll.readable, consists.length_layout_setAll_le,
    consists.layout_setAll_eq_iff⟩

/-- Properties that were read are encoded as the frame of their records, unless one of their values
holds the field separator. -/
theorem encode_eq_ok_iff_of_readable {again : Bytes} (uncompressed : event.isCompressed = false)
    (made : plainBody event = writeRecords event.properties)
    (readable : ∀ entry ∈ event.properties.entries, Records.Readable entry)
    (fits : (Records.layout event.properties.entries).length ≤ codec.limit)
    (announced : (Records.layout event.properties.entries).length ≤ maxLength) :
    codec.encode event = .ok again ↔
      (∀ entry ∈ event.properties.entries, fieldSeparator ∉ Utf8.encode entry.2) ∧
        again = (frameOf event (Records.layout event.properties.entries)).bytes := by
  constructor
  · intro encoded
    obtain ⟨body, isBody, _, _, rfl⟩ := exists_body_of_encode encoded
    have plain := plainBody_of_wireBody uncompressed isBody
    rw [made] at plain
    obtain ⟨rfl, clear⟩ := (writeRecords_eq_ok_iff readable).mp plain
    exact ⟨clear, rfl⟩
  · rintro ⟨clear, rfl⟩
    have plain := (writeRecords_eq_ok_iff readable).mpr ⟨rfl, clear⟩
    rw [← made] at plain
    exact encode_of_wireBody (wireBody_of_plainBody uncompressed plain) fits announced

/-- The body of a frame of `count` bytes at the front of a buffer. -/
def bodyField (buffer : Bytes) (count : Nat) : Bytes :=
  (buffer.take (count - trailerLength)).drop headerLength

theorem bodyField_bytes (frame : Frame) (rest : Bytes) :
    bodyField (frame.bytes ++ rest) frame.size = frame.body := by
  unfold bodyField
  rw [Frame.bytes_eq_stamped, Frame.stamped_append, Frame.size_sub_trailerLength, List.take_left]
  show List.drop frame.header.length _ = _
  exact List.drop_left

/-- **An event that was decoded from an uncompressed frame is encoded again as this frame, if it
carries a payload.** If it carries properties, it is refused exactly if one of its values holds the
field separator; otherwise the second frame is no longer than the first, has the same three bytes in
front and the same meaning, and is the first one exactly if the keys of its records increase. -/
theorem encode_of_decode {source : Bytes} {count : Nat}
    (decoded : codec.decode source = .ok (some (event, count)))
    (uncompressed : event.isCompressed = false) :
    source.take 3 = [event.uid.value, event.options.bits, event.feedback.code] ∧
    (event.isOpaque = true → codec.encode event = .ok (source.take count)) ∧
    (event.isOpaque = false →
      ((∃ again, codec.encode event = .ok again) ↔
        ∀ entry ∈ event.properties.entries, fieldSeparator ∉ Utf8.encode entry.2) ∧
      ∀ again, codec.encode event = .ok again →
        again.length ≤ count ∧ again.take 3 = source.take 3 ∧
        (∃ restored, codec.decode again = .ok (some (restored, again.length)) ∧
          (restored == event) = true) ∧
        ∃ entries, Records.Consists (bodyField source count) entries ∧
          (again = source.take count ↔ Keyed.Sorted entries)) := by
  obtain ⟨frame, found, opened, rfl⟩ := exists_frame_of_decode decoded
  obtain ⟨rest, rfl, fits, announced⟩ := Frame.exists_rest_of_read found
  have opens := opens_of_uncompressed opened uncompressed
  have header (body : Bytes) := opens.frameOf_eq body
  have front : (frame.bytes ++ rest).take frame.size = frame.bytes := by
    rw [← Frame.length_bytes, List.take_left]
  rw [front, bodyField_bytes]
  refine ⟨?_, ?_, ?_⟩
  · have bare := header []
    unfold frameOf at bare
    rw [Frame.mk.injEq] at bare
    rw [bare.1, bare.2.1, bare.2.2.1]
    rfl
  · intro isOpaque
    have made := opens.plainBody_of_isOpaque isOpaque
    rw [encode_of_wireBody (wireBody_of_plainBody uncompressed made) fits announced, header]
  · intro formatted
    obtain ⟨entries, consists, made, readable, shorter, canonical⟩ :=
      opens.exists_entries formatted
    -- What is written is never longer than what was read, so no limit can refuse it.
    have encodes {again : Bytes} : codec.encode event = .ok again ↔ _ :=
      encode_eq_ok_iff_of_readable uncompressed made readable
        (Nat.le_trans shorter fits) (Nat.le_trans shorter announced)
    constructor
    · constructor
      · rintro ⟨again, encoded⟩
        exact (encodes.mp encoded).1
      · intro clear
        exact ⟨_, encodes.mpr ⟨clear, rfl⟩⟩
    · intro again encoded
      obtain ⟨clear, rfl⟩ := encodes.mp encoded
      have plain : plainBody event = .ok (Records.layout event.properties.entries) := by
        rw [made]
        exact (writeRecords_eq_ok_iff readable).mpr ⟨rfl, clear⟩
      rw [header] at encoded ⊢
      refine ⟨?_, rfl, ?_, entries, consists, ?_⟩
      · rw [Frame.length_bytes]
        unfold Frame.size
        simp only
        omega
      · have restored := decode_encode uncompressed
          (wireBody_of_plainBody uncompressed plain) encoded
          (Nat.le_trans shorter fits) []
        rw [List.append_nil] at restored
        exact ⟨_, restored, Event.received_beq opens.isNormal _⟩
      · rw [Frame.bytes_inj (Nat.le_trans shorter announced) announced, ← canonical]
        constructor
        · intro same
          exact congrArg Frame.body same
        · intro same
          rw [same]

/-- A key that comes twice, first with a field separator in its value: the last value counts, and
the event is encoded again in fewer bytes than it came in. -/
theorem encode_of_decode_of_repeated_key :
    let raw := [("b", "\x1f"), ("a", ""), ("b", "x")]
    let source := (Frame.mk 200 240 9 (Records.layout raw)).bytes ++ [1]
    ∃ event again restored, default.decode source = .ok (some (event, 26)) ∧
      default.encode event = .ok again ∧ again.length ≤ 26 ∧ again.take 3 = source.take 3 ∧
      default.decode again = .ok (some (restored, again.length)) ∧ (restored == event) = true ∧
      again ≠ source.take 26 := by
  intro raw source
  let event : Event :=
    { uid := ⟨200⟩, options := ⟨240⟩, feedback := .other 9,
      properties := (Properties.empty.set "a" "").set "b" "x",
      framing := (Frame.mk 200 240 9 (Records.layout raw)).framing }
  have decoded : default.decode source = .ok (some (event, 26)) := by decide +kernel
  obtain ⟨_, _, records⟩ := encode_of_decode decoded (by decide)
  obtain ⟨accepted, relayed⟩ := records (by decide)
  obtain ⟨again, encoded⟩ := accepted.mpr (by decide +kernel)
  obtain ⟨shorter, front, ⟨restored, restores, same⟩, entries, consists, canonical⟩ :=
    relayed again encoded
  have isRaw : entries = raw := consists.unique ⟨by decide +kernel, by decide +kernel⟩
  refine ⟨event, again, restored, decoded, encoded, shorter, front, restores, same, ?_⟩
  rw [Ne, canonical, isRaw]
  decide +kernel

end Codec

end EventTransport
