import EventTransport.Proofs.Frame.RoundTrip

/-!
Contract: what a codec makes of its own frames of compressed events.

Owns:
- the plain body behind such a frame, and the frame decoded;
- that the frame is decoded into the event exactly if its plain body is within the limit, which is
  asked of the compressed body alone when the frame is made;
- `Compressor.ofRuns`, under which a body shrinks below a limit that it exceeds.

Does not own: the compressor in use, of which nothing is known but that it is lossless.
-/

namespace EventTransport

/-- A compressor of runs of one byte; it has nothing for other bodies. -/
def Compressor.ofRuns : Compressor where
  compress
    | byte :: rest =>
      if rest.all (· == byte) && rest.length < 255 then .ok [byte, UInt8.ofNat (rest.length + 1)]
      else .error (.described "no run")
    | [] => .error (.described "no run")
  decompress packed limit :=
    match packed with
    | [byte, count] =>
      if count.toNat ≤ limit then .ok (List.replicate count.toNat byte)
      else .error (.overLimit limit)
    | _ => .error .corrupt

theorem Compressor.lossless_ofRuns : Compressor.ofRuns.Lossless := by
  intro plain packed compressed limit
  cases plain with
  | nil => cases compressed
  | cons byte rest =>
      simp only [ofRuns] at compressed
      split at compressed
      · rename_i isRun
        cases compressed
        simp only [Bool.and_eq_true, List.all_eq_true, beq_iff_eq, decide_eq_true_eq] at isRun
        have count : (UInt8.ofNat (rest.length + 1)).toNat = (byte :: rest).length := by
          rw [UInt8.toNat_ofNat', List.length_cons]
          omega
        have run : List.replicate (byte :: rest).length byte = byte :: rest :=
          (List.eq_replicate_of_mem (by simpa using isRun.1)).symm
        simp only [ofRuns, count, run]
        split
        · rfl
        · exact ⟨_, rfl⟩
      · cases compressed

namespace Codec

variable {codec : Codec} {compressor : Compressor} {event : Event} {packed : Bytes}

/-- What is transmitted for a compressed event was compressed from its plain body. -/
theorem exists_plain_of_wireBody (carries : codec.compressor = some compressor)
    (compressed : event.isCompressed = true) (made : codec.wireBody event = .ok packed) :
    ∃ plain, plainBody event = .ok plain ∧ compressor.compress plain = .ok packed := by
  unfold wireBody at made
  split at made
  · cases made
  · rename_i plain isPlain
    rw [if_pos compressed, carries] at made
    simp only at made
    split at made
    · cases made
    · rename_i isPacked
      cases made
      exact ⟨plain, isPlain, isPacked⟩

/-- On the way back the compressor is asked for the limit of the codec. -/
theorem inflate_frameOf (carries : codec.compressor = some compressor)
    (compressed : event.isCompressed = true) (packed : Bytes) :
    codec.inflate (frameOf event packed) =
      (compressor.decompress packed codec.limit).mapError Error.compression := by
  have sameOptions : Options.contains ⟨(frameOf event packed).options⟩ Options.compressed = true :=
    compressed
  unfold inflate
  rw [if_pos sameOptions, carries]
  have sameBody : (frameOf event packed).body = packed := rfl
  simp only [sameBody]
  cases compressor.decompress packed codec.limit <;> rfl

/-- A frame whose body cannot be restored is refused for this. -/
theorem decode_of_inflate_error {buffer : Bytes} {frame : Frame} {error : Error}
    (found : Frame.read codec.limit buffer = .ok (some frame))
    (refused : codec.inflate frame = .error error) : codec.decode buffer = .error error := by
  unfold decode openFrame
  rw [found]
  simp only [refused]

/-- **A codec decodes its own frame of a compressed event exactly if the plain body is within the
limit**, and then into an equal event. The compressed body is all that was within the limit for
certain; a frame of a greater plain body is refused by the compressor. -/
theorem decode_of_encode_compressed {frame : Bytes} (lossless : compressor.Lossless)
    (carries : codec.compressor = some compressor) (compressed : event.isCompressed = true)
    (normal : event.feedback.IsNormal) (encoded : codec.encode event = .ok frame) :
    ∃ plain, plainBody event = .ok plain ∧
      if plain.length ≤ codec.limit then
        ∃ restored, codec.decode frame = .ok (some (restored, frame.length)) ∧
          (restored == event) = true
      else ∃ fault, codec.decode frame = .error (.compression fault) := by
  obtain ⟨packed, made, fits, announced, rfl⟩ := exists_body_of_encode encoded
  obtain ⟨plain, isPlain, isPacked⟩ := exists_plain_of_wireBody carries compressed made
  have found : Frame.read codec.limit (frameOf event packed).bytes =
      .ok (some (frameOf event packed)) := by
    rw [← List.append_nil (frameOf event packed).bytes]
    exact Frame.read_bytes fits announced []
  have inflated := inflate_frameOf carries compressed packed
  have restores := lossless plain packed isPacked codec.limit
  refine ⟨plain, isPlain, ?_⟩
  split at restores
  · rename_i within
    rw [restores] at inflated
    have opened : codec.openFrame (frameOf event packed) =
        .ok (event.received (frameOf event packed).framing) := by
      unfold openFrame
      rw [inflated]
      exact openBody_frameOf isPlain packed
    rw [if_pos within]
    exact ⟨_, decode_of_openFrame found opened, Event.received_beq normal _⟩
  · rename_i beyond
    obtain ⟨fault, refuses⟩ := restores
    rw [refuses] at inflated
    rw [if_neg beyond]
    exact ⟨fault, decode_of_inflate_error found inflated⟩

/-- A run of sixty-four bytes, for a codec whose limit it just meets. -/
theorem decode_of_encode_compressed_of_limit :
    let event : Event :=
      { uid := ⟨8⟩, options := ⟨3⟩, feedback := .other 9, payload := List.replicate 64 0 }
    let codec : Codec := ⟨64, some Compressor.ofRuns⟩
    let frame := (Frame.mk 8 3 9 [0, 64]).bytes
    codec.encode event = .ok frame ∧
      ∃ restored, codec.decode frame = .ok (some (restored, 17)) ∧ (restored == event) = true := by
  intro event codec frame
  have encoded : codec.encode event = .ok frame := by decide +kernel
  refine ⟨encoded, ?_⟩
  have normal : event.feedback.IsNormal := Feedback.normalized_eq_self_iff.mp (by decide)
  have carries : codec.compressor = some Compressor.ofRuns := rfl
  obtain ⟨plain, isPlain, decoded⟩ := decode_of_encode_compressed Compressor.lossless_ofRuns carries
    (by decide) normal encoded
  have isPayload : plainBody event = .ok (List.replicate 64 0) := by decide +kernel
  rw [isPayload] at isPlain
  cases isPlain
  rw [if_pos (by decide)] at decoded
  exact decoded

/-- **A codec may refuse a frame of its own.** A run of a hundred bytes is compressed to two,
which are within a limit of sixty-four; its frame is made, and then refused by a codec made the
same way. -/
theorem refuses_own_frame_of_run :
    let event : Event := { uid := ⟨8⟩, options := ⟨3⟩, payload := List.replicate 100 0 }
    let codec : Codec := ⟨64, some Compressor.ofRuns⟩
    let frame := (Frame.mk 8 3 0 [0, 100]).bytes
    Compressor.ofRuns.Lossless ∧ event.isCompressed = true ∧ event.feedback.IsNormal ∧
      codec.encode event = .ok frame ∧
      codec.decode frame = .error (.compression (.overLimit 64)) := by
  intro event codec frame
  exact ⟨Compressor.lossless_ofRuns, by decide, trivial, by decide +kernel, by decide +kernel⟩

end Codec

end EventTransport
