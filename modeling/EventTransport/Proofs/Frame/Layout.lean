import EventTransport.Proofs.Frame.Draining

/-!
Contract: which buffers a frame is read from.

Owns:
- `Frame.stamped`, a frame on the wire under any checksum, and what reading it gives;
- that a frame which is read stands at the front of its buffer, byte for byte.

Does not own: what a body means.
-/

namespace EventTransport

namespace Frame

theorem length_bytes (frame : Frame) : frame.bytes.length = frame.size := by
  simp only [bytes, size, headerLength, trailerLength, footer, List.length_cons,
    List.length_append, Bytes.length_word, List.length_nil]
  omega

theorem framing_eq (frame : Frame) :
    frame.framing = ⟨frame.body.length, (crc32 frame.body).toNat, frame.bytes.length⟩ := by
  rw [length_bytes]
  rfl

/-- A frame on the wire with a checksum that need not be the one of its body. -/
def stamped (frame : Frame) (carried : UInt32) : Bytes :=
  frame.uid :: frame.options :: frame.feedback ::
    (Bytes.word frame.body.length ++ (frame.body ++ (Bytes.word carried.toNat ++ footer)))

/-- The bytes before the body. -/
def header (frame : Frame) : Bytes :=
  frame.uid :: frame.options :: frame.feedback :: Bytes.word frame.body.length

theorem bytes_eq_stamped (frame : Frame) : frame.bytes = frame.stamped (crc32 frame.body) := rfl

/-- A frame at the front of a buffer, cut where its trailer begins. -/
theorem stamped_append (frame : Frame) (carried : UInt32) (rest : Bytes) :
    frame.stamped carried ++ rest =
      (frame.header ++ frame.body) ++ (Bytes.word carried.toNat ++ (footer ++ rest)) := by
  simp only [stamped, header, List.cons_append, List.append_assoc]

theorem size_sub_trailerLength (frame : Frame) :
    frame.size - trailerLength = (frame.header ++ frame.body).length := by
  rw [List.length_append]
  exact Nat.add_sub_cancel ..

/-- The checksum of a trailer decides, once its footer is in place. -/
theorem checkTrailer_stamp (body : Bytes) (carried : UInt32) :
    checkTrailer body (Bytes.word carried.toNat ++ footer) =
      if carried = crc32 body then .ok ()
      else .error (.integrityViolation carried (crc32 body)) := by
  have isCarried : UInt32.ofNat (Bytes.wordValue (UInt8.ofNat (carried.toNat / 16777216))
      (UInt8.ofNat (carried.toNat / 65536)) (UInt8.ofNat (carried.toNat / 256))
      (UInt8.ofNat carried.toNat)) = carried := by
    rw [Bytes.wordValue_word carried.toNat_lt, UInt32.ofNat_toNat]
  simp only [Bytes.word, List.cons_append, List.nil_append, checkTrailer, isCarried, ne_eq,
    not_true_eq_false, if_false, ite_not]

theorem checkTrailer_eq_ok_iff {body trailer : Bytes} :
    checkTrailer body trailer = .ok () ↔
      trailer = Bytes.word (crc32 body).toNat ++ footer := by
  constructor
  · intro passed
    unfold checkTrailer at passed
    split at passed
    · rename_i first second third fourth ending
      split at passed
      · cases passed
      · rename_i inPlace
        simp only at passed
        split at passed
        · cases passed
        · rename_i agrees
          have carried : UInt32.ofNat (Bytes.wordValue first second third fourth) = crc32 body := by
            simpa using agrees
          have value : (crc32 body).toNat = Bytes.wordValue first second third fourth := by
            rw [← carried, UInt32.toNat_ofNat',
              Nat.mod_eq_of_lt (Bytes.wordValue_lt first second third fourth)]
          have ending : ending = footer := by simpa using inPlace
          rw [value, Bytes.word_wordValue, ending]
          rfl
    · cases passed
  · rintro rfl
    rw [checkTrailer_stamp, if_pos rfl]

/-- A frame within the limits is read from the front of a buffer exactly if it carries the checksum
of its body. -/
theorem read_stamped {limit : Nat} {frame : Frame} (fits : frame.body.length ≤ limit)
    (announced : frame.body.length ≤ maxLength) (carried : UInt32) (rest : Bytes) :
    read limit (frame.stamped carried ++ rest) =
      if carried = crc32 frame.body then .ok (some frame)
      else .error (.integrityViolation carried (crc32 frame.body)) := by
  have small : frame.body.length < 4294967296 := by
    unfold maxLength at announced
    omega
  have layout : frame.stamped carried ++ rest =
      frame.uid :: frame.options :: frame.feedback ::
        UInt8.ofNat (frame.body.length / 16777216) :: UInt8.ofNat (frame.body.length / 65536) ::
        UInt8.ofNat (frame.body.length / 256) :: UInt8.ofNat frame.body.length ::
          (frame.body ++ ((Bytes.word carried.toNat ++ footer) ++ rest)) := by
    simp [stamped, Bytes.word]
  have trailer : (Bytes.word carried.toNat ++ footer).length = trailerLength := rfl
  rw [layout, read_header]
  simp only [Bytes.wordValue_word small]
  rw [if_neg (by omega), if_neg (by simp only [List.length_append, trailer]; omega),
    List.drop_left, List.take_left, ← trailer, List.take_left, checkTrailer_stamp]
  by_cases agrees : carried = crc32 frame.body
  · simp only [if_pos agrees]
  · simp only [if_neg agrees]

theorem read_bytes {limit : Nat} {frame : Frame} (fits : frame.body.length ≤ limit)
    (announced : frame.body.length ≤ maxLength) (rest : Bytes) :
    read limit (frame.bytes ++ rest) = .ok (some frame) := by
  rw [bytes_eq_stamped, read_stamped fits announced, if_pos rfl]

/-- A frame that is read stands at the front of the buffer, and is within the limits. -/
theorem exists_rest_of_read {limit : Nat} {buffer : Bytes} {frame : Frame}
    (found : read limit buffer = .ok (some frame)) :
    ∃ rest, buffer = frame.bytes ++ rest ∧ frame.body.length ≤ limit ∧
      frame.body.length ≤ maxLength := by
  unfold read at found
  split at found
  · rename_i uid options feedback first second third fourth rest
    have small := Bytes.wordValue_lt first second third fourth
    have announced := Bytes.word_wordValue first second third fourth
    simp only at found
    generalize Bytes.wordValue first second third fourth = length at found small announced
    split at found
    · cases found
    · split at found
      · cases found
      · split at found
        · cases found
        · rename_i passed
          cases found
          have whole : (rest.take length).length = length := by
            rw [List.length_take]
            omega
          refine ⟨rest.drop (length + trailerLength), ?_, ?_, ?_⟩
          · have pieces : rest.take length ++
                ((Bytes.word (crc32 (rest.take length)).toNat ++ footer) ++
                  rest.drop (length + trailerLength)) = rest := by
              rw [← checkTrailer_eq_ok_iff.mp passed, ← List.drop_drop, List.take_append_drop,
                List.take_append_drop]
            calc uid :: options :: feedback :: first :: second :: third :: fourth :: rest
                = uid :: options :: feedback :: (Bytes.word length ++ rest) := by
                  rw [announced]
                  rfl
              _ = uid :: options :: feedback :: (Bytes.word (rest.take length).length ++
                    (rest.take length ++ ((Bytes.word (crc32 (rest.take length)).toNat ++ footer) ++
                      rest.drop (length + trailerLength)))) := by
                  rw [whole, pieces]
              _ = (Frame.mk uid options feedback (rest.take length)).bytes ++
                    rest.drop (length + trailerLength) := by
                  simp only [bytes, List.cons_append, List.append_assoc]
          · show (rest.take length).length ≤ limit
            omega
          · show (rest.take length).length ≤ maxLength
            unfold maxLength
            omega
  · cases found

end Frame

end EventTransport
