import Mathlib.Data.List.Basic
import EventTransport.Proofs.Bytes.Remainder
import EventTransport.Proofs.Frame.Layout

/-!
Contract: frames that were damaged on their way.

Owns:
- `DifferWithin`, byte strings that are the same outside a range of positions;
- that a frame is refused, with the checksum it carries and the one it should, after damage to at
  most four bytes of its body that stand together, or to its checksum.

Does not own: damage to the header or to the footer.
-/

namespace EventTransport

/-- Two byte strings are the same before `first` and from `last` on. -/
def DifferWithin (left right : Bytes) (first last : Nat) : Prop :=
  ∀ index, left[index]? ≠ right[index]? → first ≤ index ∧ index < last

namespace DifferWithin

variable {left right : Bytes} {first last : Nat}

theorem iff_take_drop :
    DifferWithin left right first last ↔
      left.take first = right.take first ∧ left.drop last = right.drop last := by
  constructor
  · intro within
    constructor
    · apply List.ext_getElem?
      intro index
      rw [List.getElem?_take, List.getElem?_take]
      split
      · by_contra differ
        have inside := within index differ
        omega
      · rfl
    · apply List.ext_getElem?
      intro index
      rw [List.getElem?_drop, List.getElem?_drop]
      by_contra differ
      have inside := within (last + index) differ
      omega
  · rintro ⟨front, back⟩ index differ
    constructor
    · by_contra before
      have same := congrArg (·[index]?) front
      simp only [List.getElem?_take, if_pos (Nat.lt_of_not_le before)] at same
      exact differ same
    · by_contra behind
      have same := congrArg (·[index - last]?) back
      simp only [List.getElem?_drop, Nat.add_sub_cancel' (Nat.le_of_not_lt behind)] at same
      exact differ same

instance : Decidable (DifferWithin left right first last) := decidable_of_iff' _ iff_take_drop

theorem take_eq (within : DifferWithin left right first last) :
    left.take first = right.take first :=
  (iff_take_drop.mp within).1

theorem drop_eq (within : DifferWithin left right first last) : left.drop last = right.drop last :=
  (iff_take_drop.mp within).2

theorem widen (within : DifferWithin left right first last) {more : Nat} (further : last ≤ more) :
    DifferWithin left right first more := by
  intro index differ
  have inside := within index differ
  omega

/-- What differs from a string in its middle part only is this string with another middle part. -/
theorem exists_middle {front middle back : Bytes}
    (within : DifferWithin left (front ++ (middle ++ back)) front.length
      (front.length + middle.length))
    (sameLength : left.length = (front ++ (middle ++ back)).length) :
    ∃ other, other.length = middle.length ∧ left = front ++ (other ++ back) := by
  refine ⟨(left.drop front.length).take middle.length, ?_, ?_⟩
  · rw [List.length_take, List.length_drop, sameLength, List.length_append, List.length_append]
    omega
  · have front_eq := within.take_eq
    have back_eq := within.drop_eq
    rw [List.take_left] at front_eq
    rw [← List.drop_drop, ← List.drop_drop, List.drop_left, List.drop_left] at back_eq
    calc left
        = left.take front.length ++ ((left.drop front.length).take middle.length ++
            (left.drop front.length).drop middle.length) := by
          rw [List.take_append_drop, List.take_append_drop]
      _ = front ++ ((left.drop front.length).take middle.length ++ back) := by
          rw [front_eq, back_eq]

theorem of_append {front back : Bytes} (sameLength : left.length = right.length)
    (within : DifferWithin (front ++ (left ++ back)) (front ++ (right ++ back)) first last) :
    DifferWithin left right (first - front.length) (last - front.length) := by
  intro index differ
  have below : index < left.length := by
    by_contra beyond
    apply differ
    rw [List.getElem?_eq_none (by omega), List.getElem?_eq_none (by omega)]
  have inner (middle : Bytes) (reaches : index < middle.length) :
      (front ++ (middle ++ back))[front.length + index]? = middle[index]? := by
    rw [List.getElem?_append_right (by omega), Nat.add_sub_cancel_left,
      List.getElem?_append_left reaches]
  have inside := within (front.length + index) (by
    rw [inner left below, inner right (sameLength ▸ below)]
    exact differ)
  omega

/-- Damage to at most four bytes that stand together changes the checksum. -/
theorem crc32_ne (within : DifferWithin left right first last) (narrow : last ≤ first + 4)
    (sameLength : left.length = right.length) (different : left ≠ right) :
    crc32 left ≠ crc32 right := by
  -- Cut at `first` and four bytes further on, the strings differ in the middle piece only.
  have wide := within.widen narrow
  have pieces (bytes : Bytes) :
      bytes.take first ++ ((bytes.drop first).take 4 ++ bytes.drop (first + 4)) = bytes := by
    rw [← List.drop_drop, List.take_append_drop, List.take_append_drop]
  rw [← pieces left, ← pieces right, wide.take_eq, wide.drop_eq]
  apply crc32_ne_of_block
  · rw [List.length_take]
    omega
  · simp only [List.length_take, List.length_drop, sameLength]
  · intro same
    apply different
    rw [← pieces left, ← pieces right, wide.take_eq, wide.drop_eq, same]

end DifferWithin

theorem Bytes.exists_word_of_length {bytes : Bytes} (four : bytes.length = 4) :
    ∃ value : UInt32, bytes = Bytes.word value.toNat := by
  match bytes with
  | [first, second, third, fourth] =>
      have small := Bytes.wordValue_lt first second third fourth
      refine ⟨UInt32.ofNat (Bytes.wordValue first second third fourth), ?_⟩
      rw [UInt32.toNat_ofNat', Nat.mod_eq_of_lt small, Bytes.word_wordValue]

namespace Frame

variable {frame : Frame} {damaged rest : Bytes}

/-- A frame damaged in its body is a frame with another body, under the checksum of the old one. -/
theorem exists_body_of_damage
    (inBody : DifferWithin damaged (frame.bytes ++ rest) headerLength
      (headerLength + frame.body.length))
    (sameLength : damaged.length = (frame.bytes ++ rest).length) :
    ∃ body, body.length = frame.body.length ∧
      damaged = { frame with body := body }.stamped (crc32 frame.body) ++ rest ∧
      ∀ first last, DifferWithin damaged (frame.bytes ++ rest) first last →
        DifferWithin body frame.body (first - headerLength) (last - headerLength) := by
  rw [bytes_eq_stamped, stamped_append, List.append_assoc] at inBody sameLength ⊢
  obtain ⟨body, bodyLength, rfl⟩ := inBody.exists_middle sameLength
  refine ⟨body, bodyLength, ?_, fun first last within => within.of_append bodyLength⟩
  have sameHeader : { frame with body := body }.header = frame.header := by
    show frame.uid :: frame.options :: frame.feedback :: Bytes.word body.length = _
    rw [bodyLength]
    rfl
  rw [stamped_append, sameHeader, List.append_assoc]

/-- A frame damaged in its checksum is the same frame under another one. -/
theorem exists_checksum_of_damage
    (inChecksum : DifferWithin damaged (frame.bytes ++ rest) (headerLength + frame.body.length)
      (headerLength + frame.body.length + checksumLength))
    (sameLength : damaged.length = (frame.bytes ++ rest).length) :
    ∃ carried, damaged = frame.stamped carried ++ rest := by
  have place : (frame.header ++ frame.body).length = headerLength + frame.body.length :=
    List.length_append
  rw [bytes_eq_stamped, stamped_append] at inChecksum sameLength
  rw [← place] at inChecksum
  obtain ⟨field, fieldLength, rfl⟩ := inChecksum.exists_middle sameLength
  obtain ⟨carried, rfl⟩ := Bytes.exists_word_of_length fieldLength
  exact ⟨carried, (stamped_append frame carried rest).symm⟩

end Frame

namespace Codec

/-- What a decoded event says of its frame is what the frame says of itself. -/
theorem framing_of_openFrame {codec : Codec} {frame : Frame} {event : Event}
    (opened : codec.openFrame frame = .ok event) : event.framing = frame.framing := by
  obtain ⟨plain, -, opens⟩ := exists_opens_of_openFrame opened
  exact opens.framing_eq

theorem decode_of_refused {codec : Codec} {buffer : Bytes} {error : Error}
    (refused : Frame.read codec.limit buffer = .error error) :
    codec.decode buffer = .error error := by
  unfold decode
  rw [refused]

/-- The checksum carried by a frame of `count` bytes at the front of a buffer. -/
def checksumField (buffer : Bytes) (count : Nat) : Bytes :=
  (buffer.drop (count - trailerLength)).take checksumLength

theorem checksumField_stamped (frame : Frame) (carried : UInt32) (rest : Bytes) :
    checksumField (frame.stamped carried ++ rest) frame.size = Bytes.word carried.toNat := by
  unfold checksumField
  rw [Frame.stamped_append, Frame.size_sub_trailerLength, List.drop_left]
  show List.take (Bytes.word carried.toNat).length _ = _
  exact List.take_left

/-- A frame under a checksum that is not the one of its body is refused with both. -/
theorem decode_of_stamped {codec : Codec} {frame : Frame} {carried : UInt32}
    (fits : frame.body.length ≤ codec.limit) (announced : frame.body.length ≤ maxLength)
    (wrong : carried ≠ crc32 frame.body) (rest : Bytes) :
    codec.decode (frame.stamped carried ++ rest) =
      .error (.integrityViolation carried (crc32 frame.body)) := by
  have refused := Frame.read_stamped fits announced carried rest
  rw [if_neg wrong] at refused
  exact decode_of_refused refused

/-- **Damage to at most four bytes of a body that stand together is always found, and so is any
damage to its checksum.** The frame is refused with the checksum that it carries and the one
that its body has now; of these, the one that was not damaged is the one that the event was
decoded with. -/
theorem decode_of_damage {codec : Codec} {source damaged : Bytes} {event : Event} {count : Nat}
    (decoded : codec.decode source = .ok (some (event, count)))
    (sameLength : damaged.length = source.length) (different : damaged ≠ source) :
    (∀ start, DifferWithin damaged source headerLength (count - trailerLength) →
      DifferWithin damaged source start (start + 4) →
      ∃ expected actual, codec.decode damaged = .error (.integrityViolation expected actual) ∧
        Bytes.word expected.toNat = checksumField damaged count ∧
        expected.toNat = event.framing.checksum ∧ actual ≠ expected) ∧
    (DifferWithin damaged source (count - trailerLength) (count - trailerLength + checksumLength) →
      ∃ expected actual, codec.decode damaged = .error (.integrityViolation expected actual) ∧
        Bytes.word expected.toNat = checksumField damaged count ∧
        actual.toNat = event.framing.checksum ∧ expected ≠ actual) := by
  obtain ⟨frame, found, opened, rfl⟩ := exists_frame_of_decode decoded
  obtain ⟨rest, rfl, fits, announced⟩ := Frame.exists_rest_of_read found
  have checksum : event.framing.checksum = (crc32 frame.body).toNat := by
    rw [framing_of_openFrame opened]
    rfl
  have bodyEnd : frame.size - trailerLength = headerLength + frame.body.length :=
    Nat.add_sub_cancel ..
  rw [bodyEnd]
  -- In both cases a frame of the same size is read up to its checksum, which alone decides.
  constructor
  · intro start inBody burst
    obtain ⟨body, bodyLength, rfl, inner⟩ := Frame.exists_body_of_damage inBody sameLength
    have sameSize : { frame with body := body }.size = frame.size := by
      show headerLength + body.length + trailerLength = _
      rw [bodyLength]
      rfl
    have wrong : crc32 body ≠ crc32 frame.body := by
      apply (inner start (start + 4) burst).crc32_ne (by omega) bodyLength
      rintro rfl
      exact different rfl
    refine ⟨crc32 frame.body, crc32 body, ?_, ?_, checksum.symm, wrong⟩
    · exact decode_of_stamped (bodyLength ▸ fits) (bodyLength ▸ announced) wrong.symm rest
    · rw [← sameSize, checksumField_stamped]
  · intro inChecksum
    obtain ⟨carried, rfl⟩ := Frame.exists_checksum_of_damage inChecksum sameLength
    have wrong : carried ≠ crc32 frame.body := by
      rintro rfl
      exact different rfl
    refine ⟨carried, crc32 frame.body, ?_, ?_, checksum.symm, wrong⟩
    · exact decode_of_stamped fits announced wrong rest
    · exact (checksumField_stamped frame carried rest).symm

/-- Four damaged bytes in a row, the last four of a body that holds a footer, and a damaged byte of
the checksum. -/
theorem decode_of_damage_of_footer_body :
    let source := (Frame.mk 5 1 0 (footer ++ [7, 8])).bytes ++ [9]
    let burst := source.take 9 ++ [1, 2, 3, 4] ++ source.drop 13
    let restamped := source.set 16 0
    ∃ event, default.decode source = .ok (some (event, 21)) ∧
      (∃ expected actual, default.decode burst = .error (.integrityViolation expected actual) ∧
        Bytes.word expected.toNat = checksumField burst 21 ∧
        expected.toNat = event.framing.checksum ∧ actual ≠ expected) ∧
      (∃ expected actual, default.decode restamped = .error (.integrityViolation expected actual) ∧
        Bytes.word expected.toNat = checksumField restamped 21 ∧
        actual.toNat = event.framing.checksum ∧ expected ≠ actual) := by
  intro source burst restamped
  have decoded : default.decode source = .ok (some
      ({ uid := ⟨5⟩, options := ⟨1⟩, payload := footer ++ [7, 8],
         framing := (Frame.mk 5 1 0 (footer ++ [7, 8])).framing }, 21)) := by
    decide +kernel
  refine ⟨_, decoded, ?_, ?_⟩
  · exact (decode_of_damage decoded (by decide +kernel) (by decide +kernel)).1 9
      (by decide +kernel) (by decide +kernel)
  · exact (decode_of_damage decoded (by decide +kernel) (by decide +kernel)).2 (by decide +kernel)

end Codec

end EventTransport
