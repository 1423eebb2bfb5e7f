import EventTransport.Proofs.Frame.Damage

/-!
Contract: how many bytes of a buffer decide what is decoded from its front.

Owns:
- `Frame.decisionPoint`, told by the header of a buffer alone: the header is enough to refuse a body
  above the limit, anything else takes the whole frame;
- that the decoder waits exactly as long as there are fewer bytes, and that no later byte counts;
- `Codec.insist`, the decoder asked again and again, and that it never changes its mind about an
  error.

Does not own: what the decoder says of the bytes that it has.
-/

namespace EventTransport

namespace Frame

/-- The length of the body that a header announces; nothing is announced before it is whole. -/
def announcedLength : Bytes → Nat
  | _ :: _ :: _ :: first :: second :: third :: fourth :: _ =>
      Bytes.wordValue first second third fourth
  | _ => 0

/-- How many bytes a buffer must have for a decision about its front. -/
def decisionPoint (limit : Nat) (buffer : Bytes) : Nat :=
  if limit < announcedLength buffer then headerLength
  else headerLength + announcedLength buffer + trailerLength

theorem headerLength_le_decisionPoint (limit : Nat) (buffer : Bytes) :
    headerLength ≤ decisionPoint limit buffer := by
  unfold decisionPoint
  split <;> omega

/-- Nothing behind a header changes what it announces. -/
theorem announcedLength_append {front : Bytes} (header : headerLength ≤ front.length)
    (more : Bytes) :
    announcedLength (front ++ more) = announcedLength front := by
  match front with
  | _ :: _ :: _ :: _ :: _ :: _ :: _ :: _ => rfl
  | [] | [_] | [_, _] | [_, _, _] | [_, _, _, _] | [_, _, _, _, _] | [_, _, _, _, _, _] =>
      simp [headerLength] at header

/-- The decision point of a buffer that holds a whole header. -/
theorem decisionPoint_header (limit : Nat) (uid options feedback first second third fourth : UInt8)
    (rest : Bytes) :
    decisionPoint limit (uid :: options :: feedback :: first :: second :: third :: fourth :: rest) =
      if limit < Bytes.wordValue first second third fourth then headerLength
      else headerLength + Bytes.wordValue first second third fourth + trailerLength := rfl

theorem decisionPoint_append {front : Bytes} (header : headerLength ≤ front.length) (limit : Nat)
    (more : Bytes) : decisionPoint limit (front ++ more) = decisionPoint limit front := by
  unfold decisionPoint
  rw [announcedLength_append header]

variable {limit : Nat} {buffer : Bytes}

/-- A frame is waited for exactly as long as the buffer is short of its decision point. -/
theorem read_eq_none_iff :
    read limit buffer = .ok none ↔ buffer.length < decisionPoint limit buffer := by
  match buffer with
  | uid :: options :: feedback :: first :: second :: third :: fourth :: rest =>
      rw [read_header, decisionPoint_header]
      simp only [List.length_cons, headerLength]
      generalize Bytes.wordValue first second third fourth = length
      by_cases tooLarge : limit < length
      · rw [if_pos tooLarge, if_pos tooLarge]
        simp
      · rw [if_neg tooLarge, if_neg tooLarge]
        by_cases short : rest.length < length + trailerLength
        · rw [if_pos short]
          simp only [true_iff]
          omega
        · rw [if_neg short]
          split <;> simp only [Except.ok.injEq, reduceCtorEq, false_iff] <;> omega
  | [] | [_] | [_, _] | [_, _, _] | [_, _, _, _] | [_, _, _, _, _] | [_, _, _, _, _, _] =>
      simp [read, decisionPoint, announcedLength, headerLength, trailerLength]

/-- A body above the limit is refused with the length that was announced. -/
theorem read_of_tooLarge (tooLarge : limit < announcedLength buffer) :
    read limit buffer = .error (.frameTooLarge (announcedLength buffer) limit) := by
  match buffer with
  | uid :: options :: feedback :: first :: second :: third :: fourth :: rest =>
      rw [read_header]
      exact if_pos tooLarge
  | [] | [_] | [_, _] | [_, _, _] | [_, _, _, _] | [_, _, _, _, _] | [_, _, _, _, _, _] =>
      exact absurd tooLarge (Nat.not_lt_zero _)

/-- A frame that is read has the body that its header announces, and ends where it was decided. -/
theorem size_eq_of_read {frame : Frame} (found : read limit buffer = .ok (some frame)) :
    frame.body.length = announcedLength buffer ∧ frame.size = decisionPoint limit buffer := by
  have within : ¬ limit < announcedLength buffer := by
    intro tooLarge
    rw [read_of_tooLarge tooLarge] at found
    cases found
  obtain ⟨rest, rfl, _, announced⟩ := exists_rest_of_read found
  have small : frame.body.length < 4294967296 := by
    unfold maxLength at announced
    omega
  have same : announcedLength (frame.bytes ++ rest) = frame.body.length :=
    Bytes.wordValue_word small
  refine ⟨same.symm, ?_⟩
  unfold decisionPoint
  rw [if_neg within, same]
  rfl

end Frame

namespace Codec

variable {codec : Codec} {source : Bytes}

theorem decode_eq_none_iff :
    codec.decode source = .ok none ↔ source.length < Frame.decisionPoint codec.limit source := by
  rw [← Frame.read_eq_none_iff]
  constructor
  · intro waits
    unfold decode at waits
    split at waits
    · cases waits
    · assumption
    · split at waits <;> cases waits
  · intro waits
    unfold decode
    rw [waits]

/-- A front waits as long as it is short of the decision point of the whole. -/
theorem decode_of_isPrefix_of_lt {front : Bytes} (isFront : front <+: source)
    (short : front.length < Frame.decisionPoint codec.limit source) :
    codec.decode front = .ok none := by
  obtain ⟨more, rfl⟩ := isFront
  rw [decode_eq_none_iff]
  by_cases header : headerLength ≤ front.length
  · rwa [Frame.decisionPoint_append header] at short
  · have least := Frame.headerLength_le_decisionPoint codec.limit front
    omega

/-- A front that reaches the decision point is decoded as the whole is. -/
theorem decode_of_isPrefix_of_le {front : Bytes} (isFront : front <+: source)
    (enough : Frame.decisionPoint codec.limit source ≤ front.length) :
    codec.decode source = codec.decode front := by
  obtain ⟨more, rfl⟩ := isFront
  have header : headerLength ≤ front.length :=
    Nat.le_trans (Frame.headerLength_le_decisionPoint codec.limit _) enough
  rw [Frame.decisionPoint_append header] at enough
  apply decode_append
  intro waits
  exact Nat.not_lt.mpr enough (decode_eq_none_iff.mp waits)

/-- What a decoded event takes is what was waited for, and it says so itself. -/
theorem size_eq_of_decode {event : Event} {count : Nat}
    (decoded : codec.decode source = .ok (some (event, count))) :
    count = Frame.decisionPoint codec.limit source ∧ event.framing.rawSize = count ∧
      event.framing.length = Frame.announcedLength source := by
  obtain ⟨frame, found, opened, rfl⟩ := exists_frame_of_decode decoded
  obtain ⟨bodyLength, size⟩ := Frame.size_eq_of_read found
  rw [framing_of_openFrame opened]
  exact ⟨size, rfl, bodyLength⟩

/-! ### Asking again -/

/-- The decoder asked once after each of some chunks, whatever it said before: its answers, and the
bytes that it leaves. -/
def insist (codec : Codec) (buffer : Bytes) :
    List Bytes → List (Except Error (Option Event)) × Bytes
  | [] => ([], buffer)
  | chunk :: chunks =>
    let now := codec.next (buffer ++ chunk)
    let later := codec.insist now.2 chunks
    (now.1 :: later.1, later.2)

theorem next_eq_some_iff {event : Event} {rest : Bytes} :
    codec.next source = (.ok (some event), rest) ↔
      ∃ count, codec.decode source = .ok (some (event, count)) ∧ rest = source.drop count := by
  unfold next
  constructor
  · intro taken
    split at taken
    · cases taken
    · cases taken
    · rename_i other count decoded
      cases taken
      exact ⟨count, decoded, rfl⟩
  · rintro ⟨count, decoded, rfl⟩
    rw [decoded]

theorem next_eq_none_iff {rest : Bytes} :
    codec.next source = (.ok none, rest) ↔ codec.decode source = .ok none ∧ rest = source := by
  unfold next
  cases codec.decode source with
  | error error => simp
  | ok found => cases found <;> simp [eq_comm]

theorem next_eq_error_iff {error : Error} {rest : Bytes} :
    codec.next source = (.error error, rest) ↔
      codec.decode source = .error error ∧ rest = source := by
  unfold next
  cases codec.decode source with
  | error other => simp [eq_comm]
  | ok found => cases found <;> simp

/-- A refused buffer is refused for the same reason for ever, and nothing is taken from it. -/
theorem insist_of_error {error : Error} (refused : codec.decode source = .error error)
    (chunks : List Bytes) :
    codec.insist source chunks = (chunks.map fun _ => .error error, source ++ chunks.flatten) := by
  induction chunks generalizing source with
  | nil => rw [List.flatten_nil, List.append_nil]; rfl
  | cons chunk chunks inductionHypothesis =>
      have still : codec.decode (source ++ chunk) = .error error := by
        rw [decode_append chunk (by rw [refused]; exact fun impossible => nomatch impossible),
          refused]
      unfold insist
      simp only [next_eq_error_iff.mpr ⟨still, rfl⟩, inductionHypothesis still, List.map_cons,
        List.flatten_cons,
        List.append_assoc]

/-- **The decoder decides about a buffer at one point.** With fewer bytes it waits; with so many, or
any number more, it says the same, which is never that it waits. The point is the end of the header
if the body that is announced is above the limit, and then the frame is refused for that; otherwise
it is the end of the frame, and an event that is decoded takes the bytes up to there. They are taken
from the buffer then, and in no other case anything, so that an error is repeated whatever comes. -/
theorem decode_decided_at_point (codec : Codec) (source : Bytes) :
    let length := Frame.announcedLength source
    let point := if codec.limit < length then 7 else 15 + length
    (∀ front, front <+: source → front.length < point → codec.decode front = .ok none) ∧
    (point ≤ source.length →
      codec.decode source ≠ .ok none ∧
      (∀ front, front <+: source → point ≤ front.length →
        codec.decode front = codec.decode source) ∧
      (∀ more, codec.decode (source ++ more) = codec.decode source) ∧
      (codec.limit < length → codec.decode source = .error (.frameTooLarge length codec.limit)) ∧
      ∀ event count, codec.decode source = .ok (some (event, count)) →
        count = point ∧ event.framing.rawSize = point ∧ event.framing.length = length) ∧
    (∀ event rest, codec.next source = (.ok (some event), rest) →
      point ≤ source.length ∧ rest = source.drop point) ∧
    (∀ rest, codec.next source = (.ok none, rest) → rest = source) ∧
    ∀ error rest, codec.next source = (.error error, rest) → rest = source ∧
      ∀ chunks, codec.insist source chunks =
        (chunks.map fun _ => .error error, source ++ chunks.flatten) := by
  intro length point
  have isPoint : Frame.decisionPoint codec.limit source = point := by
    simp only [Frame.decisionPoint, point, length, headerLength, trailerLength]
    split <;> omega
  refine ⟨?_, ?_, ?_, ?_, ?_⟩
  · intro front isFront short
    exact decode_of_isPrefix_of_lt isFront (isPoint ▸ short)
  · intro enough
    have decided : codec.decode source ≠ .ok none := by
      rw [Ne, decode_eq_none_iff, isPoint]
      exact Nat.not_lt.mpr enough
    refine ⟨decided, ?_, fun more => decode_append more decided, ?_, ?_⟩
    · intro front isFront reaches
      exact (decode_of_isPrefix_of_le isFront (isPoint ▸ reaches)).symm
    · intro tooLarge
      exact decode_of_refused (Frame.read_of_tooLarge tooLarge)
    · intro event count decoded
      obtain ⟨size, rawSize, bodyLength⟩ := size_eq_of_decode decoded
      rw [isPoint] at size
      exact ⟨size, rawSize.trans size, bodyLength⟩
  · intro event rest taken
    obtain ⟨count, decoded, rfl⟩ := next_eq_some_iff.mp taken
    have inside := taken_le_of_decode decoded
    rw [(size_eq_of_decode decoded).1, isPoint] at inside ⊢
    exact ⟨inside, rfl⟩
  · exact fun rest waits => (next_eq_none_iff.mp waits).2
  · intro error rest refused
    obtain ⟨decoded, same⟩ := next_eq_error_iff.mp refused
    exact ⟨same, insist_of_error decoded⟩

end Codec

end EventTransport
