import EventTransport.Frame.Drain

/-!
Contract: a stream read in pieces gives what it gives when it is read at once.

Owns:
- stability: what has been decided about the front of a buffer is not changed by bytes behind it;
- induction along a drain, and the drain of a buffer to which bytes are appended;
- independence of the cuts: events and verdict depend on the bytes of a stream alone.

Does not own: what a single frame means.
-/

namespace EventTransport

/-! ### Stability -/

namespace Frame

/-- The decisions on a buffer that holds a whole header. -/
theorem read_header (limit : Nat) (uid options feedback first second third fourth : UInt8)
    (rest : Bytes) :
    read limit (uid :: options :: feedback :: first :: second :: third :: fourth :: rest) =
      let length := Bytes.wordValue first second third fourth
      if limit < length then .error (.frameTooLarge length limit)
      else if rest.length < length + trailerLength then .ok none
      else
        match checkTrailer (rest.take length) ((rest.drop length).take trailerLength) with
        | .error error => .error error
        | .ok () => .ok (some ⟨uid, options, feedback, rest.take length⟩) := rfl

theorem read_append {limit : Nat} {buffer : Bytes} (more : Bytes)
    (decided : read limit buffer ≠ .ok none) :
    read limit (buffer ++ more) = read limit buffer := by
  match buffer with
  | uid :: options :: feedback :: first :: second :: third :: fourth :: rest =>
      rw [read_header] at decided
      simp only [List.cons_append]
      rw [read_header, read_header]
      generalize Bytes.wordValue first second third fourth = length at decided ⊢
      by_cases tooLarge : limit < length
      · simp only [tooLarge, if_true]
      · simp only [tooLarge, if_false] at decided ⊢
        have complete : ¬ rest.length < length + trailerLength := by
          intro short
          rw [if_pos short] at decided
          exact decided rfl
        have stillComplete : ¬ (rest ++ more).length < length + trailerLength := by
          rw [List.length_append]
          omega
        rw [if_neg complete, if_neg stillComplete,
          List.take_append_of_le_length (by omega),
          List.drop_append_of_le_length (by omega),
          List.take_append_of_le_length (by rw [List.length_drop]; omega)]
  | [] | [_] | [_, _] | [_, _, _] | [_, _, _, _] | [_, _, _, _, _] | [_, _, _, _, _, _] =>
      exact absurd rfl decided

end Frame

namespace Codec

/-- Bytes behind a frame that has been decoded or refused change nothing about it. -/
theorem decode_append {codec : Codec} {buffer : Bytes} (more : Bytes)
    (decided : codec.decode buffer ≠ .ok none) :
    codec.decode (buffer ++ more) = codec.decode buffer := by
  have framed : Frame.read codec.limit buffer ≠ .ok none := by
    intro incomplete
    apply decided
    unfold decode
    rw [incomplete]
  unfold decode
  rw [Frame.read_append more framed]

theorem decode_nil (codec : Codec) : codec.decode [] = .ok none := rfl

/-! ### Draining -/

section Drain

variable {codec : Codec} {buffer : Bytes}

theorem drain_of_error {error : Error} (refused : codec.decode buffer = .error error) :
    codec.drain buffer = ⟨[], some error, buffer⟩ := by
  rw [drain_eq, refused]

theorem drain_of_waiting (waiting : codec.decode buffer = .ok none) :
    codec.drain buffer = ⟨[], none, buffer⟩ := by
  rw [drain_eq, waiting]

theorem drain_of_event {event : Event} {count : Nat}
    (decoded : codec.decode buffer = .ok (some (event, count))) :
    codec.drain buffer =
      { codec.drain (buffer.drop count) with
        events := event :: (codec.drain (buffer.drop count)).events } := by
  rw [drain_eq, decoded]

end Drain

/-- A drain is the decoder asked until it has nothing to give or refuses a frame. -/
theorem drain_eq_next (codec : Codec) (buffer : Bytes) :
    codec.drain buffer =
      match codec.next buffer with
      | (.error error, rest) => ⟨[], some error, rest⟩
      | (.ok none, rest) => ⟨[], none, rest⟩
      | (.ok (some event), rest) =>
        { codec.drain rest with events := event :: (codec.drain rest).events } := by
  rw [drain_eq]
  unfold next
  match codec.decode buffer with
  | .error _ => rfl
  | .ok none => rfl
  | .ok (some _) => rfl

/-- Induction along a drain: over a refused frame, an unfinished one, and one that is taken. -/
@[elab_as_elim]
theorem drain_induct (codec : Codec) {motive : Bytes → Prop}
    (refused : ∀ buffer error, codec.decode buffer = .error error → motive buffer)
    (waiting : ∀ buffer, codec.decode buffer = .ok none → motive buffer)
    (taken : ∀ buffer event count, codec.decode buffer = .ok (some (event, count)) →
      motive (buffer.drop count) → motive buffer)
    (buffer : Bytes) : motive buffer := by
  -- A taken frame shortens the buffer, by fifteen bytes at least.
  induction sized : buffer.length using Nat.strongRecOn generalizing buffer with
  | ind length inductionHypothesis =>
      match decoded : codec.decode buffer with
      | .error error => exact refused buffer error decoded
      | .ok none => exact waiting buffer decoded
      | .ok (some (event, count)) =>
          have least := fifteen_le_of_decode decoded
          have most := taken_le_of_decode decoded
          have shorter : (buffer.drop count).length < length := by
            rw [List.length_drop]
            omega
          exact taken buffer event count decoded (inductionHypothesis _ shorter _ rfl)

/-- Without an error a drain leaves an unfinished frame, or nothing. -/
theorem decode_rest_drain {codec : Codec} {buffer : Bytes}
    (unbroken : (codec.drain buffer).fault = none) :
    codec.decode (codec.drain buffer).rest = .ok none := by
  induction buffer using codec.drain_induct with
  | refused buffer error decoded =>
      rw [drain_of_error decoded] at unbroken
      cases unbroken
  | waiting buffer decoded =>
      rw [drain_of_waiting decoded]
      exact decoded
  | taken buffer event count decoded inductionHypothesis =>
      rw [drain_of_event decoded] at unbroken ⊢
      exact inductionHypothesis unbroken

/-- A drain taken up again once more bytes have come. An error is final. -/
def Drained.resume (codec : Codec) (drained : Drained) (more : Bytes) : Drained :=
  match drained.fault with
  | some error => ⟨drained.events, some error, drained.rest ++ more⟩
  | none =>
    let later := codec.drain (drained.rest ++ more)
    { later with events := drained.events ++ later.events }

theorem drain_append (codec : Codec) (front back : Bytes) :
    codec.drain (front ++ back) = (codec.drain front).resume codec back := by
  induction front using codec.drain_induct with
  | refused front error decoded =>
      have same := decode_append back (by rw [decoded]; intro impossible; cases impossible)
      rw [drain_of_error decoded, drain_of_error (same.trans decoded)]
      rfl
  | waiting front decoded =>
      rw [drain_of_waiting decoded]
      rfl
  | taken front event count decoded inductionHypothesis =>
      have same := decode_append back (by rw [decoded]; intro impossible; cases impossible)
      have inside := taken_le_of_decode decoded
      rw [drain_of_event (same.trans decoded), List.drop_append_of_le_length inside,
        inductionHypothesis, drain_of_event decoded]
      unfold Drained.resume
      cases (codec.drain (front.drop count)).fault with
      | none => rfl
      | some error => rfl

/-! ### Independence of the cuts -/

/-- The same events and the same verdict, and while no error has come the same unfinished bytes. -/
structure Drained.Agrees (left right : Drained) : Prop where
  events : left.events = right.events
  fault : left.fault = right.fault
  rest : left.fault = none → left.rest = right.rest

namespace Drained.Agrees

theorem refl (drained : Drained) : drained.Agrees drained := ⟨rfl, rfl, fun _ => rfl⟩

theorem symm {left right : Drained} (agree : left.Agrees right) : right.Agrees left :=
  ⟨agree.events.symm, agree.fault.symm,
    fun unbroken => (agree.rest (agree.fault.trans unbroken)).symm⟩

theorem trans {first second third : Drained} (front : first.Agrees second)
    (back : second.Agrees third) : first.Agrees third :=
  ⟨front.events.trans back.events, front.fault.trans back.fault,
    fun unbroken => (front.rest unbroken).trans (back.rest (front.fault.symm.trans unbroken))⟩

end Drained.Agrees

theorem feed_cons (codec : Codec) (start chunk : Bytes) (chunks : List Bytes) :
    codec.feed start (chunk :: chunks) =
      match (codec.drain (start ++ chunk)).fault with
      | some _ => codec.drain (start ++ chunk)
      | none =>
        let later := codec.feed (codec.drain (start ++ chunk)).rest chunks
        { later with events := (codec.drain (start ++ chunk)).events ++ later.events } := rfl

/-- Chunks put behind an unfinished frame give what one drain of all the bytes gives. -/
theorem feed_agrees_drain {codec : Codec} {start : Bytes}
    (waiting : codec.decode start = .ok none) (chunks : List Bytes) :
    (codec.feed start chunks).Agrees (codec.drain (start ++ chunks.flatten)) := by
  induction chunks generalizing start with
  | nil =>
      rw [List.flatten_nil, List.append_nil, drain_of_waiting waiting]
      exact .refl _
  | cons chunk chunks inductionHypothesis =>
      rw [List.flatten_cons, ← List.append_assoc, drain_append, feed_cons]
      unfold Drained.resume
      cases verdict : (codec.drain (start ++ chunk)).fault with
      | some error =>
          -- The rests differ here: the chunks behind the error have not been appended.
          refine ⟨rfl, verdict, fun unbroken => ?_⟩
          rw [verdict] at unbroken
          cases unbroken
      | none =>
          have later := inductionHypothesis (decode_rest_drain verdict)
          exact
            { events := congrArg ((codec.drain (start ++ chunk)).events ++ ·) later.events
              fault := later.fault
              rest := later.rest }

/-- **Events and verdict do not depend on how a stream is cut into chunks**, and neither do the
unfinished bytes while no error has come. -/
theorem feed_agrees_of_flatten_eq (codec : Codec) {stream : Bytes} {left right : List Bytes}
    (leftCuts : left.flatten = stream) (rightCuts : right.flatten = stream) :
    (codec.feed [] left).Agrees (codec.feed [] right) ∧
      (codec.feed [] left).Agrees (codec.feed [] [stream]) := by
  have whole (chunks : List Bytes) (cuts : chunks.flatten = stream) :
      (codec.feed [] chunks).Agrees (codec.drain stream) := by
    have agree := feed_agrees_drain codec.decode_nil chunks
    rwa [cuts] at agree
  have single : [stream].flatten = stream := by simp
  exact ⟨(whole left leftCuts).trans (whole right rightCuts).symm,
    (whole left leftCuts).trans (whole [stream] single).symm⟩

/-- A frame whose body is a footer, with two bytes of the next one: cut in its header, and byte by
byte. -/
theorem feed_agrees_of_cut_header :
    let stream := (Frame.mk 5 1 0 footer).bytes ++ [7, 1]
    let left := [stream.take 3, [], stream.drop 3]
    let right := stream.map fun byte => [byte]
    left.flatten = stream ∧ right.flatten = stream ∧
      ((default.feed [] left).Agrees (default.feed [] right) ∧
        (default.feed [] left).Agrees (default.feed [] [stream])) ∧
      (default.feed [] left).events.length = 1 ∧ (default.feed [] left).rest = [7, 1] := by
  refine ⟨by decide +kernel, by decide +kernel, ?_, by decide +kernel, by decide +kernel⟩
  exact feed_agrees_of_flatten_eq default (by decide +kernel) (by decide +kernel)

end Codec

end EventTransport
