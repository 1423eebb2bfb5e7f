import EventTransport.Channel.Reading
import EventTransport.Proofs.Frame.Slicing

/-!
Contract: a read loop among the frames of one buffer.

Owns:
- `Channel.decodeTurns`, the turns of a read loop as long as it takes frames;
- `Channel.handedOn`, the channel once some events have gone to the bus;
- that the loop is over after one turn for each frame and one more, with all events on the bus.

Does not own: reading, and what becomes of the events.
-/

namespace EventTransport

namespace Channel

variable {H : Type}

/-- So many turns of the read loop, as long as it takes frames from its buffer. -/
def decodeTurns : Nat → Channel H → Channel H × List Warning
  | 0, channel => (channel, [])
  | count + 1, channel =>
    match channel.reader with
    | .decoding buffer =>
      let now := channel.decodeTurn buffer
      let later := now.1.decodeTurns count
      (later.1, now.2 ++ later.2)
    | _ => (channel, [])

/-- Events put on the bus, their dispatches submitted, and the read loop come to a buffer. -/
def handedOn (channel : Channel H) (events : List Event) (buffer : ReadBuffer) : Channel H :=
  { channel with
    bus := { channel.bus with queue := channel.bus.queue ++ events }
    operations :=
      if channel.accepting then channel.operations ++ events.map fun _ => .dispatch
      else channel.operations
    reader := .decoding buffer }

section

variable {channel : Channel H} {buffer : ReadBuffer}

theorem decodeTurns_of_decoding (decoding : channel.reader = .decoding buffer) (count : Nat) :
    channel.decodeTurns (count + 1) =
      (((channel.decodeTurn buffer).1.decodeTurns count).1,
        (channel.decodeTurn buffer).2 ++ ((channel.decodeTurn buffer).1.decodeTurns count).2) := by
  rw [decodeTurns, decoding]

/-- The loop is over once it takes no frames. -/
theorem decodeTurns_of_over (isOver : ∀ buffer, channel.reader ≠ .decoding buffer) (count : Nat) :
    channel.decodeTurns count = (channel, []) := by
  cases count with
  | zero => rfl
  | succ count =>
      unfold decodeTurns
      split
      · rename_i buffer decoding
        exact absurd decoding (isOver buffer)
      · rfl

/-- Turns are taken one after the other. -/
theorem decodeTurns_add (front back : Nat) (channel : Channel H) :
    channel.decodeTurns (front + back) =
      (((channel.decodeTurns front).1.decodeTurns back).1,
        (channel.decodeTurns front).2 ++ ((channel.decodeTurns front).1.decodeTurns back).2) := by
  induction front generalizing channel with
  | zero => rw [Nat.zero_add]; rfl
  | succ front inductionHypothesis =>
      rw [Nat.succ_add]
      by_cases decoding : ∃ buffer, channel.reader = .decoding buffer
      · obtain ⟨buffer, decoding⟩ := decoding
        rw [decodeTurns_of_decoding decoding, decodeTurns_of_decoding decoding, inductionHypothesis,
          List.append_assoc]
      · have isOver : ∀ buffer, channel.reader ≠ .decoding buffer := not_exists.mp decoding
        rw [decodeTurns_of_over isOver, decodeTurns_of_over isOver, decodeTurns_of_over isOver]
        rfl

end

/-! ### What goes to the bus -/

theorem handedOn_nil {channel : Channel H} {buffer : ReadBuffer}
    (decoding : channel.reader = .decoding buffer) : channel.handedOn [] buffer = channel := by
  obtain ⟨config, codec, bus, state, cancelled, operations, accepting, reader⟩ := channel
  cases decoding
  simp [handedOn]

theorem deliver_eq_handedOn (channel : Channel H) (buffer : ReadBuffer) (event : Event) :
    { channel with reader := .decoding buffer }.deliver event =
    channel.handedOn [event] buffer := by
  unfold deliver post handedOn
  cases channel.accepting <;> rfl

/-- Events may be handed on in two parts. -/
theorem handedOn_handedOn (channel : Channel H) (first second : List Event)
    (middle buffer : ReadBuffer) :
    (channel.handedOn first middle).handedOn second buffer =
      channel.handedOn (first ++ second) buffer := by
  unfold handedOn
  cases channel.accepting <;> simp

/-! ### The loop -/

section

variable {channel : Channel H} {buffer : ReadBuffer}

/-- One turn for each frame hands on the event of that frame, and does nothing else. -/
theorem decodeTurns_of_slices {taken : List (Bytes × Event)} {rest : Bytes}
    (decoding : channel.reader = .decoding buffer)
    (slices : channel.codec.Slices buffer.held taken rest) :
    ∃ now, now.held = rest ∧
      channel.decodeTurns taken.length = (channel.handedOn (taken.map Prod.snd) now, []) := by
  induction taken generalizing channel buffer with
  | nil => exact ⟨buffer, slices.whole.symm, congrArg (·, []) (handedOn_nil decoding).symm⟩
  | cons entry taken inductionHypothesis =>
      have turn : channel.decodeTurn buffer =
          (channel.handedOn [entry.2] (buffer.drop entry.1.length), []) := by
        unfold decodeTurn
        rw [slices.decode_eq]
        exact congrArg (·, []) (channel.deliver_eq_handedOn _ entry.2)
      have stillDecoding : (channel.handedOn [entry.2] (buffer.drop entry.1.length)).reader =
          .decoding (buffer.drop entry.1.length) := rfl
      obtain ⟨now, held, turns⟩ := inductionHypothesis stillDecoding slices.tail
      refine ⟨now, held, ?_⟩
      rw [List.length_cons, decodeTurns_of_decoding decoding, turn, turns, handedOn_handedOn]
      rfl

/-- How the loop ends: it goes on to read if no whole frame is left, and otherwise it refuses what
is left and is over with that error. -/
inductive Emptied (codec : Codec) (endings : List Outcome) (rest : Bytes)
    (after : Channel H × List Warning) : Prop where
  | waits (buffer : ReadBuffer) (unfinished : codec.decode rest = .ok none)
      (reader : after.1.reader = .awaiting buffer) (held : buffer.held = rest)
      (same : after.1.endings = endings) (silent : after.2 = [])
  | fails (error : Error) (refused : codec.decode rest = .error error)
      (reader : after.1.reader = .ended) (ended : after.1.endings = endings ++ [.error error])
      (recorded : after.2 = [.invalidFrame error])

theorem Emptied.isOver {codec : Codec} {endings : List Outcome} {rest : Bytes}
    {after : Channel H × List Warning} (emptied : Emptied codec endings rest after)
    (buffer : ReadBuffer) : after.1.reader ≠ .decoding buffer := by
  intro decoding
  cases emptied with
  | waits _ _ reader => exact nomatch reader.symm.trans decoding
  | fails _ _ reader => exact nomatch reader.symm.trans decoding

/-- A turn that finds no frame is the last one, and the bus gets nothing. -/
theorem emptied_decodeTurn (channel : Channel H) (buffer : ReadBuffer)
    (last : ∀ event count, channel.codec.decode buffer.held ≠ .ok (some (event, count))) :
    Emptied channel.codec channel.endings buffer.held (channel.decodeTurn buffer) ∧
      (channel.decodeTurn buffer).1.bus = channel.bus := by
  unfold decodeTurn
  match decided : channel.codec.decode buffer.held with
  | .error error => exact ⟨.fails error decided rfl rfl rfl, rfl⟩
  | .ok none =>
      refine ⟨.waits (channel.makeRoom buffer) decided rfl ?_ rfl rfl, rfl⟩
      rw [makeRoom, ReadBuffer.held_reserveIfFull, ReadBuffer.held_reserve]
  | .ok (some (event, count)) => exact absurd decided (last event count)

/-- **A buffer is emptied in so many turns, and no byte is lost.** Whatever is in the buffer of a
read loop, it is cut into frames and the rest that a drain leaves, and there is at most one frame
for every fifteen bytes. Each frame decoded by itself gives its event, which knows the size of the
frame. In as many turns as there are frames the events go to the bus in that order, each in its turn
and nothing but these. In one turn more the loop is over: it waits for more bytes behind the rest if
that is an unfinished frame, and otherwise ends with the error for which the rest is refused. -/
theorem empties_in_turns (decoding : channel.reader = .decoding buffer) :
    let drained := channel.codec.drain buffer.held
    ∃ taken,
      channel.codec.Slices buffer.held taken drained.rest ∧ taken.map Prod.snd = drained.events ∧
      taken.length ≤ buffer.held.length / 15 ∧
      (∀ count ≤ taken.length, ∃ now,
        now.held = ((taken.drop count).map Prod.fst).flatten ++ drained.rest ∧
        channel.decodeTurns count =
          (channel.handedOn ((taken.take count).map Prod.snd) now, [])) ∧
      let last := channel.decodeTurns (taken.length + 1)
      Emptied channel.codec channel.endings drained.rest last ∧
      last.1.bus = { channel.bus with queue := channel.bus.queue ++ drained.events } ∧
      ∀ more, channel.decodeTurns (taken.length + 1 + more) = last := by
  intro drained
  obtain ⟨taken, slices, events⟩ := channel.codec.exists_slices buffer.held
  obtain ⟨now, held, turns⟩ := decodeTurns_of_slices decoding slices
  let front := channel.handedOn (taken.map Prod.snd) now
  have last : channel.decodeTurns (taken.length + 1) = front.decodeTurn now := by
    rw [decodeTurns_add, turns, decodeTurns_of_decoding (rfl : front.reader = .decoding now)]
    exact Prod.ext rfl (List.append_nil _)
  have nothing (event : Event) (count : Nat) :
      front.codec.decode now.held ≠ .ok (some (event, count)) := by
    rw [held]
    exact Codec.decode_rest_ne_event event count
  obtain ⟨emptied, bus⟩ := front.emptied_decodeTurn now nothing
  rw [held, ← last] at emptied
  refine ⟨taken, slices, events, slices.length_le, fun count early => ?_, emptied, ?_,
    fun more => ?_⟩
  · have untilThen := decodeTurns_of_slices decoding (slices.take count)
    rwa [List.length_take, Nat.min_eq_left early] at untilThen
  · rw [last, bus, ← events]
    rfl
  · rw [decodeTurns_add, decodeTurns_of_over emptied.isOver]
    exact Prod.ext rfl (List.append_nil _)

end

/-- Of two frames the second has a damaged footer: the first goes to the bus, and then the loop
ends. -/
theorem empties_in_turns_of_damaged :
    let damaged := (Frame.mk 6 1 0 []).bytes.dropLast ++ [0x0B]
    let buffer : ReadBuffer := { size := 64, held := (Frame.mk 5 1 0 footer).bytes ++ damaged }
    let channel : Channel Nat :=
      { config := {}, codec := Codec.default, reader := .decoding buffer }
    let last := channel.decodeTurns 2
    channel.reader = .decoding buffer ∧
      last.1.bus.queue.map Event.uid = [⟨5⟩] ∧
      last.2 = [.invalidFrame (.badFormat .misplacedFooter)] ∧
      (∃ taken, channel.codec.Slices buffer.held taken damaged ∧
        last.1.bus.queue = taken.map Prod.snd) ∧
      Emptied channel.codec channel.endings damaged last := by
  intro damaged buffer channel last
  have decoding : channel.reader = .decoding buffer := rfl
  obtain ⟨taken, slices, events, -, -, emptied, bus, -⟩ := empties_in_turns decoding
  have rest : (channel.codec.drain buffer.held).rest = damaged := by decide +kernel
  have one : (channel.codec.drain buffer.held).events.length = 1 := by decide +kernel
  have turns : taken.length + 1 = 2 := by
    have same : (taken.map Prod.snd).length = taken.length := List.length_map _
    rw [← same, events, one]
  rw [turns] at emptied bus
  rw [rest] at slices emptied
  have queue : last.1.bus.queue = taken.map Prod.snd := by rw [bus, ← events]; rfl
  exact ⟨decoding, by decide +kernel, by decide +kernel, ⟨taken, slices, queue⟩, emptied⟩

end Channel

end EventTransport
