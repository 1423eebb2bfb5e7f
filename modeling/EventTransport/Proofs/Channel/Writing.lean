import Mathlib.Data.List.Forall2
import EventTransport.Proofs.Channel.Session

/-!
Contract: which bytes a channel hands to its stream.

Owns:
- what a record tells of events sent and of bytes written;
- `Channel.Writes`, the invariant of every session: the bytes written are the frames of the first
  events sent and the front of one more frame, and as long as the strand serves writes the other
  events wait among its operations;
- the theorem on the bytes written.

Nothing is asked of handlers, of the queue of the bus, or of the stream.

Does not own: what the peer reads.
-/

namespace EventTransport

/-- The event that an operation writes. -/
def Operation.event? : Operation → Option Event
  | .dispatch => none
  | .write event => some event

namespace Channel

variable {H : Type}

/-- The events that wait to be written. -/
def outstanding (channel : Channel H) : List Event := channel.operations.filterMap Operation.event?

/-! ### What a record tells -/

namespace Made

/-- The event that was sent while the channel was not closed. -/
@[simp] def sent (made : Made H) : List Event :=
  match made.move with
  | .act (.send event) => if made.before.state = .closed then [] else [event]
  | _ => []

/-- The bytes that the stream took. -/
@[simp] def written (made : Made H) : Bytes :=
  match made.move, made.before.strand with
  | .wrote count, .writing _ bytes => bytes.take count
  | _, _ => []

/-- Whether the stream failed to take bytes. -/
@[simp] def isRefused (made : Made H) : Bool :=
  match made.move with
  | .refused _ => true
  | _ => false

/-- Whether the strand came to an event that cannot be framed. -/
@[simp] def isUnencodable (made : Made H) : Bool :=
  match made.move, made.before.strand, made.before.operations with
  | .strandTurn, .between .running, .write event :: _ =>
    !made.before.cancelled && !(made.before.codec.encode event).isOk
  | _, _, _ => false

end Made

/-- Whether the strand gave up on an event. -/
def Made.givesUp (made : Made H) : Bool := made.isRefused || made.isUnencodable

/-! ### The invariant -/

/-- What a strand may still do about writes. -/
inductive Phase where
  /-- Take the next one up, now or after the start. -/
  | serving
  /-- Write what is left of a frame. -/
  | writing (rest : Bytes)
  /-- Nothing, as it has left its operations or died. -/
  | retired

def phase : Strand H → Phase
  | .absent => .serving
  | .between .running => .serving
  | .between (.draining _) => .retired
  | .calling .running _ _ => .serving
  | .calling (.draining _) _ _ => .retired
  | .writing _ rest => .writing rest
  | .closing _ => .retired
  | .ended => .retired
  | .died => .retired

theorem phase_calling (stage : StrandStage) (event : Event) (handlers : List H) :
    phase (.calling stage event handlers) = phase (.between stage : Strand H) := by
  cases stage <;> rfl

/-- The bytes written, as the events sent and the phase of the strand tell. -/
inductive Writes (codec : Codec) (sent : List Event) (written : Bytes) (failed : Bool) :
    Phase → Bool → List Event → Prop where
  /-- Whole frames have been written, and the events that were not written wait. -/
  | whole {events waiting : List Event} {frames : List Bytes}
    (framed : List.Forall₂ (codec.encode · = .ok ·) events frames)
    (isSent : sent = events ++ waiting) (isWritten : written = frames.flatten) :
    Writes codec sent written failed .serving true waiting
  /-- One more frame is being written. -/
  | within {events waiting : List Event} {frames : List Bytes} {event : Event} {front rest : Bytes}
    (framed : List.Forall₂ (codec.encode · = .ok ·) events frames)
    (encoded : codec.encode event = .ok (front ++ rest))
    (isSent : sent = events ++ event :: waiting) (isWritten : written = frames.flatten ++ front) :
    Writes codec sent written failed (.writing rest) true waiting
  /-- Nothing will be written after whole frames. -/
  | settled {events waiting : List Event} {frames : List Bytes} {accepting : Bool}
    (framed : List.Forall₂ (codec.encode · = .ok ·) events frames)
    (areSent : events <+: sent) (isWritten : written = frames.flatten) :
    Writes codec sent written failed .retired accepting waiting
  /-- Nothing will be written after the front of a frame that the stream refused to take. -/
  | broken {events waiting : List Event} {frames : List Bytes} {accepting : Bool} {event : Event}
    {front rest : Bytes} (refused : failed = true)
    (framed : List.Forall₂ (codec.encode · = .ok ·) events frames)
    (encoded : codec.encode event = .ok (front ++ rest))
    (areSent : events ++ [event] <+: sent) (isWritten : written = frames.flatten ++ front) :
    Writes codec sent written failed .retired accepting waiting

namespace Writes

variable {codec : Codec} {sent waiting : List Event} {written rest : Bytes}
  {failed accepting : Bool}
  {phase : Phase}

/-- An event sent waits if the strand takes operations. -/
theorem send (writes : Writes codec sent written failed phase accepting waiting) (event : Event) :
    Writes codec (sent ++ [event]) written failed phase accepting
      (if accepting then waiting ++ [event] else waiting) := by
  cases writes with
  | whole framed isSent isWritten =>
      refine .whole framed ?_ isWritten
      rw [isSent, List.append_assoc]
      rfl
  | within framed encoded isSent isWritten =>
      refine .within framed encoded ?_ isWritten
      rw [isSent, List.append_assoc]
      rfl
  | settled framed areSent isWritten =>
      exact .settled framed (areSent.trans (List.prefix_append _ _)) isWritten
  | broken refused framed encoded areSent isWritten =>
      exact .broken refused framed encoded (areSent.trans (List.prefix_append _ _)) isWritten

/-- A strand that has retired leaves everything as it is, whatever becomes of its operations. -/
theorem stay (writes : Writes codec sent written failed .retired accepting waiting)
    (acceptingLater : Bool) (waitingLater : List Event) :
    Writes codec sent written failed .retired acceptingLater waitingLater := by
  cases writes with
  | settled framed areSent isWritten => exact .settled framed areSent isWritten
  | broken refused framed encoded areSent isWritten =>
      exact .broken refused framed encoded areSent isWritten

theorem retire (writes : Writes codec sent written failed .serving accepting waiting)
    (acceptingLater : Bool) (waitingLater : List Event) :
    Writes codec sent written failed .retired acceptingLater waitingLater := by
  cases writes with
  | whole framed isSent isWritten => exact .settled framed ⟨waiting, isSent.symm⟩ isWritten

/-- The next event that waits is taken up. -/
theorem takeUp {event : Event} {frame : Bytes} (encoded : codec.encode event = .ok frame)
    (writes : Writes codec sent written failed .serving accepting (event :: waiting)) :
    Writes codec sent written failed (.writing frame) accepting waiting := by
  cases writes with
  | whole framed isSent isWritten =>
      have nothingYet : codec.encode event = .ok ([] ++ frame) := encoded
      exact .within framed nothingYet isSent (isWritten.trans (List.append_nil _).symm)

theorem write (writes : Writes codec sent written failed (.writing rest) accepting waiting)
    (count : Nat) :
    Writes codec sent (written ++ rest.take count) failed (.writing (rest.drop count)) accepting
      waiting := by
  cases writes with
  | @within _ _ _ event front _ framed encoded isSent isWritten =>
      have further : codec.encode event = .ok (front ++ rest.take count ++ rest.drop count) := by
        rw [encoded, List.append_assoc, List.take_append_drop]
      refine .within framed further isSent ?_
      rw [isWritten, List.append_assoc]

/-- A frame has been written to its end. -/
theorem finish (writes : Writes codec sent written failed (.writing []) accepting waiting) :
    Writes codec sent written failed .serving accepting waiting := by
  cases writes with
  | within framed encoded isSent isWritten =>
      rw [List.append_nil] at encoded
      refine .whole (List.rel_append framed (.cons encoded .nil)) ?_ ?_
      · rw [isSent, List.append_assoc]
        rfl
      · rw [isWritten, List.flatten_append, List.flatten_singleton]

/-- The stream does not take what is left of a frame. -/
theorem breakOff (writes : Writes codec sent written failed (.writing rest) accepting waiting)
    (acceptingLater : Bool) (waitingLater : List Event) :
    Writes codec sent written true .retired acceptingLater waitingLater := by
  cases writes with
  | @within events _ _ event _ _ framed encoded isSent isWritten =>
      refine .broken rfl framed encoded ⟨waiting, ?_⟩ isWritten
      rw [isSent, List.append_assoc]
      rfl

/-- What has been written in all phases, and that a frame is unfinished at the end only if the
stream failed. -/
theorem exists_frames (writes : Writes codec sent written failed phase accepting waiting) :
    ∃ events frames front, events <+: sent ∧ List.Forall₂ (codec.encode · = .ok ·) events frames ∧
      written = frames.flatten ++ front ∧
      (front ≠ [] → ∃ event rest, events ++ [event] <+: sent ∧
        codec.encode event = .ok (front ++ rest)) ∧
      (phase = .retired → failed = false → front = []) := by
  cases writes with
  | @whole events _ frames framed isSent isWritten =>
      rw [← List.append_nil frames.flatten] at isWritten
      exact ⟨events, frames, [], ⟨waiting, isSent.symm⟩, framed, isWritten,
        fun impossible => absurd rfl impossible, fun _ _ => rfl⟩
  | @within events _ frames event front rest framed encoded isSent isWritten =>
      have further : events ++ [event] <+: sent := by
        refine ⟨waiting, ?_⟩
        rw [isSent, List.append_assoc]
        rfl
      exact ⟨events, frames, front, (List.prefix_append _ _).trans further, framed, isWritten,
        fun _ => ⟨event, rest, further, encoded⟩, fun impossible => nomatch impossible⟩
  | @settled events _ frames _ framed areSent isWritten =>
      rw [← List.append_nil frames.flatten] at isWritten
      exact ⟨events, frames, [], areSent, framed, isWritten,
        fun impossible => absurd rfl impossible, fun _ _ => rfl⟩
  | @broken events _ frames _ event front rest refused framed encoded areSent isWritten =>
      exact ⟨events, frames, front, (List.prefix_append _ _).trans areSent, framed, isWritten,
        fun _ => ⟨event, rest, areSent, encoded⟩,
        fun _ intact => absurd refused (Bool.eq_false_iff.mp intact)⟩

end Writes

/-- The invariant, of a channel. -/
def WritesOut (codec : Codec) (channel : Channel H) (sent : List Event) (written : Bytes)
    (failed : Bool) : Prop :=
  Writes codec sent written failed (phase channel.strand) channel.accepting channel.outstanding

theorem outstanding_post (channel : Channel H) (operation : Operation) :
    (channel.post operation).outstanding =
      if channel.accepting then channel.outstanding ++ operation.event?.toList
      else channel.outstanding := by
  unfold post
  split
  · show (channel.operations ++ [operation]).filterMap Operation.event? = _
    rw [List.filterMap_append]
    cases operation <;> rfl
  · rfl

@[simp] theorem accepting_post (channel : Channel H) (operation : Operation) :
    (channel.post operation).accepting = channel.accepting := by
  unfold post
  split <;> rfl

namespace WritesOut

variable {codec : Codec} {channel : Channel H} {sent : List Event} {written : Bytes} {failed : Bool}

theorem fresh (config : Config) (codec : Codec) :
    WritesOut codec ({ config := config, codec := codec } : Channel H) [] [] false :=
  .whole .nil rfl rfl

/-! ### What applications do -/

theorem start (writes : WritesOut codec channel sent written failed)
    (lowLatency : Except StreamFault Unit) :
    WritesOut codec (channel.start lowLatency).channel sent written failed := by
  unfold Channel.start
  split
  · exact writes
  · exact writes
  · rename_i starts
    unfold WritesOut at writes
    rw [absent_of_starts starts] at writes
    exact writes

theorem post (writes : WritesOut codec channel sent written failed) (event : Event) :
    WritesOut codec (channel.post (.write event)) (sent ++ [event]) written failed := by
  have sends := Writes.send writes event
  unfold WritesOut
  rw [outstanding_post, accepting_post, strand_post]
  exact sends

theorem deliver (writes : WritesOut codec channel sent written failed) (event : Event) :
    WritesOut codec (channel.deliver event) sent written failed := by
  unfold WritesOut Channel.deliver
  have none : Operation.dispatch.event?.toList = [] := rfl
  rw [outstanding_post, accepting_post, strand_post, none, List.append_nil, ite_self]
  exact writes

/-- Something of which nothing is told. -/
theorem aside {after : Channel H} (writes : WritesOut codec after sent written failed) :
    WritesOut codec after (sent ++ []) (written ++ []) (failed || false) := by
  rw [List.append_nil, List.append_nil, Bool.or_false]
  exact writes

theorem perform (writes : WritesOut codec channel sent written failed) (act : Act H) :
    let made : Made H := ⟨channel, .act act, channel.perform act⟩
    WritesOut codec (channel.perform act) (sent ++ made.sent) (written ++ [])
      (failed || false) := by
  intro made
  cases act with
  | send event =>
      show WritesOut codec (channel.send event) _ _ _
      rw [List.append_nil, Bool.or_false]
      unfold Channel.send
      by_cases closed : channel.state = .closed
      · have ignored : made.sent = [] := if_pos closed
        rw [if_pos closed, ignored, List.append_nil]
        exact writes
      · have sends : made.sent = [event] := if_neg closed
        rw [if_neg closed, sends]
        exact writes.post event
  | dispatch =>
      apply aside
      simp only [Channel.perform]
      split <;> exact writes
  | start lowLatency => exact aside (writes.start lowLatency)
  | deliver event => exact aside (writes.deliver event)
  | stop => exact aside writes
  | bind key handler => exact aside writes
  | unbind key => exact aside writes
  | reset => exact aside writes

/-! ### What the tasks do -/

/-- A strand that goes on to something that is no write. -/
theorem goOn (writes : WritesOut codec channel sent written failed) {strand : Strand H}
    (samePhase : phase strand = phase channel.strand) :
    Writes codec sent written failed (phase strand) channel.accepting channel.outstanding := by
  rw [samePhase]
  exact writes

theorem readerTurn (writes : WritesOut codec channel sent written failed) {after : Channel H}
    (moves : Moves channel .readerTurn after) : WritesOut codec after sent written failed := by
  cases moves with
  | starved reader greedy => exact writes
  | invalid reader decoded => exact writes
  | unfinished reader decoded => exact writes
  | @decoded buffer event count reader decoded =>
      have moved : WritesOut codec { channel with reader := .decoding (buffer.drop count) } sent
        written failed := writes
      exact moved.deliver event

theorem strandTurn (writes : WritesOut codec channel sent written failed) {after : Channel H}
    (framing : channel.codec = codec) (moves : Moves channel .strandTurn after) :
    WritesOut codec after sent written failed := by
  have before := writes
  unfold WritesOut outstanding at before
  cases moves with
  | left strand cancelled =>
      rw [strand] at before
      exact before.retire false _
  | @dispatched stage later event handlers bus strand untold operations taken =>
      rw [strand, operations] at before
      show Writes codec sent written failed (phase (.calling stage event handlers)) _ _
      rw [phase_calling]
      exact before
  | foundNothing strand untold operations nothing =>
      rw [strand, operations] at before
      exact before
  | encoded strand untold operations framed =>
      rw [strand, operations] at before
      rw [framing] at framed
      exact before.takeUp framed
  | unencodable strand untold operations framed =>
      -- The event is dropped before a byte of it is written.
      rw [strand] at before
      exact before.retire false _
  | discarded strand operations =>
      rw [strand] at before
      show Writes codec sent written failed (phase channel.strand) _ _
      rw [strand]
      exact before.stay _ _
  | emptied strand operations =>
      rw [strand] at before
      exact before
  | @handled stage event strand =>
      rw [strand, phase_calling] at before
      exact before
  | flushed strand =>
      rw [strand] at before
      exact before.finish

/-- Every move keeps the invariant, if it is a handler that dies when one does. -/
theorem moves (writes : WritesOut codec channel sent written failed) {move : Move H}
    {after : Channel H} (framing : channel.codec = codec) (moves : Moves channel move after)
    (atWork : move = .died → ∃ stage event handlers,
      channel.strand = .calling stage event handlers) :
    let made : Made H := ⟨channel, move, after⟩
    WritesOut codec after (sent ++ made.sent) (written ++ made.written)
      (failed || made.isRefused) := by
  have before := writes
  unfold WritesOut at before
  intro made
  cases move with
  | act act =>
      cases moves
      exact writes.perform act
  | joined =>
      cases moves
      apply aside
      unfold Channel.join
      split <;> exact writes
  | readerTurn => exact aside (writes.readerTurn moves)
  | received more =>
      cases moves
      exact aside writes
  | finished =>
      cases moves
      exact aside writes
  | failed fault =>
      cases moves
      exact aside writes
  | told =>
      cases moves
      exact aside writes
  | strandTurn => exact aside (writes.strandTurn framing moves)
  | call =>
      cases moves with
      | @called stage event handler handlers strand =>
          rw [strand, phase_calling] at before
          apply aside
          show Writes codec sent written failed (phase (.calling stage event handlers)) _ _
          rw [phase_calling]
          exact before
  | returned =>
      cases moves
      exact aside writes
  | died =>
      cases moves
      obtain ⟨stage, event, handlers, strand⟩ := atWork rfl
      rw [strand] at before
      apply aside
      -- The operations are dropped with the strand; a strand that serves writes has to retire
      -- first.
      cases stage with
      | running => exact before.retire false []
      | draining outcome => exact before.stay false []
  | wrote count =>
      cases moves with
      | @wrote uid bytes _ strand some fits =>
          rw [strand] at before
          have taken : made.written = bytes.take count := by simp [made, strand]
          rw [taken]
          show WritesOut codec _ (sent ++ []) _ (failed || false)
          rw [List.append_nil, Bool.or_false]
          exact before.write count
  | refused fault =>
      cases moves with
      | refused strand _ =>
          rw [strand] at before
          show WritesOut codec _ (sent ++ []) (written ++ []) (failed || true)
          rw [List.append_nil, List.append_nil, Bool.or_true]
          exact before.breakOff false _
  | shut =>
      cases moves with
      | shut strand =>
          rw [strand] at before
          exact aside before

end WritesOut

/-! ### Strands that have retired -/

theorem retired_of_isOver {strand : Strand H} (isOver : strand.isOver = true) :
    phase strand = .retired := by
  cases strand with
  | ended => rfl
  | died => rfl
  | _ => cases isOver

theorem written_of_retired {made : Made H} (retired : phase made.before.strand = .retired) :
    made.written = [] := by
  unfold Made.written
  split
  · rename_i strand
    rw [strand] at retired
    cases retired
  · rfl

theorem retired_of_moves {channel after : Channel H} {move : Move H}
    (moves : Moves channel move after) (retired : phase channel.strand = .retired) :
    phase after.strand = .retired := by
  have present : channel.strand ≠ .absent := by
    intro absent
    rw [absent] at retired
    cases retired
  by_cases aside : move.isOfStrand = false
  · rw [moves.strand_eq aside present]
    exact retired
  · cases moves with
    | left strand cancelled => rfl
    | dispatched strand untold operations taken =>
        rw [strand] at retired
        rw [phase_calling]
        exact retired
    | foundNothing strand untold operations nothing =>
        rw [strand] at retired
        exact retired
    | encoded strand untold operations framed =>
        rw [strand] at retired
        cases retired
    | unencodable => rfl
    | discarded strand operations => exact retired
    | emptied => rfl
    | handled strand =>
        rw [strand, phase_calling] at retired
        exact retired
    | flushed strand =>
        rw [strand] at retired
        cases retired
    | called strand =>
        rw [strand, phase_calling] at retired
        rw [phase_calling]
        exact retired
    | died => rfl
    | wrote strand some fits =>
        rw [strand] at retired
        cases retired
    | refused => rfl
    | shut => rfl
    | _ => exact absurd rfl aside

/-- A strand that gives up on an event writes no other. -/
theorem retired_of_givesUp {channel after : Channel H} {move : Move H}
    (moves : Moves channel move after) (givesUp : (Made.mk channel move after).givesUp = true) :
    phase after.strand = .retired := by
  cases moves with
  | refused strand fault => rfl
  | unencodable strand untold operations framed => rfl
  | encoded strand untold operations framed =>
      simp [Made.givesUp, strand, operations, framed, Except.isOk, Except.toBool] at givesUp
  | left strand cancelled => rfl
  | dispatched strand untold operations taken => simp [Made.givesUp, operations] at givesUp
  | foundNothing strand untold operations nothing => simp [Made.givesUp, operations] at givesUp
  | discarded strand operations => simp [Made.givesUp, strand] at givesUp
  | emptied strand operations => rfl
  | handled strand => simp [Made.givesUp, strand] at givesUp
  | flushed strand => simp [Made.givesUp, strand] at givesUp
  | _ => cases givesUp

end Channel

namespace Session

open Channel

variable {H : Type} {codec : Codec}

/-- The events sent while the channel was not closed. -/
def sent (session : Session H) : List Event := session.past.flatMap Made.sent

/-- The bytes that the stream took. -/
def bytesWritten (session : Session H) : Bytes := session.past.flatMap Made.written

/-- Whether the stream failed to take bytes. -/
def writeRefused (session : Session H) : Bool := session.past.any Made.isRefused

/-- The invariant, of the record of a session. -/
structure WritesOut (codec : Codec) (session : Session H) : Prop where
  framing : session.channel.codec = codec
  attends : session.Attends
  writes : Channel.WritesOut codec session.channel session.sent session.bytesWritten
    session.writeRefused
  silent : session.past.Pairwise fun earlier later => earlier.givesUp = true → later.written = []
  retired : session.past.any Made.givesUp = true → phase session.channel.strand = .retired

theorem WritesOut.step {session after : Session H} {move : Move H}
    (before : session.WritesOut codec) (stepped : session.step move = some after) :
    after.WritesOut codec := by
  obtain ⟨moves, recorded⟩ := moves_of_step stepped
  refine ⟨moves.codec_eq.trans before.framing, before.attends.step stepped, ?_, ?_, ?_⟩
  · have next := before.writes.moves before.framing moves fun died =>
      before.attends.of_died (died ▸ stepped)
    unfold sent bytesWritten writeRefused
    rw [recorded, List.flatMap_append, List.flatMap_append, List.flatMap_singleton,
      List.flatMap_singleton, List.any_append, List.any_cons, List.any_nil, Bool.or_false]
    exact next
  · rw [recorded, List.pairwise_append]
    refine ⟨before.silent, List.pairwise_singleton _ _, ?_⟩
    intro earlier member later isLast givesUp
    cases List.mem_singleton.mp isLast
    exact written_of_retired (before.retired (List.any_eq_true.mpr ⟨earlier, member, givesUp⟩))
  · rw [recorded, List.any_append, List.any_cons, List.any_nil, Bool.or_false, Bool.or_eq_true]
    rintro (earlier | now)
    · exact retired_of_moves moves (before.retired earlier)
    · exact retired_of_givesUp moves now

theorem WritesOut.fresh (config : Config) (codec : Codec) :
    (Session.fresh config codec : Session H).WritesOut codec where
  framing := rfl
  attends := fun impossible => nomatch impossible
  writes := Channel.WritesOut.fresh config codec
  silent := .nil
  retired := fun impossible => nomatch impossible

/-! ### The bytes on the wire -/

/-- **The bytes written are the frames of the first events sent, in order, and the front of the
frame of the next one.** So it is at all times, whatever is done to the channel. Once the strand is
over, no frame is left unfinished unless the stream refused it; and after an event that the strand
gives up on, since it has no frame or since the stream refused it, no more bytes are written. -/
theorem writes_as_sent (config : Config) (codec : Codec) {moves : List (Move H)}
    {session : Session H} (ran : (fresh config codec).run moves = some session) :
    (∃ events frames front,
      events <+: session.sent ∧ List.Forall₂ (codec.encode · = .ok ·) events frames ∧
      session.bytesWritten = frames.flatten ++ front ∧
      (front ≠ [] → ∃ event rest, events ++ [event] <+: session.sent ∧
        codec.encode event = .ok (front ++ rest)) ∧
      (session.channel.strand.isOver = true → session.writeRefused = false → front = [])) ∧
    session.past.Pairwise fun earlier later => earlier.givesUp = true → later.written = [] := by
  have holds : session.WritesOut codec := run_maintains WritesOut.step (.fresh config codec) ran
  refine ⟨?_, holds.silent⟩
  obtain ⟨events, frames, front, areSent, framed, isWritten, begun, finished⟩ :=
    holds.writes.exists_frames
  exact ⟨events, frames, front, areSent, framed, isWritten, begun,
    fun isOver => finished (retired_of_isOver isOver)⟩

/-- Events are sent before the start, during a write and by a handler. The one of the handler
carries both kinds of body and has no frame; what was sent before it is written, and one sent later
is ignored. -/
theorem writes_as_sent_of_handler :
    let first : Event := { uid := ⟨1⟩ }
    let second : Event := { uid := ⟨2⟩, options := Options.noFormat, payload := [7] }
    let third : Event := { uid := ⟨3⟩, payload := [9] }
    let moves : List (Move Nat) :=
      [.act (.send first), .act (.bind .all 7), .act (.start (.ok ())),
        .received (Frame.mk 9 0 0 []).bytes, .readerTurn, .readerTurn,
        .strandTurn, .wrote 4, .act (.send second), .wrote 11, .strandTurn,
        .strandTurn, .call, .act (.send third), .returned, .strandTurn,
        .strandTurn, .wrote 16, .strandTurn, .strandTurn,
        .act (.send first), .strandTurn, .shut]
    ∃ session, (fresh {} .default).run moves = some session ∧
      session.sent = [first, second, third] ∧
      session.bytesWritten = (Frame.mk 1 0 0 []).bytes ++ (Frame.mk 2 1 0 [7]).bytes ∧
      ∃ events frames, events <+: [first, second, third] ∧
        List.Forall₂ (Codec.default.encode · = .ok ·) events frames ∧
        session.bytesWritten = frames.flatten := by
  intro first second third moves
  have possible : ((fresh {} .default).run moves).isSome = true := by decide +kernel
  obtain ⟨session, ran⟩ := Option.isSome_iff_exists.mp possible
  obtain ⟨⟨events, frames, front, areSent, framed, isWritten, _, finished⟩, _⟩ :=
    writes_as_sent {} .default ran
  have isOver := of_run_all ran (fun session => session.channel.strand.isOver = true)
    (by decide +kernel)
  have intact := of_run_all ran (fun session => session.writeRefused = false) (by decide +kernel)
  have sent := of_run_all ran (fun session => session.sent = [first, second, third])
    (by decide +kernel)
  rw [finished isOver intact, List.append_nil] at isWritten
  rw [sent] at areSent
  refine ⟨session, ran, sent, ?_, events, frames, areSent, framed, isWritten⟩
  exact of_run_all ran (fun session => session.bytesWritten = _) (by decide +kernel)

end Session

end EventTransport
