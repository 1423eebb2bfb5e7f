import Mathlib.Data.List.TakeWhile
import EventTransport.Proofs.Channel.Delivery
import EventTransport.Proofs.Channel.Peers
import EventTransport.Proofs.Frame.RoundTrip

/-!
Contract: what two channels on one stream make of the events that one of them sends.

Owns:
- that a read loop which has ended has closed its channel, unless it could not have its buffer, and
  that one which waits has room to read into;
- the invariant of a pair, what a pair was made with, and pairs whose stream has no room;
- the theorem on the events that the far side dispatches.

Does not own: events that go through a compressor.
-/

namespace EventTransport

/-! ### Room to read into -/

theorem ReadBuffer.room_reserveIfFull_pos (buffer : ReadBuffer) {count : Nat} (some : 0 < count) :
    0 < (buffer.reserveIfFull count).room := by
  unfold reserveIfFull
  split
  · exact Nat.lt_of_lt_of_le some (le_room_reserve buffer count)
  · omega

namespace Channel

variable {H : Type} {channel after : Channel H}

theorem readSize_pos (channel : Channel H) : 0 < channel.readSize :=
  Nat.lt_of_lt_of_le Nat.one_pos (Nat.le_max_right _ _)

/-- A read loop does not end without closing its channel, unless it could not have its buffer, nor
does it wait without room. -/
structure Reads (channel : Channel H) : Prop where
  ended : channel.reader = .ended →
    channel.state = .closed ∨ greatestBuffer < channel.config.readBufferSize
  roomy : ∀ buffer, channel.reader = .awaiting buffer → 0 < buffer.room

namespace Reads

theorem of_ended (isEnded : channel.reader = .ended)
    (closed : channel.state = .closed ∨ greatestBuffer < channel.config.readBufferSize) :
    channel.Reads := by
  refine ⟨fun _ => closed, fun buffer awaiting => ?_⟩
  rw [isEnded] at awaiting
  cases awaiting

theorem of_awaiting {buffer : ReadBuffer} (awaits : channel.reader = .awaiting buffer)
    (roomy : 0 < buffer.room) : channel.Reads := by
  refine ⟨fun ended => ?_, fun other awaiting => ?_⟩
  · rw [awaits] at ended
    cases ended
  · rw [awaits] at awaiting
    cases awaiting
    exact roomy

theorem of_decoding {buffer : ReadBuffer} (decodes : channel.reader = .decoding buffer) :
    channel.Reads := by
  refine ⟨fun ended => ?_, fun other awaiting => ?_⟩
  · rw [decodes] at ended
    cases ended
  · rw [decodes] at awaiting
    cases awaiting

/-- Whatever leaves the read loop alone, and opens no channel. -/
theorem aside (reads : channel.Reads) (reader : after.reader = channel.reader)
    (config : after.config = channel.config)
    (final : channel.state = .closed → after.state = .closed) : after.Reads := by
  refine ⟨?_, ?_⟩
  · rw [reader, config]
    exact fun ended => (reads.ended ended).imp_left final
  · rw [reader]
    exact reads.roomy

theorem perform (reads : channel.Reads) (act : Act H) : (channel.perform act).Reads := by
  cases act with
  | start lowLatency =>
      show (channel.start lowLatency).channel.Reads
      unfold Channel.start
      split
      · exact reads
      · exact reads
      · exact .of_awaiting rfl channel.readSize_pos
  | send event =>
      show (channel.send event).Reads
      unfold Channel.send
      split
      · exact reads
      · exact reads.aside (reader_post _ _) (config_post _ _) (state_post _ _).trans
  | deliver event =>
      exact reads.aside (reader_post _ _) (config_post _ _) (state_deliver channel event).trans
  | dispatch =>
      simp only [Channel.perform]
      split <;> exact { reads with }
  | stop => exact reads.aside rfl rfl fun _ => rfl
  | bind key handler => exact { reads with }
  | unbind key => exact { reads with }
  | reset => exact { reads with }

/-- Every move keeps what can be told of a read loop. -/
theorem moves (reads : channel.Reads) {move : Move H} (moves : Moves channel move after) :
    after.Reads := by
  cases moves with
  | act act => exact reads.perform act
  | joined tasksOver =>
      unfold Channel.join
      split <;> exact { reads with }
  | starved reader greedy => exact .of_ended rfl (.inr greedy)
  | invalid reader decoded => exact .of_ended rfl (.inl rfl)
  | unfinished reader decoded =>
      exact .of_awaiting rfl (ReadBuffer.room_reserveIfFull_pos _ channel.readSize_pos)
  | decoded reader decoded => exact .of_decoding (reader_post _ _)
  | received reader some fits => exact .of_decoding rfl
  | finished reader => exact .of_ended rfl (.inl rfl)
  | failed reader fault => exact .of_ended rfl (.inl rfl)
  | told reader cancelled => exact .of_ended rfl (.inl rfl)
  | left strand cancelled => exact reads.aside rfl rfl fun _ => rfl
  | unencodable strand untold operations framed => exact reads.aside rfl rfl fun _ => rfl
  | refused strand fault => exact reads.aside rfl rfl fun _ => rfl
  | _ => exact { reads with }

end Reads

end Channel

/-! ### Drains of what was sent -/

namespace Codec

theorem isOk_of_framed {codec : Codec} {events : List Event} {frames : List Bytes}
    (framed : List.Forall₂ (codec.encode · = .ok ·) events frames) :
    ∀ event ∈ events, (codec.encode event).isOk = true := by
  induction framed with
  | nil => exact fun _ none => nomatch none
  | cons encoded _ inductionHypothesis =>
      refine List.forall_mem_cons.mpr ⟨?_, inductionHypothesis⟩
      rw [encoded]
      rfl

/-- The front of a stream drains into the first of its events. -/
theorem events_drain_isPrefix (codec : Codec) {front whole : Bytes} (isFront : front <+: whole) :
    (codec.drain front).events <+: (codec.drain whole).events := by
  obtain ⟨back, rfl⟩ := isFront
  rw [drain_append]
  unfold Drained.resume
  cases (codec.drain front).fault with
  | some error => exact List.prefix_refl _
  | none => exact List.prefix_append _ _

theorem isPrefix_of_restores {codec : Codec} {events all decoded restored : List Event}
    (front : events <+: all) (areDecoded : List.Forall₂ codec.Restores events decoded)
    (areRestored : List.Forall₂ codec.Restores all restored) : decoded <+: restored := by
  induction areDecoded generalizing all restored with
  | nil => exact List.nil_prefix
  | @cons event _ events _ restores _ inductionHypothesis =>
      obtain ⟨later, rfl⟩ := front
      cases areRestored with
      | cons restoresToo others =>
          rw [restores.unique restoresToo, List.prefix_cons_inj]
          exact inductionHypothesis (List.prefix_append _ _) others

theorem exists_restored_of_isOk {codec : Codec} {events : List Event}
    (accepted : ∀ event ∈ events, (codec.encode event).isOk = true) :
    ∃ restored, List.Forall₂ codec.Restores events restored := by
  induction events with
  | nil => exact ⟨[], .nil⟩
  | cons event events inductionHypothesis =>
      obtain ⟨headAccepted, tailAccepted⟩ := List.forall_mem_cons.mp accepted
      obtain ⟨restored, restores⟩ := inductionHypothesis tailAccepted
      cases encoded : codec.encode event with
      | error error =>
          rw [encoded] at headAccepted
          cases headAccepted
      | ok frame =>
          obtain ⟨first, firstRestores⟩ := exists_restored encoded
          exact ⟨first :: restored, .cons firstRestores restores⟩

end Codec

/-! ### Sessions -/

namespace Session

open Channel

variable {H : Type} {codec : Codec} {session after : Session H}

/-- What holds of every session that leaves the queue to the tasks, and in which no handler dies. -/
structure Sound (codec : Codec) (session : Session H) : Prop where
  delivers : session.Delivers codec
  writes : session.WritesOut codec
  reads : session.channel.Reads

theorem Sound.fresh (config : Config) (codec : Codec) :
    (Session.fresh config codec : Session H).Sound codec where
  delivers := Channel.Delivers.fresh config codec
  writes := WritesOut.fresh config codec
  reads := ⟨fun ended => (nomatch ended), fun _ awaiting => (nomatch awaiting)⟩

theorem Sound.step {move : Move H} (sound : session.Sound codec) (regular : move.isRegular = true)
    (stepped : session.step move = some after) : after.Sound codec where
  delivers := sound.delivers.step regular stepped
  writes := sound.writes.step stepped
  reads := sound.reads.moves (moves_of_step stepped).1

/-- What has been dispatched are the first events that can be decoded of the bytes read. -/
theorem Sound.dispatched_isPrefix_drain (sound : session.Sound codec) :
    session.dispatched.map Prod.fst <+: (codec.drain session.bytesRead).events :=
  (List.prefix_append _ _).trans sound.delivers.decodes.isPrefix

/-- The events sent before the first one that has no frame. -/
def encodable (codec : Codec) (session : Session H) : List Event :=
  session.sent.takeWhile fun event => (codec.encode event).isOk

/-- Everything written belongs to a stream of frames of encodable events. -/
theorem WritesOut.exists_stream (writes : session.WritesOut codec) :
    ∃ events frames, events <+: session.encodable codec ∧
      List.Forall₂ (codec.encode · = .ok ·) events frames ∧
      session.bytesWritten <+: frames.flatten := by
  have within {events : List Event} {frames : List Bytes} (areSent : events <+: session.sent)
      (framed : List.Forall₂ (codec.encode · = .ok ·) events frames) :
      events <+: session.encodable codec := by
    obtain ⟨later, isSent⟩ := areSent
    unfold encodable
    rw [← isSent, List.takeWhile_append_of_pos (Codec.isOk_of_framed framed)]
    exact List.prefix_append _ _
  obtain ⟨events, frames, front, areSent, framed, isWritten, begun, _⟩ :=
    writes.writes.exists_frames
  by_cases nothing : front = []
  · rw [nothing, List.append_nil] at isWritten
    exact ⟨events, frames, within areSent framed, framed, ⟨[], by rw [isWritten, List.append_nil]⟩⟩
  · obtain ⟨event, rest, further, encoded⟩ := begun nothing
    have allFramed : List.Forall₂ (codec.encode · = .ok ·) (events ++ [event])
        (frames ++ [front ++ rest]) := List.rel_append framed (.cons encoded .nil)
    refine ⟨_, _, within further allFramed, allFramed, rest, ?_⟩
    rw [isWritten, List.flatten_append, List.flatten_singleton, List.append_assoc]

/-- An open channel whose strand has nothing to do has no operation left. -/
theorem Sound.idle_of_rest (sound : session.Sound codec)
    (present : session.channel.strand.isPresent = true) (isOpen : session.channel.state ≠ .closed)
    (rest : session.channel.strandTurn = .rest) :
    session.channel.strand = .between .running ∧ session.channel.operations = [] := by
  unfold Channel.strandTurn at rest
  split at rest
  case h_1 strand =>
    rw [strand] at present
    cases present
  case h_2 strand =>
    refine ⟨strand, ?_⟩
    split at rest
    · cases rest
    · unfold Channel.runNext at rest
      split at rest
      · assumption
      · cases rest
      · cases rest
  case h_9 strand =>
    -- A strand that has ended left its operations before, and that closes the channel.
    have refuses := sound.delivers.left (by rw [strand]; rfl)
    exact absurd (sound.delivers.refuses refuses) isOpen
  case h_10 strand => exact absurd strand sound.delivers.alive
  all_goals cases rest

/-- A strand with nothing left to do has written all that was sent. -/
theorem Sound.written_of_idle (sound : session.Sound codec)
    (strand : session.channel.strand = .between .running)
    (operations : session.channel.operations = []) :
    session.channel.accepting = true ∧ ∃ frames,
      List.Forall₂ (codec.encode · = .ok ·) session.sent frames ∧
        session.bytesWritten = frames.flatten := by
  have writes := sound.writes.writes
  unfold Channel.WritesOut outstanding at writes
  rw [strand, operations] at writes
  generalize session.channel.accepting = accepting at writes
  generalize sent : session.sent = sent at writes
  cases writes with
  | whole framed isSent isWritten =>
      rw [List.filterMap_nil, List.append_nil] at isSent
      exact ⟨rfl, _, isSent ▸ framed, isWritten⟩

/-- The read loop of an open channel is not over, if it could have its buffer. -/
theorem Sound.readTurn_ne_rest (sound : session.Sound codec)
    (present : session.channel.strand.isPresent = true) (isOpen : session.channel.state ≠ .closed)
    (affordable : session.channel.config.readBufferSize ≤ greatestBuffer) :
    session.channel.readTurn ≠ .rest := by
  intro rest
  unfold Channel.readTurn at rest
  split at rest
  · rename_i absent
    rw [sound.delivers.begun.mp absent] at present
    cases present
  · rename_i ended
    rcases sound.reads.ended ended with closed | greedy
    · exact isOpen closed
    · omega
  · split at rest <;> cases rest
  · cases rest

/-- A read loop that asks for bytes has room for them. -/
theorem Sound.room_pos (sound : session.Sound codec) {room : Nat}
    (turn : session.channel.readTurn = .read room) : 0 < room := by
  obtain ⟨buffer, awaiting, rfl⟩ := awaiting_of_readTurn turn
  exact sound.reads.roomy buffer awaiting

/-- A session with nothing left to do has dispatched all that can be decoded of the bytes it has
read. -/
theorem Sound.dispatched_of_idle (sound : session.Sound codec)
    (strand : session.channel.strand = .between .running)
    (operations : session.channel.operations = [])
    {room : Nat} (turn : session.channel.readTurn = .read room) :
    session.dispatched.map Prod.fst = (codec.drain session.bytesRead).events := by
  -- Each event in the queue has its operation, and there is none.
  have balanced := sound.delivers.balanced (.inl (sound.written_of_idle strand operations).1)
  rw [operations] at balanced
  have queue := List.eq_nil_of_length_eq_zero balanced.symm
  obtain ⟨buffer, awaiting, _⟩ := awaiting_of_readTurn turn
  have decodes := sound.delivers.decodes
  rw [awaiting, queue, List.append_nil] at decodes
  change codec.drain session.bytesRead = _ at decodes
  rw [decodes]

end Session

/-! ### Pairs -/

namespace Pair

open Channel Session

variable {H : Type} {nearCodec farCodec : Codec} {pair after : Pair H}

/-- Both sessions are sound, and what one side has written the other has read, the bytes in the pipe
between them apart. -/
structure Sound (nearCodec farCodec : Codec) (pair : Pair H) : Prop where
  near : pair.near.Sound nearCodec
  far : pair.far.Sound farCodec
  forward : pair.near.bytesWritten = pair.far.bytesRead ++ pair.outbound.held
  backward : pair.far.bytesWritten = pair.near.bytesRead ++ pair.inbound.held

/-- Both channels have been started, and neither is closed. -/
structure IsUp (pair : Pair H) : Prop where
  nearPresent : pair.near.channel.strand.isPresent = true
  farPresent : pair.far.channel.strand.isPresent = true
  nearOpen : pair.near.channel.state ≠ .closed
  farOpen : pair.far.channel.state ≠ .closed

instance : Decidable pair.IsUp :=
  decidable_of_iff
    (pair.near.channel.strand.isPresent = true ∧ pair.far.channel.strand.isPresent = true ∧
      pair.near.channel.state ≠ .closed ∧ pair.far.channel.state ≠ .closed)
    ⟨fun ⟨nearPresent, farPresent, nearOpen, farOpen⟩ =>
      ⟨nearPresent, farPresent, nearOpen, farOpen⟩,
    fun up => ⟨up.nearPresent, up.farPresent, up.nearOpen, up.farOpen⟩⟩

theorem IsUp.swap (up : pair.IsUp) : pair.swap.IsUp :=
  ⟨up.farPresent, up.nearPresent, up.farOpen, up.nearOpen⟩

namespace Sound

theorem joined (nearConfig farConfig : Config) (nearCodec farCodec : Codec)
    (outboundRoom inboundRoom : Nat) :
    (Pair.joined nearConfig farConfig nearCodec farCodec outboundRoom inboundRoom : Pair H).Sound
      nearCodec farCodec where
  near := .fresh nearConfig nearCodec
  far := .fresh farConfig farCodec
  forward := rfl
  backward := rfl

theorem swap (sound : pair.Sound nearCodec farCodec) : pair.swap.Sound farCodec nearCodec :=
  ⟨sound.far, sound.near, sound.backward, sound.forward⟩

theorem stepNear {move : Move H} (sound : pair.Sound nearCodec farCodec)
    (regular : move.isRegular = true) (stepped : pair.stepNear move = some after) :
    after.Sound nearCodec farCodec := by
  obtain ⟨nearStepped, farKept, carries⟩ := of_stepNear stepped
  obtain ⟨_, recorded⟩ := moves_of_step nearStepped
  have written : after.near.bytesWritten = pair.near.bytesWritten ++
      (Made.mk pair.near.channel move after.near.channel).written := by
    unfold bytesWritten
    rw [recorded, List.flatMap_append, List.flatMap_singleton]
  have read : after.near.bytesRead = pair.near.bytesRead ++
      (Made.mk pair.near.channel move after.near.channel).bytes := by
    unfold bytesRead
    rw [recorded, List.flatMap_append, List.flatMap_singleton]
  refine
    { near := sound.near.step regular nearStepped
      far := farKept ▸ sound.far
      forward := ?_
      backward := ?_ }
  · rw [written, farKept, carries.written, sound.forward, List.append_assoc]
  · rw [read, farKept, sound.backward, carries.read, List.append_assoc]

/-- Every regular move of either side keeps the invariant. -/
theorem step {side : Side} {move : Move H} (sound : pair.Sound nearCodec farCodec)
    (regular : move.isRegular = true) (stepped : pair.step side move = some after) :
    after.Sound nearCodec farCodec := by
  cases side with
  | near => exact sound.stepNear regular stepped
  | far =>
      obtain ⟨middle, moved, rfl⟩ := Option.map_eq_some_iff.mp stepped
      exact (sound.swap.stepNear regular moved).swap

/-- A stream of frames of the near side drains into what its events are restored as. -/
theorem restores_drain (sameLimit : nearCodec.limit = farCodec.limit) {events : List Event}
    {frames : List Bytes} (uncompressed : ∀ event ∈ events, event.isCompressed = false)
    (framed : List.Forall₂ (nearCodec.encode · = .ok ·) events frames) :
    List.Forall₂ nearCodec.Restores events (farCodec.drain frames.flatten).events := by
  have fits (event : Event) (member : event ∈ events) (body : Bytes)
      (made : nearCodec.wireBody event = .ok body) : body.length ≤ farCodec.limit := by
    have accepted := Codec.isOk_of_framed framed event member
    cases encoded : nearCodec.encode event with
    | error error =>
        rw [encoded] at accepted
        cases accepted
    | ok frame =>
        obtain ⟨other, madeToo, withinLimit, _, _⟩ := Codec.exists_body_of_encode encoded
        rw [made] at madeToo
        cases madeToo
        rw [← sameLimit]
        exact withinLimit
  obtain ⟨decoded, restores, drained⟩ := Codec.drain_append_of_frames uncompressed framed fits []
  rw [List.append_nil, Codec.drain_of_waiting farCodec.decode_nil] at drained
  rw [drained, List.append_nil]
  exact restores

/-- The events dispatched by the far side are the first ones that the near side can send. -/
theorem dispatched_isPrefix (sound : pair.Sound nearCodec farCodec)
    (sameLimit : nearCodec.limit = farCodec.limit)
    (uncompressed : ∀ event ∈ pair.near.sent, event.isCompressed = false) {restored : List Event}
    (restores : List.Forall₂ nearCodec.Restores (pair.near.encodable nearCodec) restored) :
    pair.far.dispatched.map Prod.fst <+: restored := by
  obtain ⟨events, frames, areSent, framed, isWritten⟩ := sound.near.writes.exists_stream
  have uncompressedEvents (event : Event) (member : event ∈ events) : event.isCompressed = false :=
    uncompressed event (List.takeWhile_subset _ (areSent.subset member))
  -- Bytes read were written, bytes written are those of whole frames and of the front of one more.
  have areRead : pair.far.bytesRead <+: pair.near.bytesWritten :=
    ⟨pair.outbound.held, sound.forward.symm⟩
  have decoded := sound.far.dispatched_isPrefix_drain
  have drained := farCodec.events_drain_isPrefix (areRead.trans isWritten)
  exact (decoded.trans drained).trans (Codec.isPrefix_of_restores areSent
    (restores_drain sameLimit uncompressedEvents framed) restores)

/-! ### Quiescent pairs -/

/-- Nothing is left in the pipe that the read loop of an open pair waits for. -/
theorem reader_of_readerWaits (sound : pair.Sound nearCodec farCodec) (up : pair.IsUp)
    (affordable : pair.near.channel.config.readBufferSize ≤ greatestBuffer)
    (waits : pair.readerWaits = true) :
    pair.inbound.held = [] ∧ ∃ room, pair.near.channel.readTurn = .read room := by
  rcases readerWaits_iff.mp waits with rest | ⟨room, turn, _, ⟨empty, _⟩ | ⟨_, noRoom⟩⟩
  · exact absurd rest (sound.near.readTurn_ne_rest up.nearPresent up.nearOpen affordable)
  · exact ⟨empty, room, turn⟩
  · have positive := sound.near.room_pos turn
    omega

/-- A strand that waits has nothing left to do, if the pipe it writes to is empty and has room. -/
theorem idle_of_strandWaits (sound : pair.Sound nearCodec farCodec) (up : pair.IsUp)
    (roomy : 0 < pair.outbound.capacity) (empty : pair.outbound.held = [])
    (waits : pair.strandWaits = true) :
    pair.near.channel.strand = .between .running ∧ pair.near.channel.operations = [] := by
  obtain ⟨_, rest | ⟨bytes, _, _, full⟩⟩ := strandWaits_iff.mp waits
  · exact sound.near.idle_of_rest up.nearPresent up.nearOpen rest
  · unfold Pipe.room at full
    rw [empty, List.length_nil] at full
    omega

/-- In a quiescent pair with both sides open, everything that was sent has been dispatched. -/
theorem restores_of_quiescent (sound : pair.Sound nearCodec farCodec)
    (sameLimit : nearCodec.limit = farCodec.limit)
    (uncompressed : ∀ event ∈ pair.near.sent, event.isCompressed = false) (up : pair.IsUp)
    (outboundRoomy : 0 < pair.outbound.capacity) (inboundRoomy : 0 < pair.inbound.capacity)
    (nearAffordable : pair.near.channel.config.readBufferSize ≤ greatestBuffer)
    (farAffordable : pair.far.channel.config.readBufferSize ≤ greatestBuffer)
    (quiescent : pair.IsQuiescent) :
    pair.near.encodable nearCodec = pair.near.sent ∧
      List.Forall₂ nearCodec.Restores pair.near.sent (pair.far.dispatched.map Prod.fst) := by
  obtain ⟨⟨nearStrand, nearReader⟩, farStrand, farReader⟩ := isQuiescent_iff.mp quiescent
  -- Both read loops have room, so both pipes are empty, and neither strand waits for room in them.
  obtain ⟨inboundEmpty, _⟩ := sound.reader_of_readerWaits up nearAffordable nearReader
  obtain ⟨outboundEmpty, room, turn⟩ :=
    sound.swap.reader_of_readerWaits up.swap farAffordable farReader
  obtain ⟨nearIdle, nearDone⟩ := sound.idle_of_strandWaits up outboundRoomy outboundEmpty nearStrand
  obtain ⟨farIdle, farDone⟩ :=
    sound.swap.idle_of_strandWaits up.swap inboundRoomy inboundEmpty farStrand
  obtain ⟨_, frames, framed, isWritten⟩ := sound.near.written_of_idle nearIdle nearDone
  have dispatched := sound.far.dispatched_of_idle farIdle farDone turn
  have allRead : frames.flatten = pair.far.bytesRead := by
    calc frames.flatten = pair.near.bytesWritten := isWritten.symm
      _ = pair.far.bytesRead ++ pair.outbound.held := sound.forward
      _ = pair.far.bytesRead ++ [] := congrArg (pair.far.bytesRead ++ ·) outboundEmpty
      _ = pair.far.bytesRead := List.append_nil _
  refine ⟨List.takeWhile_eq_self_iff.mpr (Codec.isOk_of_framed framed), ?_⟩
  rw [dispatched, ← allRead]
  exact restores_drain sameLimit uncompressed framed

end Sound

/-- What a pair was made with. -/
structure MadeWith (nearConfig farConfig : Config) (outboundRoom inboundRoom : Nat)
    (pair : Pair H) : Prop where
  nearConfig : pair.near.channel.config = nearConfig
  farConfig : pair.far.channel.config = farConfig
  outboundRoom : pair.outbound.capacity = outboundRoom
  inboundRoom : pair.inbound.capacity = inboundRoom

namespace MadeWith

variable {nearConfig farConfig : Config} {outboundRoom inboundRoom : Nat}

theorem swap (made : pair.MadeWith nearConfig farConfig outboundRoom inboundRoom) :
    pair.swap.MadeWith farConfig nearConfig inboundRoom outboundRoom :=
  ⟨made.farConfig, made.nearConfig, made.inboundRoom, made.outboundRoom⟩

theorem stepNear {move : Move H}
    (made : pair.MadeWith nearConfig farConfig outboundRoom inboundRoom)
    (stepped : pair.stepNear move = some after) :
    after.MadeWith nearConfig farConfig outboundRoom inboundRoom := by
  obtain ⟨nearStepped, farKept, carries⟩ := of_stepNear stepped
  have nearKept := (moves_of_step nearStepped).1.config_eq
  exact ⟨nearKept.trans made.nearConfig, farKept ▸ made.farConfig,
    carries.outboundCapacity.trans made.outboundRoom,
    carries.inboundCapacity.trans made.inboundRoom⟩

/-- Nothing changes what a pair was made with. -/
theorem step {side : Side} {move : Move H}
    (made : pair.MadeWith nearConfig farConfig outboundRoom inboundRoom)
    (stepped : pair.step side move = some after) :
    after.MadeWith nearConfig farConfig outboundRoom inboundRoom := by
  cases side with
  | near => exact made.stepNear stepped
  | far =>
      obtain ⟨middle, moved, rfl⟩ := Option.map_eq_some_iff.mp stepped
      exact (made.swap.stepNear moved).swap

theorem of_run {nearCodec farCodec : Codec} {moves : List (Side × Move H)}
    (ran : (joined nearConfig farConfig nearCodec farCodec outboundRoom inboundRoom).run moves =
      some pair) :
    pair.MadeWith nearConfig farConfig outboundRoom inboundRoom :=
  run_maintains step ⟨rfl, rfl, rfl, rfl⟩ ran

end MadeWith

/-! ### Streams without room -/

/-- Nothing goes from the near side to the far one, for there is no room. -/
structure Mute (pair : Pair H) : Prop where
  noRoom : pair.outbound.capacity = 0
  empty : pair.outbound.held = []
  unread : pair.far.bytesRead = []

namespace Mute

theorem stepNear {move : Move H} (mute : pair.Mute) (stepped : pair.stepNear move = some after) :
    after.Mute := by
  obtain ⟨_, farKept, carries⟩ := of_stepNear stepped
  have noRoom : after.outbound.capacity = 0 := carries.outboundCapacity.trans mute.noRoom
  have fits := carries.fits (by rw [mute.empty]; exact Nat.zero_le _)
  rw [noRoom] at fits
  exact ⟨noRoom, List.eq_nil_of_length_eq_zero (Nat.le_zero.mp fits), farKept ▸ mute.unread⟩

/-- The far side reads nothing, for nothing is there. -/
theorem stepFar {move : Move H} (mute : pair.Mute)
    (stepped : pair.swap.stepNear move = some after) :
    after.swap.Mute := by
  obtain ⟨farStepped, _, carries⟩ := of_stepNear stepped
  obtain ⟨_, recorded⟩ := moves_of_step farStepped
  have read : pair.outbound.held = _ ++ after.inbound.held := carries.read
  rw [mute.empty] at read
  obtain ⟨nothing, empty⟩ := List.append_eq_nil_iff.mp read.symm
  refine ⟨carries.inboundCapacity.trans mute.noRoom, empty, ?_⟩
  show after.near.bytesRead = []
  have unread : pair.swap.near.bytesRead = [] := mute.unread
  unfold bytesRead at unread ⊢
  rw [recorded, List.flatMap_append, List.flatMap_singleton, unread, nothing]
  rfl

theorem step {side : Side} {move : Move H} (mute : pair.Mute)
    (stepped : pair.step side move = some after) : after.Mute := by
  cases side with
  | near => exact mute.stepNear stepped
  | far =>
      obtain ⟨middle, moved, rfl⟩ := Option.map_eq_some_iff.mp stepped
      exact mute.stepFar moved

/-- Over a stream without room nothing is dispatched. -/
theorem dispatched_eq_nil (mute : pair.Mute) (sound : pair.Sound nearCodec farCodec) :
    pair.far.dispatched = [] := by
  have decoded := sound.far.dispatched_isPrefix_drain
  rw [mute.unread, Codec.drain_of_waiting farCodec.decode_nil] at decoded
  exact List.map_eq_nil_iff.mp (List.prefix_nil.mp decoded)

end Mute

/-- **Two peers agree on the events that one of them sends.** At all times, and on a stream of any
size, the events that the far side has dispatched are the first ones of those sent by the near side
before one that has no frame, each as it is restored from its frame. On a stream with room for at
least one byte in each direction they are all of them, and all have frames, when both channels have
been started and are open and no task can make a move; a stream without room takes no byte, and
nothing is dispatched. The exception is a channel that asks for a greater buffer than there can be:
its read loop panics without closing it, and it stays open with nobody to read. -/
theorem dispatches_as_sent (nearConfig farConfig : Config) (nearCodec farCodec : Codec)
    (outboundRoom inboundRoom : Nat) {moves : List (Side × Move H)} {pair : Pair H}
    (sameLimit : nearCodec.limit = farCodec.limit)
    (regular : ∀ entry ∈ moves, entry.2.isRegular = true)
    (ran : (joined nearConfig farConfig nearCodec farCodec outboundRoom inboundRoom).run moves =
      some pair)
    (uncompressed : ∀ event ∈ pair.near.sent, event.isCompressed = false) :
    ∃ restored, List.Forall₂ nearCodec.Restores (pair.near.encodable nearCodec) restored ∧
      pair.far.dispatched.map Prod.fst <+: restored ∧
      (outboundRoom = 0 → pair.far.dispatched = []) ∧
      (0 < outboundRoom → 0 < inboundRoom →
        nearConfig.readBufferSize ≤ greatestBuffer → farConfig.readBufferSize ≤ greatestBuffer →
        pair.IsUp → pair.IsQuiescent →
        pair.near.encodable nearCodec = pair.near.sent ∧
          pair.far.dispatched.map Prod.fst = restored) := by
  have sound : pair.Sound nearCodec farCodec :=
    run_keeps Sound.step
      (.joined nearConfig farConfig nearCodec farCodec outboundRoom inboundRoom) regular ran
  have made := MadeWith.of_run ran
  have accepted : ∀ event ∈ pair.near.encodable nearCodec,
      (nearCodec.encode event).isOk = true := by
    intro event member
    have passed := List.mem_takeWhile_imp member
    exact passed
  obtain ⟨restored, restores⟩ := Codec.exists_restored_of_isOk accepted
  have isPrefix := sound.dispatched_isPrefix sameLimit uncompressed restores
  refine ⟨restored, restores, isPrefix, ?_, ?_⟩
  · intro noRoom
    have mute : pair.Mute := run_maintains Mute.step ⟨noRoom, rfl, rfl⟩ ran
    exact mute.dispatched_eq_nil sound
  · intro outboundRoomy inboundRoomy nearAffordable farAffordable up quiescent
    rw [← made.outboundRoom] at outboundRoomy
    rw [← made.inboundRoom] at inboundRoomy
    rw [← made.nearConfig] at nearAffordable
    rw [← made.farConfig] at farAffordable
    obtain ⟨allEncodable, allRestored⟩ := sound.restores_of_quiescent sameLimit uncompressed up
      outboundRoomy inboundRoomy nearAffordable farAffordable quiescent
    refine ⟨allEncodable, isPrefix.eq_of_length ?_⟩
    rw [← allRestored.length_eq, ← allEncodable, restores.length_eq]

/-- Two events, one of them sent before the start and one with a status that is not in normal form.
The first frame is written and read in two portions, the second portion together with the other
frame. -/
theorem dispatches_as_sent_of_portions :
    let first : Event := { uid := ⟨1⟩ }
    let second : Event :=
      { uid := ⟨2⟩, options := Options.noFormat, feedback := .other 2, payload := [13, 10] }
    let stream := (Frame.mk 1 0 0 []).bytes ++ (Frame.mk 2 1 2 [13, 10]).bytes
    let moves : List (Side × Move Nat) :=
      [(.near, .act (.send first)), (.far, .act (.bind .all 7)), (.near, .act (.start (.ok ()))),
        (.far, .act (.start (.ok ()))), (.near, .strandTurn), (.near, .wrote 10),
        (.far, .received (stream.take 10)), (.far, .readerTurn), (.near, .act (.send second)),
        (.near, .wrote 5), (.near, .strandTurn), (.near, .strandTurn), (.near, .wrote 17),
        (.far, .received (stream.drop 10)), (.near, .strandTurn), (.far, .readerTurn),
        (.far, .readerTurn), (.far, .readerTurn), (.far, .strandTurn), (.far, .call),
        (.far, .returned), (.far, .strandTurn), (.far, .strandTurn), (.far, .call),
        (.far, .returned), (.far, .strandTurn)]
    ∃ pair, (joined {} {} .default .default 32 32).run moves = some pair ∧
      List.Forall₂ Codec.default.Restores [first, second] (pair.far.dispatched.map Prod.fst) := by
  intro first second stream moves
  have possible : ((joined {} {} .default .default 32 32).run moves).isSome = true := by
    decide +kernel
  obtain ⟨pair, ran⟩ := Option.isSome_iff_exists.mp possible
  have sent := of_run_all ran (fun pair => pair.near.sent = [first, second]) (by decide +kernel)
  have up := of_run_all ran (fun pair => pair.IsUp) (by decide +kernel)
  have quiescent := of_run_all ran (fun pair => pair.IsQuiescent) (by decide +kernel)
  have uncompressed : ∀ event ∈ pair.near.sent, event.isCompressed = false := by
    rw [sent]
    decide
  obtain ⟨restored, restores, _, _, settled⟩ :=
    dispatches_as_sent {} {} .default .default 32 32 rfl (by decide) ran uncompressed
  obtain ⟨allEncodable, dispatched⟩ :=
    settled (by decide) (by decide) (by decide) (by decide) up quiescent
  refine ⟨pair, ran, ?_⟩
  rw [dispatched, ← sent, ← allEncodable]
  exact restores

/-- **A read loop that panics leaves its channel open, and undispatched what is sent to it.** The
loop asks for more than the greatest buffer there can be and does not live to read: an event reaches
the pipe, and nothing more happens. -/
theorem nothing_dispatched_of_greedy_buffer :
    let event : Event := { uid := ⟨1⟩ }
    let moves : List (Side × Move Nat) :=
      [(.far, .act (.bind .all 7)), (.near, .act (.start (.ok ()))), (.far, .act (.start (.ok ()))),
        (.far, .readerTurn), (.near, .act (.send event)), (.near, .strandTurn), (.near, .wrote 15),
        (.near, .strandTurn)]
    ∃ pair, (joined {} { readBufferSize := 9223372036854775808 } .default .default 32 32).run
        moves = some pair ∧
      (∀ entry ∈ moves, entry.2.isRegular = true) ∧ pair.near.sent = [event] ∧
      event.isCompressed = false ∧ pair.IsUp ∧ pair.IsQuiescent ∧
      pair.near.encodable .default = [event] ∧
      ¬ List.Forall₂ Codec.default.Restores (pair.near.encodable .default)
        (pair.far.dispatched.map Prod.fst) := by
  intro event moves
  have possible : ((joined {} { readBufferSize := 9223372036854775808 } .default .default 32 32).run
      moves).isSome = true := by decide +kernel
  obtain ⟨pair, ran⟩ := Option.isSome_iff_exists.mp possible
  have sent := of_run_all ran (fun pair => pair.near.sent = [event]) (by decide +kernel)
  have up := of_run_all ran (fun pair => pair.IsUp) (by decide +kernel)
  have quiescent := of_run_all ran (fun pair => pair.IsQuiescent) (by decide +kernel)
  have encodable := of_run_all ran (fun pair => pair.near.encodable .default = [event])
    (by decide +kernel)
  have nothing := of_run_all ran (fun pair => pair.far.dispatched.map Prod.fst = [])
    (by decide +kernel)
  refine ⟨pair, ran, by decide, sent, by decide, up, quiescent, encodable, ?_⟩
  rw [encodable, nothing]
  exact fun impossible => nomatch impossible

end Pair

end EventTransport
