import EventTransport.Proofs.Channel.Decoding
import EventTransport.Proofs.Channel.Session

/-!
Contract: what becomes of the bytes that a channel reads.

Owns:
- `Delivers`, the invariant of a session whose queue is left to the tasks: what was dispatched and
  what waits are the events decoded, and as long as the strand takes operations there is one
  dispatch among them for every event that waits;
- the theorem that events are dispatched as they were decoded, and all of them if it is the read
  loop that closes the channel.

Every move touches only a part of the invariant, so there is one lemma for each thing that moves do.

Does not own: sessions in which handlers die.
-/

namespace EventTransport

namespace Channel

variable {H : Type} {codec : Codec}

/-! ### The invariant -/

/-- Whether the strand has told that it takes no more operations. -/
@[simp] def hasLeft : Strand H → Bool
  | .between (.draining _) => true
  | .calling (.draining _) _ _ => true
  | .closing _ => true
  | .ended => true
  | _ => false

/-- Whether the strand has executed all of its operations. -/
@[simp] def isThrough : Strand H → Bool
  | .closing _ => true
  | .ended => true
  | _ => false

attribute [simp] Strand.isPresent

theorem hasLeft_of_isThrough {strand : Strand H} (through : isThrough strand = true) :
    hasLeft strand = true := by
  cases strand with
  | closing outcome => rfl
  | ended => rfl
  | _ => cases through

theorem hasLeft_calling (stage : StrandStage) (event : Event) (handlers : List H) :
    hasLeft (.calling stage event handlers) = hasLeft (.between stage : Strand H) := by
  cases stage <;> rfl

/-- The handlers that the strand is still to call. -/
@[simp] def callsLeft : Strand H → List (Event × H)
  | .calling _ event handlers => handlers.map (Prod.mk event)
  | _ => []

/-- All calls for dispatched events. -/
def callsFor (dispatched : List (Event × List H)) : List (Event × H) :=
  dispatched.flatMap fun entry => entry.2.map (Prod.mk entry.1)

/-- What has become of the bytes read by a channel that was, or was not, closed by its read loop. -/
structure Delivers (codec : Codec) (channel : Channel H) (bytes : Bytes)
    (dispatched : List (Event × List H)) (calls : List (Event × H)) (byReader : Bool) : Prop where
  framing : channel.codec = codec
  decodes : Decodes codec bytes (dispatched.map Prod.fst ++ channel.bus.queue) channel.reader
  begun : channel.reader = .absent ↔ channel.strand.isPresent = false
  refuses : channel.accepting = false → channel.state = .closed
  left : hasLeft channel.strand = true → channel.accepting = false
  through : isThrough channel.strand = true → channel.operations = []
  alive : channel.strand ≠ .died
  balanced : channel.accepting = true ∨ byReader = true →
    channel.operations.count .dispatch = channel.bus.queue.length
  readerOver : byReader = true → channel.reader = .ended
  called : calls ++ callsLeft channel.strand = callsFor dispatched

namespace Delivers

variable {channel : Channel H} {bytes : Bytes} {dispatched : List (Event × List H)}
  {calls : List (Event × H)} {byReader : Bool}

theorem fresh (config : Config) (codec : Codec) :
    Delivers codec ({ config := config, codec := codec } : Channel H) [] [] [] false := by
  constructor <;> simp [Decodes, LocalBus.empty, callsFor]

/-- Less can be said if the read loop is not known to have closed the channel. -/
theorem weaken {known : Bool} (delivers : Delivers codec channel bytes dispatched calls byReader)
    (fewer : known = true → byReader = true) :
    Delivers codec channel bytes dispatched calls known :=
  { delivers with
    balanced := fun counts => delivers.balanced (counts.imp_right fewer)
    readerOver := fun isOver => delivers.readerOver (fewer isOver) }

/-- A strand that has executed everything takes no more operations. -/
theorem refuses_of_isThrough (delivers : Delivers codec channel bytes dispatched calls byReader)
    (through : isThrough channel.strand = true) : ¬ channel.accepting = true := by
  rw [delivers.left (hasLeft_of_isThrough through)]
  exact Bool.false_ne_true

/-- A strand that is over has not died. -/
theorem ended_of_isFinished (delivers : Delivers codec channel bytes dispatched calls byReader)
    (finished : channel.isFinished = true) :
    channel.reader = .ended ∧ channel.strand = .ended := by
  simp only [isFinished, Bool.and_eq_true, decide_eq_true_eq] at finished
  obtain ⟨ended, isOver⟩ := finished
  refine ⟨ended, ?_⟩
  cases strand : channel.strand with
  | ended => rfl
  | died => exact absurd strand delivers.alive
  | _ =>
      rw [strand] at isOver
      cases isOver

/-! ### What applications do -/

theorem start (delivers : Delivers codec channel bytes dispatched calls byReader)
    (lowLatency : Except StreamFault Unit) :
    Delivers codec (channel.start lowLatency).channel bytes dispatched calls byReader := by
  unfold Channel.start
  split
  · exact delivers
  · exact delivers
  · rename_i starts
    have absent := absent_of_starts starts
    have unread := delivers.begun.mpr (by rw [absent]; rfl)
    have decodes := delivers.decodes
    have called := delivers.called
    rw [unread] at decodes
    exact
      { framing := delivers.framing
        decodes := decodes.begin rfl
        begun := ⟨fun impossible => (nomatch impossible), fun impossible => (nomatch impossible)⟩
        refuses := by
          intro refuses
          show channel.state.moved .reading = .closed
          rw [delivers.refuses refuses]
          rfl
        left := fun impossible => nomatch impossible
        through := fun impossible => nomatch impossible
        alive := fun impossible => nomatch impossible
        balanced := delivers.balanced
        readerOver := fun isOver =>
          absurd (unread.symm.trans (delivers.readerOver isOver)) (by simp)
        called := by
          rw [absent] at called
          exact called }

/-- An operation other than a dispatch submitted. -/
theorem post (delivers : Delivers codec channel bytes dispatched calls byReader) (event : Event) :
    Delivers codec (channel.post (.write event)) bytes dispatched calls byReader := by
  unfold Channel.post
  split
  · rename_i accepting
    refine { delivers with through := ?_, balanced := ?_ }
    · intro through
      exact absurd accepting (delivers.refuses_of_isThrough through)
    · intro counts
      show (channel.operations ++ [Operation.write event]).count .dispatch = _
      rw [List.count_append, delivers.balanced counts]
      rfl
  · exact delivers

theorem close (delivers : Delivers codec channel bytes dispatched calls byReader) :
    Delivers codec channel.close bytes dispatched calls byReader :=
  { delivers with refuses := fun _ => rfl }

/-- A change of the bindings. -/
theorem rebind (delivers : Delivers codec channel bytes dispatched calls byReader)
    {bus : LocalBus H} (queue : bus.queue = channel.bus.queue) :
    Delivers codec { channel with bus := bus } bytes dispatched calls byReader := by
  refine { delivers with decodes := ?_, balanced := ?_ }
  · show Decodes codec bytes (dispatched.map Prod.fst ++ bus.queue) channel.reader
    rw [queue]
    exact delivers.decodes
  · show _ → channel.operations.count .dispatch = bus.queue.length
    rw [queue]
    exact delivers.balanced

theorem perform (delivers : Delivers codec channel bytes dispatched calls byReader) {act : Act H}
    (regular : (Move.act act).isRegular = true) :
    Delivers codec (channel.perform act) bytes dispatched calls byReader := by
  cases act with
  | start lowLatency => exact delivers.start lowLatency
  | send event =>
      show Delivers codec (channel.send event) bytes dispatched calls byReader
      unfold Channel.send
      split
      · exact delivers
      · exact delivers.post event
  | stop => exact delivers.close
  | bind key handler => exact delivers.rebind rfl
  | unbind key => exact delivers.rebind (LocalBus.queue_unbind _ _)
  | reset => exact delivers.rebind rfl
  | deliver event => cases regular
  | dispatch => cases regular

theorem join (delivers : Delivers codec channel bytes dispatched calls byReader) :
    Delivers codec channel.join.2 bytes dispatched calls byReader := by
  unfold Channel.join
  split
  · exact { delivers with }
  · exact delivers

/-! ### What the read loop does -/

/-- Bytes read, or found not to make up a frame. -/
theorem read (delivers : Delivers codec channel bytes dispatched calls byReader)
    {reader : ReadLoop} (state : ChannelState) {more : Bytes} (present : channel.reader ≠ .absent)
    (reads : reader ≠ .absent) (notOver : channel.reader ≠ .ended)
    (decodes : Decodes codec (bytes ++ more)
      (dispatched.map Prod.fst ++ channel.bus.queue) reader) :
    Delivers codec ({ channel with reader := reader }.enter state) (bytes ++ more) dispatched calls
      byReader := by
  refine { delivers with decodes := decodes, begun := ?_, refuses := ?_, readerOver := ?_ }
  · exact ⟨fun absent => absurd absent reads,
      fun absent => absurd (delivers.begun.mpr absent) present⟩
  · intro refuses
    show channel.state.moved state = .closed
    rw [delivers.refuses refuses]
    rfl
  · intro isOver
    exact absurd (delivers.readerOver isOver) notOver

/-- An event put into the queue. -/
theorem deliver (delivers : Delivers codec channel bytes dispatched calls byReader)
    {buffer rest : ReadBuffer} {event : Event} (reader : channel.reader = .decoding buffer)
    (decodes : Decodes codec bytes (dispatched.map Prod.fst ++ channel.bus.queue ++ [event])
      (.decoding rest)) :
    Delivers codec ({ channel with reader := .decoding rest }.deliver event) bytes dispatched calls
      byReader := by
  rw [List.append_assoc] at decodes
  have notOver : byReader ≠ true := by
    intro isOver
    rw [delivers.readerOver isOver] at reader
    cases reader
  have begun : ReadLoop.decoding rest = .absent ↔ channel.strand.isPresent = false := by
    rw [← delivers.begun, reader]
    exact ⟨fun absent => (nomatch absent), fun absent => (nomatch absent)⟩
  unfold Channel.deliver Channel.post
  split
  · rename_i accepting
    refine
      { delivers with
        decodes := decodes
        begun := begun
        through := ?_
        balanced := ?_
        readerOver := fun isOver => absurd isOver notOver }
    · intro through
      exact absurd accepting (delivers.refuses_of_isThrough through)
    · intro _
      show (channel.operations ++ [Operation.dispatch]).count .dispatch =
        (channel.bus.queue ++ [event]).length
      rw [List.count_append, delivers.balanced (.inl accepting), List.length_append]
      rfl
  · rename_i refuses
    refine
      { delivers with
        decodes := decodes
        begun := begun
        balanced := fun counts => absurd counts (not_or.mpr ⟨refuses, notOver⟩)
        readerOver := fun isOver => absurd isOver notOver }

/-- The end of the read loop, with the channel closed or left as it is. -/
theorem endReading (delivers : Delivers codec channel bytes dispatched calls byReader)
    (outcome : Outcome) (present : channel.reader ≠ .absent)
    (decodes : Decodes codec bytes (dispatched.map Prod.fst ++ channel.bus.queue) .ended)
    (closesNow : Bool) (first : closesNow = true → channel.state ≠ .closed) :
    Delivers codec (channel.endReading outcome) bytes dispatched calls (byReader || closesNow) := by
  refine
    { delivers with
      decodes := decodes
      begun := ?_
      refuses := fun _ => rfl
      balanced := ?_
      readerOver := fun _ => rfl }
  · exact ⟨fun ended => (nomatch ended), fun absent => absurd (delivers.begun.mpr absent) present⟩
  · intro counts
    apply delivers.balanced
    rcases counts with accepting | isOver
    · exact .inl accepting
    · rcases Bool.or_eq_true _ _ ▸ isOver with already | closesNow
      · exact .inr already
      · -- A channel that is not closed yet has a strand that takes operations.
        cases accepting : channel.accepting with
        | true => exact .inl rfl
        | false => exact absurd (delivers.refuses accepting) (first closesNow)

/-- The end of a read loop that never got to read. -/
theorem dropReader (delivers : Delivers codec channel bytes dispatched calls byReader)
    (outcome : Outcome) (present : channel.reader ≠ .absent)
    (decodes : Decodes codec bytes (dispatched.map Prod.fst ++ channel.bus.queue) .ended) :
    Delivers codec (channel.dropReader outcome) bytes dispatched calls byReader :=
  { delivers with
    decodes := decodes
    begun := ⟨fun ended => (nomatch ended), fun absent =>
      absurd (delivers.begun.mpr absent) present⟩
    readerOver := fun _ => rfl }

/-! ### What the strand does -/

/-- A strand that goes on, with no handler to call before or after. -/
theorem goOn (delivers : Delivers codec channel bytes dispatched calls byReader)
    {strand : Strand H} {operations : List Operation} (present : channel.strand.isPresent = true)
    (goesOn : strand.isPresent = true) (alive : strand ≠ .died)
    (left : hasLeft strand = true → channel.accepting = false)
    (through : isThrough strand = true → operations = [])
    (dispatches : operations.count .dispatch = channel.operations.count .dispatch)
    (idle : callsLeft strand = callsLeft channel.strand) :
    Delivers codec { channel with strand := strand, operations := operations } bytes
      dispatched calls
      byReader := by
  refine
    { delivers with
      begun := ?_
      left := left
      through := through
      alive := alive
      balanced := ?_
      called := ?_ }
  · show channel.reader = .absent ↔ strand.isPresent = false
    rw [delivers.begun, present, goesOn]
  · show _ → operations.count .dispatch = _
    rw [dispatches]
    exact delivers.balanced
  · show calls ++ callsLeft strand = _
    rw [idle]
    exact delivers.called

/-- A strand that takes no more operations. -/
theorem leave (delivers : Delivers codec channel bytes dispatched calls byReader)
    (outcome : Outcome) {operations : List Operation} (present : channel.strand.isPresent = true)
    (dispatches : operations.count .dispatch = channel.operations.count .dispatch)
    (idle : callsLeft channel.strand = []) :
    Delivers codec ({ channel with operations := operations }.leave outcome) bytes dispatched calls
      byReader := by
  refine
    { delivers with
      begun := ?_
      refuses := fun _ => rfl
      left := fun _ => rfl
      through := fun impossible => nomatch impossible
      alive := fun impossible => nomatch impossible
      balanced := ?_
      called := ?_ }
  · show channel.reader = .absent ↔ _
    rw [delivers.begun, present]
    rfl
  · rintro (impossible | isOver)
    · cases impossible
    · exact dispatches.trans (delivers.balanced (.inr isOver))
  · have called := delivers.called
    rw [idle] at called
    exact called

/-- An event taken from the queue. -/
theorem dispatch (delivers : Delivers codec channel bytes dispatched calls byReader)
    {stage : StrandStage} {later : List Operation} {event : Event} {handlers : List H}
    {bus : LocalBus H} (strand : channel.strand = .between stage)
    (operations : channel.operations = .dispatch :: later)
    (taken : channel.bus.take? = some (event, handlers, bus)) :
    Delivers codec
      { channel with operations := later, bus := bus, strand := .calling stage event handlers }
      bytes (dispatched ++ [(event, handlers)]) calls byReader := by
  obtain ⟨queue, _, _⟩ := LocalBus.take?_eq_some_iff.mp taken
  refine
    { delivers with
      decodes := ?_
      begun := ?_
      left := ?_
      through := fun impossible => nomatch impossible
      alive := fun impossible => nomatch impossible
      balanced := ?_
      called := ?_ }
  · have same : (dispatched ++ [(event, handlers)]).map Prod.fst ++ bus.queue =
        dispatched.map Prod.fst ++ channel.bus.queue := by
      rw [queue]
      simp
    show Decodes codec bytes (_ ++ bus.queue) channel.reader
    rw [same]
    exact delivers.decodes
  · show channel.reader = .absent ↔ _
    rw [delivers.begun, strand]
    rfl
  · intro left
    apply delivers.left
    rw [strand, ← left]
    exact (hasLeft_calling ..).symm
  · intro counts
    have balanced := delivers.balanced counts
    rw [operations, List.count_cons_self, queue, List.length_cons] at balanced
    exact Nat.succ.inj balanced
  · have called := delivers.called
    rw [strand] at called
    have callsBefore : calls = callsFor dispatched := by simpa using called
    simp [callsFor, callsBefore]

/-- A dispatch that finds nothing to dispatch. -/
theorem dispatchNothing (delivers : Delivers codec channel bytes dispatched calls byReader)
    {stage : StrandStage} {later : List Operation} (strand : channel.strand = .between stage)
    (operations : channel.operations = .dispatch :: later) (nothing : channel.bus.take? = none) :
    Delivers codec { channel with operations := later, strand := .between stage } bytes dispatched
      calls byReader := by
  have queue : channel.bus.queue = [] := LocalBus.queue_of_take?_eq_none nothing
  rw [← strand]
  refine { delivers with through := ?_, balanced := ?_ }
  · intro through
    have none := delivers.through through
    rw [operations] at none
    cases none
  · intro counts
    have balanced := delivers.balanced counts
    rw [operations, queue, List.count_cons_self] at balanced
    cases balanced

/-- A handler called. -/
theorem call (delivers : Delivers codec channel bytes dispatched calls byReader)
    {stage : StrandStage} {event : Event} {handler : H} {handlers : List H}
    (strand : channel.strand = .calling stage event (handler :: handlers)) :
    Delivers codec { channel with strand := .calling stage event handlers } bytes dispatched
      (calls ++ [(event, handler)]) byReader := by
  refine
    { delivers with
      begun := ?_
      left := ?_
      through := fun impossible => nomatch impossible
      alive := fun impossible => nomatch impossible
      called := ?_ }
  · rw [delivers.begun, strand]
    rfl
  · intro left
    apply delivers.left
    rw [strand, hasLeft_calling, ← hasLeft_calling stage event handlers]
    exact left
  · have called := delivers.called
    rw [strand] at called
    rw [List.append_assoc]
    exact called

/-! ### Sessions -/

theorem closes_eq_false {made : Made H}
    (opens : made.after.state = .closed → made.before.state = .closed) : made.closes = false := by
  by_cases closed : made.before.state = .closed
  · simp [Made.closes, closed]
  · simp [Made.closes, mt opens closed]

theorem open_of_closes {made : Made H} (closes : made.closes = true) :
    made.before.state ≠ .closed := by
  simp only [Made.closes, Bool.and_eq_true, decide_eq_true_eq] at closes
  exact closes.1

theorem readerTurn {after : Channel H}
    (delivers : Delivers codec channel bytes dispatched calls byReader)
    (moves : Moves channel .readerTurn after) :
    Delivers codec after bytes dispatched calls
      (byReader || (Made.mk channel .readerTurn after).closes) := by
  have decodes := delivers.decodes
  have framing := delivers.framing
  cases moves with
  | starved reader greedy =>
      rw [reader] at decodes
      rw [closes_eq_false (by exact fun closed => closed), Bool.or_false]
      exact delivers.dropReader _ (by simp [reader]) decodes.ended
  | invalid reader decoded =>
      rw [reader] at decodes
      rw [framing] at decoded
      exact delivers.endReading _ (by simp [reader]) (decodes.invalid decoded) _ open_of_closes
  | @unfinished buffer reader decoded =>
      rw [reader] at decodes
      rw [framing] at decoded
      rw [closes_eq_false (by exact (ChannelState.moved_eq_closed_iff (by decide)).mp),
        Bool.or_false]
      have kept : (channel.makeRoom buffer).held = buffer.held := by simp [makeRoom]
      have waits := decodes.unfinished decoded kept
      rw [← List.append_nil bytes] at waits ⊢
      exact delivers.read _ (by simp [reader]) (by simp) (by simp [reader]) waits
  | decoded reader decoded =>
      rw [reader] at decodes
      rw [framing] at decoded
      rw [closes_eq_false (by simp), Bool.or_false]
      exact delivers.deliver reader (decodes.decoded decoded)

/-- A step of the strand that dispatches nothing. -/
theorem calm {after : Channel H} (delivers : Delivers codec after bytes dispatched calls byReader)
    (none : (Made.mk channel .strandTurn after).dispatched = []) :
    Delivers codec after bytes
      (dispatched ++ (Made.mk channel .strandTurn after).dispatched) calls byReader := by
  rw [none, List.append_nil]
  exact delivers

theorem strandTurn {after : Channel H}
    (delivers : Delivers codec channel bytes dispatched calls byReader)
    (moves : Moves channel .strandTurn after) :
    Delivers codec after bytes
      (dispatched ++ (Made.mk channel .strandTurn after).dispatched) calls byReader := by
  cases moves with
  | dispatched strand untold operations taken => exact delivers.dispatch strand operations taken
  | left strand cancelled =>
      refine calm ?_ rfl
      exact delivers.leave _ (by rw [strand]; rfl) rfl (by rw [strand]; rfl)
  | foundNothing strand untold operations nothing =>
      refine calm ?_ rfl
      exact delivers.dispatchNothing strand operations nothing
  | encoded strand untold operations framed =>
      refine calm ?_ rfl
      apply delivers.goOn <;> simp [strand, operations]
  | unencodable strand untold operations framed =>
      refine calm ?_ rfl
      apply delivers.leave <;> simp [strand, operations]
  | @discarded outcome event later strand operations =>
      have same : { channel with operations := later } =
          { channel with strand := .between (.draining outcome), operations := later } := by
        rw [← strand]
      rw [same]
      refine calm ?_ rfl
      have refuses := delivers.left (by rw [strand]; rfl)
      apply delivers.goOn <;> simp [strand, operations, refuses]
  | emptied strand operations =>
      refine calm ?_ rfl
      have refuses := delivers.left (by rw [strand]; rfl)
      apply delivers.goOn <;> simp [strand, operations, refuses]
  | @handled stage event strand =>
      refine calm ?_ rfl
      have left := delivers.left
      rw [strand, hasLeft_calling] at left
      apply delivers.goOn _ _ _ left <;> simp [strand]
  | flushed strand =>
      refine calm ?_ rfl
      apply delivers.goOn <;> simp [strand]

/-- A move of which nothing is told. -/
theorem aside {move : Move H} {after : Channel H}
    (delivers : Delivers codec after bytes dispatched calls byReader)
    (readsNothing : (Made.mk channel move after).bytes = [])
    (dispatchesNothing : (Made.mk channel move after).dispatched = [])
    (callsNothing : (Made.mk channel move after).called = []) (aside : move.isReading = false) :
    let made : Made H := ⟨channel, move, after⟩
    Delivers codec after (bytes ++ made.bytes) (dispatched ++ made.dispatched)
      (calls ++ made.called) (byReader || made.closes && move.isReading) := by
  intro made
  rw [readsNothing, dispatchesNothing, callsNothing, aside, Bool.and_false, Bool.or_false,
    List.append_nil, List.append_nil, List.append_nil]
  exact delivers

/-- Every regular move keeps the invariant. -/
theorem moves {move : Move H} {after : Channel H}
    (delivers : Delivers codec channel bytes dispatched calls byReader)
    (moves : Moves channel move after) (regular : move.isRegular = true) :
    let made : Made H := ⟨channel, move, after⟩
    Delivers codec after (bytes ++ made.bytes) (dispatched ++ made.dispatched)
      (calls ++ made.called) (byReader || made.closes && move.isReading) := by
  intro made
  have decodes := delivers.decodes
  cases move with
  | act act =>
      cases moves
      exact aside (delivers.perform regular) rfl rfl rfl rfl
  | joined =>
      cases moves
      exact aside delivers.join rfl rfl rfl rfl
  | readerTurn =>
      have turned := delivers.readerTurn moves
      simpa [made] using turned
  | received more =>
      cases moves with
      | received reader some fits =>
          rw [reader] at decodes
          have reads := delivers.read .dispatching (by simp [reader]) (by simp) (by simp [reader])
            (decodes.received more)
          simpa [made] using reads
  | finished =>
      cases moves with
      | finished reader =>
          rw [reader] at decodes
          have ends := delivers.endReading (.ok ()) (by simp [reader]) decodes.ended
            made.closes open_of_closes
          simpa [made] using ends
  | failed fault =>
      cases moves with
      | failed reader _ =>
          rw [reader] at decodes
          have ends := delivers.endReading (.error (.stream fault)) (by simp [reader]) decodes.ended
            made.closes open_of_closes
          simpa [made] using ends
  | told =>
      cases moves with
      | told reader cancelled =>
          rw [reader] at decodes
          have ends := delivers.endReading (.ok ()) (by simp [reader]) decodes.ended false
            (fun impossible => nomatch impossible)
          rw [Bool.or_false] at ends
          exact aside ends rfl rfl rfl rfl
  | strandTurn =>
      have turned := delivers.strandTurn moves
      simpa [made] using turned
  | call =>
      cases moves with
      | called strand =>
          have calls := delivers.call strand
          simpa [made, strand] using calls
  | returned =>
      cases moves
      exact aside delivers rfl rfl rfl rfl
  | died => cases regular
  | wrote count =>
      cases moves with
      | wrote strand some fits =>
          refine aside ?_ rfl rfl rfl rfl
          apply delivers.goOn <;> simp [strand]
  | refused fault =>
      cases moves with
      | refused strand _ =>
          refine aside ?_ rfl rfl rfl rfl
          exact delivers.leave _ (by rw [strand]; rfl) rfl (by rw [strand]; rfl)
  | shut =>
      cases moves with
      | shut strand =>
          refine aside ?_ rfl rfl rfl rfl
          have refuses := delivers.left (by rw [strand]; rfl)
          have through := delivers.through (by rw [strand]; rfl)
          have ended : Delivers codec
              { channel with strand := .ended, operations := channel.operations } bytes dispatched
              calls byReader := by
            apply delivers.goOn <;> simp [strand, refuses, through]
          exact { ended with }

end Delivers

end Channel

namespace Session

open Channel

variable {H : Type} {codec : Codec}

/-- The invariant, of the record of a session. -/
def Delivers (codec : Codec) (session : Session H) : Prop :=
  Channel.Delivers codec session.channel session.bytesRead session.dispatched session.calls
    session.closedByReader

theorem closedByReader_record {session after : Session H} {made : Made H}
    (recorded : after.past = session.past ++ [made]) (byReader : after.closedByReader = true) :
    (session.closedByReader || made.closes && made.move.isReading) = true := by
  unfold closedByReader at byReader ⊢
  rw [recorded, List.find?_append] at byReader
  cases earlier : session.past.find? Made.closes with
  | some first =>
      rw [earlier] at byReader
      rw [Bool.or_eq_true]
      exact .inl byReader
  | none =>
      rw [earlier, Option.none_or, List.find?_singleton] at byReader
      cases closes : made.closes <;> simp_all

theorem Delivers.step {session after : Session H} {move : Move H}
    (delivers : session.Delivers codec) (regular : move.isRegular = true)
    (stepped : session.step move = some after) : after.Delivers codec := by
  obtain ⟨moves, recorded⟩ := moves_of_step stepped
  have next := Channel.Delivers.moves delivers moves regular
  have known := next.weaken (closedByReader_record recorded)
  unfold Session.Delivers bytesRead Session.dispatched calls
  rw [recorded, List.flatMap_append, List.flatMap_append, List.flatMap_append,
    List.flatMap_singleton, List.flatMap_singleton, List.flatMap_singleton]
  exact known

/-! ### Delivery -/

/-- **Events are dispatched as they were decoded.** In every session that leaves the queue to the
tasks, the events dispatched are at all times the first ones of those in the bytes read, and the
handlers that are bound for them then are called in order. If the channel is first closed by the end
of the stream, by its failure or by a frame that is not valid, then every event has been dispatched
to all of its handlers once both tasks are over, and none waits. -/
theorem dispatches_as_decoded (config : Config) (codec : Codec) {moves : List (Move H)}
    {session : Session H} (regular : ∀ move ∈ moves, move.isRegular = true)
    (ran : (fresh config codec).run moves = some session) :
    let decoded := (codec.drain session.bytesRead).events
    session.dispatched.map Prod.fst <+: decoded ∧
    (∀ made ∈ session.past, ∀ entry ∈ made.dispatched,
      entry.2 = made.before.bus.handlersFor entry.1) ∧
    session.calls <+: callsFor session.dispatched ∧
    (session.closedByReader = true → session.channel.isFinished = true →
      session.dispatched.map Prod.fst = decoded ∧ session.calls = callsFor session.dispatched ∧
      session.channel.bus.queue = []) := by
  have started : (fresh config codec : Session H).Delivers codec := .fresh config codec
  have delivers : session.Delivers codec := run_keeps Delivers.step started regular ran
  intro decoded
  refine ⟨?_, ?_, ?_, ?_⟩
  · exact (List.prefix_append _ _).trans delivers.decodes.isPrefix
  · intro made member
    exact handlers_of_dispatched (moves_of_mem_past ran made member)
  · rw [← delivers.called]
    exact List.prefix_append _ _
  · intro byReader finished
    obtain ⟨ended, strand⟩ := delivers.ended_of_isFinished finished
    have operations := delivers.through (by rw [strand]; rfl)
    have balanced := delivers.balanced (.inr byReader)
    rw [operations] at balanced
    have queue := List.eq_nil_of_length_eq_zero balanced.symm
    have decodes := delivers.decodes
    have called := delivers.called
    rw [ended, queue, List.append_nil] at decodes
    have noCall : callsLeft (.ended : Strand H) = [] := rfl
    rw [strand, noCall, List.append_nil] at called
    exact ⟨decodes, called, queue⟩

/-- Two frames and a broken one come at once, behind a write: the write is dropped, and both events
are dispatched after the channel has been closed. -/
theorem dispatches_as_decoded_of_broken_frame :
    let first : Event := { uid := ⟨1⟩ }
    let second : Event := { uid := ⟨2⟩ }
    let stream := (Frame.mk 1 0 0 []).bytes ++ (Frame.mk 2 0 0 []).bytes ++
      (Frame.mk 3 0 0 []).bytes.set 10 99
    let moves : List (Move Nat) :=
      [.act (.bind .all 7), .act (.start (.ok ())), .act (.send first), .received stream,
        .readerTurn, .readerTurn, .readerTurn, .strandTurn, .strandTurn,
        .strandTurn, .call, .returned, .strandTurn, .strandTurn, .call, .returned, .strandTurn,
        .strandTurn, .shut]
    ∃ session, (fresh {} .default).run moves = some session ∧
      session.dispatched.map Prod.fst = (Codec.default.drain stream).events ∧
      (session.dispatched.map fun entry => (entry.1.uid, entry.2)) =
        [(first.uid, [7]), (second.uid, [7])] ∧
      session.channel.bus.queue = [] := by
  intro first second stream moves
  have possible : ((fresh {} .default).run moves).isSome = true := by decide +kernel
  obtain ⟨session, ran⟩ := Option.isSome_iff_exists.mp possible
  have delivery := dispatches_as_decoded {} .default (by decide) ran
  obtain ⟨dispatched, _, queue⟩ := delivery.2.2.2
    (of_run_all ran (fun session => session.closedByReader = true) (by decide +kernel))
    (of_run_all ran (fun session => session.channel.isFinished = true) (by decide +kernel))
  have bytesRead := of_run_all ran (fun session => session.bytesRead = stream) (by decide +kernel)
  rw [bytesRead] at dispatched
  refine ⟨session, ran, dispatched, ?_, queue⟩
  exact of_run_all ran (fun session =>
    (session.dispatched.map fun entry => (entry.1.uid, entry.2)) = _)
    (by decide +kernel)

end Session

end EventTransport
