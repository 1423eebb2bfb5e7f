import EventTransport.Proofs.Channel.Delivery

/-!
Contract: whether a channel is closed when one of its tasks is over.

Owns:
- the moves by which a task panics, and `Channel.Closes`, the invariant of every session: a task
  that ends in any other way has closed the channel;
- that an open channel is one whose tasks are alive, those that panicked aside.

Nothing is asked of handlers, of the queue of the bus, or of the stream.

Does not own: what the tasks do before they end.
-/

namespace EventTransport

namespace Channel

variable {H : Type}

namespace Made

/-- Whether a read loop panics by this, as it cannot have its buffer. -/
@[simp] def starves (made : Made H) : Bool :=
  match made.move, made.before.reader with
  | .readerTurn, .awaiting _ => true
  | _, _ => false

/-- Whether a strand panics by this, in a handler. -/
@[simp] def dies (made : Made H) : Bool :=
  match made.move with
  | .died => true
  | _ => false

end Made

/-- A task is over in an open channel only if it has panicked. -/
structure Closes (channel : Channel H) (starved died : Bool) : Prop where
  told : channel.state = .closed ↔ channel.cancelled = true
  begun : channel.reader = .absent ↔ channel.strand = .absent
  left : hasLeft channel.strand = true → channel.state = .closed
  reader : channel.state ≠ .closed → (channel.reader = .ended ↔ starved = true)
  strand : channel.state ≠ .closed → (channel.strand = .died ↔ died = true)

namespace Closes

variable {channel : Channel H} {starved died : Bool}

theorem fresh (config : Config) (codec : Codec) :
    Closes ({ config := config, codec := codec } : Channel H) false false := by
  constructor <;> simp

/-- A change of what the tasks work on. -/
theorem keep {after : Channel H} (closes : channel.Closes starved died)
    (state : after.state = channel.state) (cancelled : after.cancelled = channel.cancelled)
    (reader : after.reader = channel.reader) (strand : after.strand = channel.strand) :
    after.Closes starved died := by
  constructor
  · rw [state, cancelled]
    exact closes.told
  · rw [reader, strand]
    exact closes.begun
  · rw [strand, state]
    exact closes.left
  · rw [state, reader]
    exact closes.reader
  · rw [state, strand]
    exact closes.strand

/-- Nothing is left to show once the channel is closed. -/
theorem of_closed {after : Channel H} (state : after.state = .closed)
    (cancelled : after.cancelled = true)
    (begun : after.reader = .absent ↔ after.strand = .absent) : after.Closes starved died :=
  ⟨iff_of_true state cancelled, begun, fun _ => state, fun isOpen => absurd state isOpen,
    fun isOpen => absurd state isOpen⟩

theorem post (closes : channel.Closes starved died) (operation : Operation) :
    (channel.post operation).Closes starved died := by
  apply closes.keep <;> simp

theorem join (closes : channel.Closes starved died) : channel.join.2.Closes starved died := by
  unfold Channel.join
  split
  · exact closes.keep rfl rfl rfl rfl
  · exact closes

theorem start (closes : channel.Closes starved died) (lowLatency : Except StreamFault Unit) :
    (channel.start lowLatency).channel.Closes starved died := by
  unfold Channel.start
  split
  · exact closes
  · exact closes
  · rename_i starts
    have absent := absent_of_starts starts
    have unread := closes.begun.mpr absent
    have same : channel.state.moved .reading = .closed ↔ channel.state = .closed :=
      ChannelState.moved_eq_closed_iff (by decide)
    constructor
    · exact same.trans closes.told
    · exact ⟨fun impossible => (nomatch impossible), fun impossible => (nomatch impossible)⟩
    · exact fun impossible => nomatch impossible
    · intro isOpen
      have none := closes.reader (mt same.mpr isOpen)
      rw [unread] at none
      exact ⟨fun impossible => (nomatch impossible), fun starved => (nomatch none.mpr starved)⟩
    · intro isOpen
      have none := closes.strand (mt same.mpr isOpen)
      rw [absent] at none
      exact ⟨fun impossible => (nomatch impossible), fun died => (nomatch none.mpr died)⟩

theorem perform (closes : channel.Closes starved died) (act : Act H) :
    (channel.perform act).Closes starved died := by
  cases act with
  | start lowLatency => exact closes.start lowLatency
  | send event =>
      show (channel.send event).Closes starved died
      unfold Channel.send
      split
      · exact closes
      · exact closes.post _
  | stop => exact of_closed rfl rfl closes.begun
  | deliver event =>
      have queued : { channel with bus := channel.bus.enqueue event }.Closes starved died :=
        closes.keep rfl rfl rfl rfl
      exact queued.post .dispatch
  | dispatch =>
      simp only [Channel.perform]
      split
      · exact closes
      · exact closes.keep rfl rfl rfl rfl
  | bind key handler => exact closes.keep rfl rfl rfl rfl
  | unbind key => exact closes.keep rfl rfl rfl rfl
  | reset => exact closes.keep rfl rfl rfl rfl

/-- A read loop that goes on. -/
theorem read (closes : channel.Closes starved died) {reader : ReadLoop} (state : ChannelState)
    (short : state ≠ .closed) (present : channel.reader ≠ .absent) (alive : channel.reader ≠ .ended)
    (reads : reader ≠ .absent) (goesOn : reader ≠ .ended) :
    ({ channel with reader := reader }.enter state).Closes starved died := by
  have same : channel.state.moved state = .closed ↔ channel.state = .closed :=
    ChannelState.moved_eq_closed_iff short
  constructor
  · exact same.trans closes.told
  · exact iff_of_false reads (mt closes.begun.mpr present)
  · exact fun left => same.mpr (closes.left left)
  · intro isOpen
    exact iff_of_false goesOn (mt (closes.reader (mt same.mpr isOpen)).mpr alive)
  · intro isOpen
    exact closes.strand (mt same.mpr isOpen)

/-- The end of a read loop, which closes the channel. -/
theorem endReading (closes : channel.Closes starved died) (present : channel.reader ≠ .absent)
    (outcome : Outcome) : (channel.endReading outcome).Closes starved died := by
  apply of_closed rfl rfl
  exact iff_of_false (fun impossible => nomatch impossible) (mt closes.begun.mpr present)

/-- A strand that goes on. -/
theorem goOn (closes : channel.Closes starved died) {strand : Strand H}
    {operations : List Operation} {bus : LocalBus H} (present : channel.strand ≠ .absent)
    (alive : channel.strand ≠ .died) (goesOn : strand ≠ .absent) (lives : strand ≠ .died)
    (left : hasLeft strand = true → hasLeft channel.strand = true) :
    { channel with strand := strand, operations := operations, bus := bus }.Closes
      starved died where
  told := closes.told
  begun := iff_of_false (mt closes.begun.mp present) goesOn
  left := fun hasLeft => closes.left (left hasLeft)
  reader := closes.reader
  strand := fun isOpen => iff_of_false lives (mt (closes.strand isOpen).mpr alive)

/-- A strand that takes no more operations, which closes the channel. -/
theorem leave (closes : channel.Closes starved died) (present : channel.strand ≠ .absent)
    (outcome : Outcome) (operations : List Operation) :
    ({ channel with operations := operations }.leave outcome).Closes starved died := by
  apply of_closed rfl rfl
  exact iff_of_false (mt closes.begun.mp present) (fun impossible => nomatch impossible)

theorem readerTurn {after : Channel H} (closes : channel.Closes starved died)
    (moves : Moves channel .readerTurn after) :
    after.Closes (starved || (Made.mk channel .readerTurn after).starves) died := by
  cases moves with
  | starved reader greedy =>
      have starves : (Made.mk channel .readerTurn
          (channel.dropReader (.error .taskJoin))).starves = true := by simp [reader]
      rw [starves, Bool.or_true]
      exact
        { told := closes.told
          begun := iff_of_false (fun impossible => nomatch impossible)
            (mt closes.begun.mpr (by simp [reader]))
          left := closes.left
          reader := fun _ => iff_of_true rfl rfl
          strand := closes.strand }
  | invalid reader decoded =>
      have present : channel.reader ≠ .absent := by simp [reader]
      simpa [reader] using closes.endReading present _
  | unfinished reader decoded =>
      simpa [reader] using closes.read .reading (by decide) (by simp [reader])
        (by simp [reader]) (by simp) (by simp)
  | @decoded buffer event count reader decoded =>
      have moved : { channel with
          reader := .decoding (buffer.drop count), bus := channel.bus.enqueue event }.Closes
          starved died :=
        { closes with
          begun := iff_of_false (fun impossible => nomatch impossible)
            (mt closes.begun.mpr (by simp [reader]))
          reader := fun isOpen => iff_of_false (fun impossible => nomatch impossible)
            (mt (closes.reader isOpen).mpr (by simp [reader])) }
      have delivered := moved.post .dispatch
      simpa [reader, Channel.deliver] using delivered

theorem strandTurn {after : Channel H} (closes : channel.Closes starved died)
    (moves : Moves channel .strandTurn after) : after.Closes starved died := by
  cases moves with
  | left strand cancelled => exact closes.leave (by simp [strand]) _ channel.operations
  | dispatched strand untold operations taken =>
      refine closes.goOn (by simp [strand]) (by simp [strand]) (by simp) (by simp) ?_
      rw [strand, hasLeft_calling]
      exact id
  | foundNothing strand untold operations nothing => apply closes.goOn <;> simp [strand]
  | encoded strand untold operations framed => apply closes.goOn <;> simp [strand]
  | unencodable strand untold operations framed => exact closes.leave (by simp [strand]) _ _
  | discarded strand operations => exact closes.keep rfl rfl rfl rfl
  | emptied strand operations => apply closes.goOn <;> simp [strand]
  | handled strand =>
      refine closes.goOn (by simp [strand]) (by simp [strand]) (by simp) (by simp) ?_
      rw [strand, hasLeft_calling]
      exact id
  | flushed strand => apply closes.goOn <;> simp [strand]

/-- Every move keeps the invariant, if it is a handler that dies when one does. -/
theorem moves {move : Move H} {after : Channel H} (closes : channel.Closes starved died)
    (moves : Moves channel move after)
    (atWork : move = .died → ∃ stage event handlers,
      channel.strand = .calling stage event handlers) :
    let made : Made H := ⟨channel, move, after⟩
    after.Closes (starved || made.starves) (died || made.dies) := by
  intro made
  cases move with
  | readerTurn => simpa [made] using closes.readerTurn moves
  | strandTurn => simpa [made] using closes.strandTurn moves
  | act act =>
      cases moves
      simpa [made] using closes.perform act
  | joined =>
      cases moves
      simpa [made] using closes.join
  | received more =>
      cases moves with
      | received reader some fits =>
          simpa [made] using closes.read .dispatching (by decide) (by simp [reader])
            (by simp [reader]) (by simp) (by simp)
  | finished =>
      cases moves with
      | finished reader => simpa [made] using closes.endReading (by simp [reader]) _
  | failed fault =>
      cases moves with
      | failed reader _ => simpa [made] using closes.endReading (by simp [reader]) _
  | told =>
      cases moves with
      | told reader cancelled => simpa [made] using closes.endReading (by simp [reader]) _
  | call =>
      cases moves with
      | @called stage event handler handlers strand =>
          have called : { channel with strand := .calling stage event handlers }.Closes starved
              died := by
            refine closes.goOn (by simp [strand]) (by simp [strand]) (by simp) (by simp) ?_
            rw [strand, hasLeft_calling, hasLeft_calling]
            exact id
          simpa [made] using called
  | returned =>
      cases moves
      simpa [made] using closes
  | died =>
      cases moves
      obtain ⟨stage, event, handlers, strand⟩ := atWork rfl
      have dies : (died || made.dies) = true := by simp [made]
      rw [dies]
      have panicked : channel.handlerDied.Closes starved true :=
        { told := closes.told
          begun := iff_of_false (mt closes.begun.mp (by simp [strand]))
            (fun impossible => nomatch impossible)
          left := fun impossible => nomatch impossible
          reader := closes.reader
          strand := fun _ => iff_of_true rfl rfl }
      simpa [made] using panicked
  | wrote count =>
      cases moves with
      | @wrote uid bytes _ strand some fits =>
          have wrote : { channel with strand := .writing uid (bytes.drop count) }.Closes starved
              died := by
            apply closes.goOn <;> simp [strand]
          simpa [made] using wrote
  | refused fault =>
      cases moves with
      | refused strand _ =>
          simpa [made] using closes.leave (by simp [strand]) _ channel.operations
  | shut =>
      cases moves with
      | @shut outcome strand =>
          have ended : { channel with strand := .ended }.Closes starved died := by
            apply closes.goOn <;> simp [strand]
          have shut : { channel with
              strand := .ended, endings := channel.endings ++ [outcome] }.Closes starved died :=
            ended.keep rfl rfl rfl rfl
          simpa [made] using shut

end Closes

end Channel

namespace Session

open Channel

variable {H : Type}

/-- Whether the read loop has panicked. -/
def starved (session : Session H) : Bool := session.past.any Made.starves

/-- Whether the strand has panicked. -/
def died (session : Session H) : Bool := session.past.any Made.dies

theorem closes_of_step {session after : Session H} {move : Move H} (attends : session.Attends)
    (closes : session.channel.Closes session.starved session.died)
    (stepped : session.step move = some after) : after.channel.Closes after.starved after.died := by
  obtain ⟨moves, recorded⟩ := moves_of_step stepped
  have next := closes.moves moves fun died => attends.of_died (died ▸ stepped)
  unfold starved died
  simp only [recorded, List.any_append, List.any_cons, List.any_nil, Bool.or_false]
  exact next

theorem closes_of_run {config : Config} {codec : Codec} {moves : List (Move H)}
    {session : Session H} (ran : (fresh config codec).run moves = some session) :
    session.Attends ∧ session.channel.Closes session.starved session.died := by
  apply run_maintains (motive := fun session =>
    session.Attends ∧ session.channel.Closes session.starved session.died) _ _ ran
  · rintro session after move ⟨attends, closes⟩ stepped
    exact ⟨attends.step stepped, closes_of_step attends closes stepped⟩
  · exact ⟨fun impossible => (nomatch impossible), Closes.fresh config codec⟩

/-- **An open channel has lost a task exactly if that task has panicked.** It is closed exactly
if its tasks have been told to stop, and so it is when a task has returned; while it is not
closed, its read loop is over exactly if it could not have its buffer, and its strand exactly if
a handler died. -/
theorem gone_iff_panicked (config : Config) (codec : Codec) {moves : List (Move H)}
    {session : Session H} (ran : (fresh config codec).run moves = some session) :
    (session.channel.state = .closed ↔ session.channel.cancelled = true) ∧
      (session.channel.state ≠ .closed →
        (session.channel.reader = .ended ↔ session.starved = true) ∧
        (session.channel.strand.isOver = true ↔ session.died = true)) := by
  obtain ⟨_, closes⟩ := closes_of_run ran
  refine ⟨closes.told, fun isOpen => ⟨closes.reader isOpen, ?_⟩⟩
  rw [← closes.strand isOpen]
  cases strand : session.channel.strand with
  | ended => exact absurd (closes.left (by rw [strand]; rfl)) isOpen
  | _ => simp [Strand.isOver]

/-- A read loop that cannot have its buffer, and a strand whose handler returns: of the two tasks of
the open channel, the first is over and the second is not. -/
theorem gone_iff_panicked_of_greedy_buffer :
    let moves : List (Move Nat) :=
      [.act (.bind .all 7), .act (.start (.ok ())), .readerTurn, .act (.deliver { uid := ⟨1⟩ }),
        .strandTurn, .call, .returned, .strandTurn]
    ∃ session, (fresh { readBufferSize := 9223372036854775808 } .default).run moves = some session ∧
      session.channel.state = .reading ∧ session.channel.cancelled = false ∧
      session.channel.reader = .ended ∧ session.channel.strand.isOver = false := by
  intro moves
  have possible : ((fresh { readBufferSize := 9223372036854775808 } .default).run moves).isSome =
      true := by decide +kernel
  obtain ⟨session, ran⟩ := Option.isSome_iff_exists.mp possible
  have reading := of_run_all ran (fun session => session.channel.state = .reading)
    (by decide +kernel)
  have starved := of_run_all ran (fun session => session.starved = true) (by decide +kernel)
  have died := of_run_all ran (fun session => session.died = false) (by decide +kernel)
  have isOpen : session.channel.state ≠ .closed := by
    rw [reading]
    decide
  obtain ⟨told, gone⟩ := gone_iff_panicked _ .default ran
  obtain ⟨reader, strand⟩ := gone isOpen
  refine ⟨session, ran, reading, ?_, reader.mpr starved, ?_⟩
  · exact Bool.eq_false_iff.mpr (mt told.mpr isOpen)
  · exact Bool.eq_false_iff.mpr fun isOver => Bool.eq_false_iff.mp died (strand.mp isOver)

/-- **A handler that dies leaves the channel open without a strand.** Bytes go on being read, and
what is sent or delivered from then on waits for nobody. -/
theorem open_without_strand_of_death :
    let frame := (Frame.mk 1 0 0 []).bytes
    let moves : List (Move Nat) :=
      [.act (.bind .all 7), .act (.start (.ok ())), .received frame, .readerTurn, .readerTurn,
        .strandTurn, .call, .died, .received frame, .readerTurn, .readerTurn,
        .act (.send { uid := ⟨2⟩ })]
    ∃ session, (fresh {} .default).run moves = some session ∧
      session.channel.strand.isOver = true ∧ session.channel.state = .reading ∧
      session.channel.cancelled = false ∧ session.channel.bus.queue.length = 1 ∧
      session.channel.operations = [] := by
  intro frame moves
  have possible : ((fresh {} .default).run moves).isSome = true := by decide +kernel
  obtain ⟨session, ran⟩ := Option.isSome_iff_exists.mp possible
  refine ⟨session, ran, ?_⟩
  exact of_run_all ran (fun session => session.channel.strand.isOver = true ∧
    session.channel.state = .reading ∧ session.channel.cancelled = false ∧
    session.channel.bus.queue.length = 1 ∧ session.channel.operations = []) (by decide +kernel)

end Session

end EventTransport
