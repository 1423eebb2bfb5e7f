import EventTransport.Channel.Reading
import EventTransport.Channel.Strand

/-!
Contract: a channel among an application, a stream and handlers that do as they like.

Owns:
- `Channel.Act` and `Channel.Move`, what an application can do to a channel, and what its tasks can
  do with the answers of a stream;
- `Session`, a channel with the record of what was done, `Session.step` and `Session.run`;
- what a record tells: the bytes read, the events dispatched, the handlers called;
- `Channel.Moves`, every step spelled out.

Any order of moves in which each is possible is a run, so a run is any interleaving of both tasks,
the application and the stream. A handler is called in one move and returns or dies in another. What
handlers do meanwhile are acts, as what the application does; no other move of the strand comes
between.

Does not own: what the peer does with the bytes it gets.
-/

namespace EventTransport

namespace Channel

/-- What is done to a channel by an application, or by a handler. -/
inductive Act (H : Type) where
  | start (lowLatency : Except StreamFault Unit)
  | send (event : Event)
  | stop
  | bind (key : Subscription) (handler : H)
  | unbind (key : Subscription)
  | reset
  /-- An event put into the queue of the bus by hand. -/
  | deliver (event : Event)
  /-- An event taken from the queue of the bus by hand. -/
  | dispatch

/-- One move of a session. -/
inductive Move (H : Type) where
  | act (act : Act H)
  /-- A join comes back. -/
  | joined
  /-- The read loop takes a step that needs nobody. -/
  | readerTurn
  /-- The stream gives bytes to the read loop. -/
  | received (bytes : Bytes)
  /-- The stream has no more bytes. -/
  | finished
  /-- The stream fails to give bytes. -/
  | failed (fault : StreamFault)
  /-- The read loop finds that it is told to stop. -/
  | told
  /-- The strand takes a step that needs nobody. -/
  | strandTurn
  /-- The strand calls a handler. -/
  | call
  /-- The handler that was called returns. -/
  | returned
  /-- The handler that was called dies. -/
  | died
  /-- The stream takes that many bytes from the strand. -/
  | wrote (count : Nat)
  /-- The stream fails to take bytes, or to pass on those that it took. -/
  | refused (fault : StreamFault)
  /-- The stream has been shut down by the strand. -/
  | shut

variable {H : Type}

/-- The channel after an act. -/
def perform (channel : Channel H) : Act H → Channel H
  | .start lowLatency => (channel.start lowLatency).channel
  | .send event => channel.send event
  | .stop => channel.stop
  | .bind key handler => { channel with bus := channel.bus.bind key handler }
  | .unbind key => { channel with bus := (channel.bus.unbind key).1 }
  | .reset => { channel with bus := channel.bus.reset }
  | .deliver event => channel.deliver event
  | .dispatch =>
    match channel.bus.take? with
    | none => channel
    | some (_, _, bus) => { channel with bus := bus }

namespace Move

/-- Whether a move leaves the queue of the bus to the tasks, and the strand alive. -/
def isRegular : Move H → Bool
  | act (.deliver _) => false
  | act .dispatch => false
  | died => false
  | _ => true

/-- Whether it is the strand that moves, or a handler by which it ends. -/
def isOfStrand : Move H → Bool
  | strandTurn => true
  | call => true
  | died => true
  | wrote _ => true
  | refused _ => true
  | shut => true
  | _ => false

/-- Whether a handler is at work before a move and after it. -/
def Attended (move : Move H) (before after : Bool) : Prop :=
  match move with
  | call => before = false ∧ after = true
  | returned => before = true ∧ after = false
  | died => before = true ∧ after = false
  | strandTurn => before = false ∧ after = false
  | wrote _ => before = false ∧ after = false
  | refused _ => before = false ∧ after = false
  | shut => before = false ∧ after = false
  | _ => after = before

/-- Whether the channel is stopped. -/
def isStop : Move H → Bool
  | act .stop => true
  | _ => false

/-- Whether it is the read loop that moves, without having been told to stop. -/
@[simp] def isReading : Move H → Bool
  | readerTurn => true
  | finished => true
  | failed _ => true
  | _ => false

end Move

/-- A move that was made. -/
structure Made (H : Type) where
  before : Channel H
  move : Move H
  after : Channel H

namespace Made

/-- The bytes that were read. -/
@[simp] def bytes (made : Made H) : Bytes :=
  match made.move with
  | .received bytes => bytes
  | _ => []

/-- The event that the strand took from the queue, with the handlers it goes to. -/
@[simp] def dispatched (made : Made H) : List (Event × List H) :=
  match made.move, made.after.strand with
  | .strandTurn, .calling _ event handlers => [(event, handlers)]
  | _, _ => []

/-- The handler that was called, and the event it was called with. -/
@[simp] def called (made : Made H) : List (Event × H) :=
  match made.move, made.before.strand with
  | .call, .calling _ event (handler :: _) => [(event, handler)]
  | _, _ => []

/-- Whether the channel was closed by this. -/
def closes (made : Made H) : Bool :=
  made.before.state ≠ .closed && made.after.state = .closed

end Made

/-- Every kind of step, with what it takes and what it leaves. -/
inductive Moves (channel : Channel H) : Move H → Channel H → Prop where
  | act (act : Act H) : Moves channel (.act act) (channel.perform act)
  | joined (tasksOver : channel.joinable = true → channel.isFinished = true) :
    Moves channel .joined channel.join.2
  /-- The read loop cannot have the buffer it is to begin with. -/
  | starved {buffer : ReadBuffer} (reader : channel.reader = .awaiting buffer)
    (greedy : greatestBuffer < channel.config.readBufferSize) :
    Moves channel .readerTurn (channel.dropReader (.error .taskJoin))
  | invalid {buffer : ReadBuffer} {error : Error} (reader : channel.reader = .decoding buffer)
    (decoded : channel.codec.decode buffer.held = .error error) :
    Moves channel .readerTurn (channel.endReading (.error error))
  | unfinished {buffer : ReadBuffer} (reader : channel.reader = .decoding buffer)
    (decoded : channel.codec.decode buffer.held = .ok none) :
    Moves channel .readerTurn
      ({ channel with reader := .awaiting (channel.makeRoom buffer) }.enter .reading)
  | decoded {buffer : ReadBuffer} {event : Event} {count : Nat}
    (reader : channel.reader = .decoding buffer)
    (decoded : channel.codec.decode buffer.held = .ok (some (event, count))) :
    Moves channel .readerTurn
      ({ channel with reader := .decoding (buffer.drop count) }.deliver event)
  | received {buffer : ReadBuffer} {bytes : Bytes} (reader : channel.reader = .awaiting buffer)
    (some : bytes ≠ []) (fits : bytes.length ≤ buffer.room) :
    Moves channel (.received bytes)
      ({ channel with reader := .decoding (buffer.append bytes) }.enter .dispatching)
  | finished {buffer : ReadBuffer} (reader : channel.reader = .awaiting buffer) :
    Moves channel .finished (channel.endReading (.ok ()))
  | failed {buffer : ReadBuffer} (reader : channel.reader = .awaiting buffer)
    (fault : StreamFault) :
    Moves channel (.failed fault) (channel.endReading (.error (.stream fault)))
  | told {buffer : ReadBuffer} (reader : channel.reader = .awaiting buffer)
    (cancelled : channel.cancelled = true) :
    Moves channel .told (channel.endReading (.ok ()))
  | left (strand : channel.strand = .between .running) (cancelled : channel.cancelled = true) :
    Moves channel .strandTurn (channel.leave (.ok ()))
  | dispatched {stage : StrandStage} {later : List Operation} {event : Event} {handlers : List H}
    {bus : LocalBus H} (strand : channel.strand = .between stage)
    (untold : stage = .running → channel.cancelled = false)
    (operations : channel.operations = .dispatch :: later)
    (taken : channel.bus.take? = some (event, handlers, bus)) :
    Moves channel .strandTurn
      { channel with operations := later, bus := bus, strand := .calling stage event handlers }
  | foundNothing {stage : StrandStage} {later : List Operation}
    (strand : channel.strand = .between stage)
    (untold : stage = .running → channel.cancelled = false)
    (operations : channel.operations = .dispatch :: later) (nothing : channel.bus.take? = none) :
    Moves channel .strandTurn { channel with operations := later, strand := .between stage }
  | encoded {event : Event} {later : List Operation} {bytes : Bytes}
    (strand : channel.strand = .between .running) (untold : channel.cancelled = false)
    (operations : channel.operations = .write event :: later)
    (framed : channel.codec.encode event = .ok bytes) :
    Moves channel .strandTurn
      { channel with operations := later, strand := .writing event.uid bytes }
  | unencodable {event : Event} {later : List Operation} {error : Error}
    (strand : channel.strand = .between .running) (untold : channel.cancelled = false)
    (operations : channel.operations = .write event :: later)
    (framed : channel.codec.encode event = .error error) :
    Moves channel .strandTurn ({ channel with operations := later }.leave (.error error))
  | discarded {outcome : Outcome} {event : Event} {later : List Operation}
    (strand : channel.strand = .between (.draining outcome))
    (operations : channel.operations = .write event :: later) :
    Moves channel .strandTurn { channel with operations := later }
  | emptied {outcome : Outcome} (strand : channel.strand = .between (.draining outcome))
    (operations : channel.operations = []) :
    Moves channel .strandTurn { channel with strand := .closing outcome }
  | handled {stage : StrandStage} {event : Event}
      (strand : channel.strand = .calling stage event []) :
    Moves channel .strandTurn { channel with strand := .between stage }
  | flushed {uid : Uid} (strand : channel.strand = .writing uid []) :
    Moves channel .strandTurn { channel with strand := .between .running }
  | called {stage : StrandStage} {event : Event} {handler : H} {handlers : List H}
    (strand : channel.strand = .calling stage event (handler :: handlers)) :
    Moves channel .call { channel with strand := .calling stage event handlers }
  | returned : Moves channel .returned channel
  | died : Moves channel .died channel.handlerDied
  | wrote {uid : Uid} {bytes : Bytes} {count : Nat} (strand : channel.strand = .writing uid bytes)
    (some : 0 < count) (fits : count ≤ bytes.length) :
    Moves channel (.wrote count) { channel with strand := .writing uid (bytes.drop count) }
  | refused {uid : Uid} {bytes : Bytes} (strand : channel.strand = .writing uid bytes)
    (fault : StreamFault) :
    Moves channel (.refused fault) (channel.leave (.error (.stream fault)))
  | shut {outcome : Outcome} (strand : channel.strand = .closing outcome) :
    Moves channel .shut
      { channel with strand := .ended, endings := channel.endings ++ [outcome] }

theorem awaiting_of_readTurn {channel : Channel H} {room : Nat}
    (turn : channel.readTurn = .read room) :
    ∃ buffer, channel.reader = .awaiting buffer ∧ buffer.room = room := by
  unfold readTurn at turn
  split at turn
  · cases turn
  · cases turn
  · split at turn
    · cases turn
    · cases turn
      exact ⟨_, by assumption, rfl⟩
  · cases turn

theorem moves_of_readTurn {channel after : Channel H} {warnings : List Warning}
    (turn : channel.readTurn = .moved after warnings) : Moves channel .readerTurn after := by
  unfold readTurn at turn
  split at turn
  · cases turn
  · cases turn
  · rename_i buffer reader
    split at turn
    · rename_i greedy
      cases turn
      exact .starved reader greedy
    · cases turn
  · rename_i buffer reader
    change ReadTurn.moved (channel.decodeTurn buffer).1 _ = _ at turn
    cases turn
    unfold decodeTurn
    split
    · rename_i error decoded
      exact .invalid reader decoded
    · rename_i decoded
      exact .unfinished reader decoded
    · rename_i event count decoded
      exact .decoded reader decoded

theorem moves_of_dispatchNext {channel : Channel H} {stage : StrandStage} {later : List Operation}
    (strand : channel.strand = .between stage)
    (untold : stage = .running → channel.cancelled = false)
    (operations : channel.operations = .dispatch :: later) :
    Moves channel .strandTurn ({ channel with operations := later }.dispatchNext stage) := by
  unfold dispatchNext
  split
  · rename_i nothing
    exact .foundNothing strand untold operations nothing
  · rename_i event handlers bus taken
    exact .dispatched strand untold operations taken

/-- A strand that executes operations needs nobody to begin one. -/
theorem runNext_eq (channel : Channel H) :
    channel.runNext = .rest ∨ ∃ after warnings, channel.runNext = .moved after warnings := by
  unfold runNext
  split
  · exact .inl rfl
  · exact .inr ⟨_, _, rfl⟩
  · exact .inr ⟨_, _, rfl⟩

theorem moves_of_runNext {channel after : Channel H} {warnings : List Warning}
    (strand : channel.strand = .between .running) (untold : channel.cancelled = false)
    (turn : channel.runNext = .moved after warnings) : Moves channel .strandTurn after := by
  unfold runNext at turn
  split at turn
  · cases turn
  · rename_i later operations
    cases turn
    exact moves_of_dispatchNext strand (fun _ => untold) operations
  · rename_i event later operations
    change StrandTurn.moved ({ channel with operations := later }.writeNext event).1 _ = _ at turn
    cases turn
    unfold writeNext
    split
    · rename_i error framed
      exact .unencodable strand untold operations framed
    · rename_i bytes framed
      exact .encoded strand untold operations framed

theorem moves_of_drainNext {channel : Channel H} {outcome : Outcome}
    (strand : channel.strand = .between (.draining outcome)) :
    Moves channel .strandTurn (channel.drainNext outcome) := by
  unfold drainNext
  split
  · rename_i operations
    exact .emptied strand operations
  · rename_i later operations
    exact moves_of_dispatchNext strand (fun running => nomatch running) operations
  · rename_i event later operations
    exact .discarded strand operations

theorem moves_of_strandTurn {channel after : Channel H} {warnings : List Warning}
    (turn : channel.strandTurn = .moved after warnings) : Moves channel .strandTurn after := by
  unfold strandTurn at turn
  split at turn
  case h_2 strand =>
    split at turn
    · rename_i cancelled
      cases turn
      exact .left strand cancelled
    · rename_i untold
      exact moves_of_runNext strand (by simpa using untold) turn
  case h_3 outcome strand =>
    cases turn
    exact moves_of_drainNext strand
  case h_4 stage event strand =>
    cases turn
    exact .handled strand
  case h_6 uid strand =>
    cases turn
    exact .flushed strand
  all_goals cases turn

theorem moves_of_call {channel after : Channel H} {handler : H} {event : Event}
    (turn : channel.strandTurn = .call handler event after) : Moves channel .call after := by
  unfold strandTurn at turn
  split at turn
  case h_5 stage event handler handlers strand =>
    cases turn
    exact .called strand
  case h_2 strand =>
    split at turn
    · cases turn
    · rcases channel.runNext_eq with nothing | ⟨_, _, moved⟩ <;> simp_all only [reduceCtorEq]
  all_goals cases turn

theorem writing_of_strandTurn {channel : Channel H} {bytes : Bytes}
    (turn : channel.strandTurn = .write bytes) :
    bytes ≠ [] ∧ ∃ uid, channel.strand = .writing uid bytes := by
  unfold strandTurn at turn
  split at turn
  case h_7 uid byte rest strand =>
    cases turn
    exact ⟨List.cons_ne_nil byte rest, uid, strand⟩
  case h_2 strand =>
    split at turn
    · cases turn
    · rcases channel.runNext_eq with nothing | ⟨_, _, moved⟩ <;> simp_all only [reduceCtorEq]
  all_goals cases turn

theorem closing_of_strandTurn {channel : Channel H} (turn : channel.strandTurn = .shutdown) :
    ∃ outcome, channel.strand = .closing outcome := by
  unfold strandTurn at turn
  split at turn
  case h_8 outcome strand => exact ⟨outcome, strand⟩
  case h_2 strand =>
    split at turn
    · cases turn
    · rcases channel.runNext_eq with nothing | ⟨_, _, moved⟩ <;> simp_all only [reduceCtorEq]
  all_goals cases turn

@[simp] theorem config_post (channel : Channel H) (operation : Operation) :
    (channel.post operation).config = channel.config := by
  unfold post
  split <;> rfl

@[simp] theorem codec_post (channel : Channel H) (operation : Operation) :
    (channel.post operation).codec = channel.codec := by
  unfold post
  split <;> rfl

@[simp] theorem strand_post (channel : Channel H) (operation : Operation) :
    (channel.post operation).strand = channel.strand := by
  unfold post
  split <;> rfl

@[simp] theorem reader_post (channel : Channel H) (operation : Operation) :
    (channel.post operation).reader = channel.reader := by
  unfold post
  split <;> rfl

/-- Starting has an effect only on a channel that was never started. -/
theorem absent_of_starts {channel : Channel H} (starts : channel.starts = .ok true) :
    channel.strand = .absent := by
  unfold Channel.starts at starts
  split at starts
  · cases starts
  · split at starts
    · cases starts
    · rename_i notPresent
      cases strand : channel.strand with
      | absent => rfl
      | _ => exact absurd (by rw [strand]; rfl) notPresent

/-- No act changes what a channel was made with, nor the strand once it has begun. -/
theorem kept_by_perform (channel : Channel H) (act : Act H) :
    (channel.perform act).config = channel.config ∧ (channel.perform act).codec = channel.codec ∧
      (channel.strand ≠ .absent → (channel.perform act).strand = channel.strand) := by
  cases act with
  | start lowLatency =>
      simp only [perform, Channel.start]
      split
      · exact ⟨rfl, rfl, fun _ => rfl⟩
      · exact ⟨rfl, rfl, fun _ => rfl⟩
      · rename_i starts
        exact ⟨rfl, rfl, fun present => absurd (absent_of_starts starts) present⟩
  | send event =>
      simp only [perform, Channel.send]
      split <;> simp
  | deliver event => simp [perform, Channel.deliver]
  | dispatch =>
      simp only [perform]
      split <;> exact ⟨rfl, rfl, fun _ => rfl⟩
  | _ => exact ⟨rfl, rfl, fun _ => rfl⟩

theorem Moves.config_eq {before after : Channel H} {move : Move H}
    (moves : Moves before move after) :
    after.config = before.config := by
  cases moves with
  | act act => exact (kept_by_perform before act).1
  | joined tasksOver =>
      unfold Channel.join
      split <;> rfl
  | decoded reader decoded => exact config_post _ _
  | _ => rfl

theorem Moves.codec_eq {before after : Channel H} {move : Move H}
    (moves : Moves before move after) :
    after.codec = before.codec := by
  cases moves with
  | act act => exact (kept_by_perform before act).2.1
  | joined tasksOver =>
      unfold Channel.join
      split <;> rfl
  | decoded reader decoded => exact codec_post _ _
  | _ => rfl

/-- Only moves of the strand change the strand once it has begun. -/
theorem Moves.strand_eq {before after : Channel H} {move : Move H} (moves : Moves before move after)
    (aside : move.isOfStrand = false) (present : before.strand ≠ .absent) :
    after.strand = before.strand := by
  cases moves with
  | act act => exact (kept_by_perform before act).2.2 present
  | joined tasksOver =>
      unfold Channel.join
      split <;> rfl
  | decoded reader decoded => exact strand_post _ _
  | starved => rfl
  | invalid => rfl
  | unfinished => rfl
  | received => rfl
  | finished => rfl
  | failed => rfl
  | told => rfl
  | returned => rfl
  | _ => cases aside

/-- What the strand takes from the queue goes to the handlers that are bound for it then. -/
theorem handlers_of_dispatched {before after : Channel H} {move : Move H}
    (moves : Moves before move after) :
    ∀ entry ∈ (Made.mk before move after).dispatched,
      entry.2 = before.bus.handlersFor entry.1 := by
  intro entry isEntry
  cases move with
  | strandTurn =>
      cases moves with
      | dispatched strand untold operations taken =>
          cases List.mem_singleton.mp isEntry
          exact (LocalBus.take?_eq_some_iff.mp taken).2.2
      | discarded strand operations => simp [strand] at isEntry
      | _ => cases isEntry
  | _ => cases isEntry

end Channel

/-- A channel, and what has been done. -/
structure Session (H : Type) where
  channel : Channel H
  /-- Whether a handler is at work that the strand has called. -/
  atWork : Bool := false
  past : List (Channel.Made H) := []

namespace Session

open Channel

variable {H : Type}

/-- A channel that nothing has been done to. -/
def fresh (config : Config) (codec : Codec) : Session H :=
  { channel := { config := config, codec := codec } }

/-- The bytes read so far. -/
def bytesRead (session : Session H) : Bytes := session.past.flatMap Made.bytes

/-- The events dispatched by the strand, each with the handlers it goes to. -/
def dispatched (session : Session H) : List (Event × List H) := session.past.flatMap Made.dispatched

/-- The calls of handlers by the strand. -/
def calls (session : Session H) : List (Event × H) := session.past.flatMap Made.called

/-- Whether the channel was first closed by the end of the stream, by its failure, or by a frame
that is not valid. -/
def closedByReader (session : Session H) : Bool :=
  (session.past.find? Made.closes).any fun made => made.move.isReading

/-- Whether the channel was first closed by an application, or by a handler that stopped it. -/
def closedByStop (session : Session H) : Bool :=
  (session.past.find? Made.closes).any fun made => made.move.isStop

/-- A move made, after which a handler is at work or not. -/
def record (session : Session H) (move : Move H) (after : Channel H) (atWork : Bool) : Session H :=
  { channel := after, atWork := atWork, past := session.past ++ [⟨session.channel, move, after⟩] }

/-- A move of the read loop that waits for bytes, if it does. -/
def whileReading (session : Session H) (move : Move H) (after : Nat → Option (Channel H)) :
    Option (Session H) :=
  match session.channel.readTurn with
  | .read room => (after room).map fun channel => session.record move channel session.atWork
  | _ => none

/-- One move, if it is possible. -/
def step (session : Session H) (move : Move H) : Option (Session H) :=
  let channel := session.channel
  match move with
  | .act act => some (session.record move (channel.perform act) session.atWork)
  | .joined =>
    if channel.joinable && !channel.isFinished then none
    else some (session.record move channel.join.2 session.atWork)
  | .readerTurn =>
    match channel.readTurn with
    | .moved after _ => some (session.record move after session.atWork)
    | _ => none
  | .received bytes =>
    session.whileReading move fun room =>
      if bytes ≠ [] ∧ bytes.length ≤ room then some (channel.received bytes) else none
  | .finished => session.whileReading move fun _ => some channel.readEnded
  | .failed fault => session.whileReading move fun _ => some (channel.readFailed fault).1
  | .told =>
    session.whileReading move fun _ => if channel.cancelled then some channel.readEnded else none
  | .strandTurn =>
    match session.atWork, channel.strandTurn with
    | false, .moved after _ => some (session.record move after false)
    | _, _ => none
  | .call =>
    match session.atWork, channel.strandTurn with
    | false, .call _ _ after => some (session.record move after true)
    | _, _ => none
  | .returned => if session.atWork then some (session.record move channel false) else none
  | .died => if session.atWork then some (session.record move channel.handlerDied false) else none
  | .wrote count =>
    match session.atWork, channel.strandTurn with
    | false, .write bytes =>
      if 0 < count ∧ count ≤ bytes.length then
        some (session.record move (channel.wrote count) false)
      else none
    | _, _ => none
  | .refused fault =>
    match session.atWork, channel.strand with
    | false, .writing _ _ => some (session.record move (channel.writeFailed fault).1 false)
    | _, _ => none
  | .shut =>
    match session.atWork, channel.strandTurn with
    | false, .shutdown => some (session.record move channel.writerShut false)
    | _, _ => none

/-- Moves one after the other, if they are possible. -/
def run (session : Session H) : List (Move H) → Option (Session H)
  | [] => some session
  | move :: moves => (session.step move).bind fun after => after.run moves

theorem step_whileReading {session after : Session H} {move : Move H}
    {answer : Nat → Option (Channel H)}
    (stepped : session.whileReading move answer = some after) :
    ∃ buffer, session.channel.reader = .awaiting buffer ∧
      answer buffer.room = some after.channel ∧
      after = session.record move after.channel session.atWork := by
  unfold whileReading at stepped
  split at stepped
  · rename_i room turn
    obtain ⟨buffer, reader, rfl⟩ := awaiting_of_readTurn turn
    obtain ⟨channel, answered, rfl⟩ := Option.map_eq_some_iff.mp stepped
    exact ⟨buffer, reader, answered, rfl⟩
  · cases stepped

theorem run_append (session : Session H) (moves further : List (Move H)) :
    session.run (moves ++ further) = (session.run moves).bind fun middle => middle.run further := by
  induction moves generalizing session with
  | nil => rfl
  | cons move moves inductionHypothesis =>
      show (session.step move).bind _ = ((session.step move).bind _).bind _
      rw [Option.bind_assoc]
      exact congrArg _ (funext fun middle => inductionHypothesis middle)

/-- Every step is of one of the kinds above, and it is recorded. -/
theorem moves_of_step {session after : Session H} {move : Move H}
    (stepped : session.step move = some after) :
    Moves session.channel move after.channel ∧
      after.past = session.past ++ [⟨session.channel, move, after.channel⟩] := by
  cases move <;> dsimp only [step] at stepped
  case act act =>
    cases stepped
    exact ⟨.act act, rfl⟩
  case joined =>
    split at stepped
    · cases stepped
    · rename_i tasksOver
      cases stepped
      refine ⟨.joined fun joinable => ?_, rfl⟩
      simpa [joinable] using tasksOver
  case readerTurn =>
    split at stepped
    · rename_i turn
      cases stepped
      exact ⟨moves_of_readTurn turn, rfl⟩
    · cases stepped
  case received bytes =>
    obtain ⟨buffer, reader, answered, recorded⟩ := step_whileReading stepped
    split at answered
    · rename_i fits
      have moved := Option.some.inj answered
      unfold received at moved
      rw [reader] at moved
      rw [recorded, ← moved]
      exact ⟨.received reader fits.1 fits.2, rfl⟩
    · cases answered
  case finished =>
    obtain ⟨buffer, reader, answered, recorded⟩ := step_whileReading stepped
    rw [recorded, ← Option.some.inj answered]
    exact ⟨.finished reader, rfl⟩
  case failed fault =>
    obtain ⟨buffer, reader, answered, recorded⟩ := step_whileReading stepped
    rw [recorded, ← Option.some.inj answered]
    exact ⟨.failed reader fault, rfl⟩
  case told =>
    obtain ⟨buffer, reader, answered, recorded⟩ := step_whileReading stepped
    split at answered
    · rename_i cancelled
      rw [recorded, ← Option.some.inj answered]
      exact ⟨.told reader cancelled, rfl⟩
    · cases answered
  case strandTurn =>
    split at stepped
    · rename_i turn
      cases stepped
      exact ⟨moves_of_strandTurn turn, rfl⟩
    · cases stepped
  case call =>
    split at stepped
    · rename_i turn
      cases stepped
      exact ⟨moves_of_call turn, rfl⟩
    · cases stepped
  case returned =>
    split at stepped
    · cases stepped
      exact ⟨.returned, rfl⟩
    · cases stepped
  case died =>
    split at stepped
    · cases stepped
      exact ⟨.died, rfl⟩
    · cases stepped
  case wrote count =>
    split at stepped
    · rename_i bytes turn
      split at stepped
      · rename_i fits
        cases stepped
        obtain ⟨_, uid, strand⟩ := writing_of_strandTurn turn
        refine ⟨?_, rfl⟩
        show Moves session.channel (.wrote count) (session.channel.wrote count)
        unfold Channel.wrote
        rw [strand]
        exact .wrote strand fits.1 fits.2
      · cases stepped
    · cases stepped
  case refused fault =>
    split at stepped
    · rename_i uid bytes strand
      cases stepped
      refine ⟨?_, rfl⟩
      show Moves session.channel (.refused fault) (session.channel.writeFailed fault).1
      unfold Channel.writeFailed
      rw [strand]
      exact .refused strand fault
    · cases stepped
  case shut =>
    split at stepped
    · rename_i turn
      cases stepped
      obtain ⟨outcome, strand⟩ := closing_of_strandTurn turn
      refine ⟨?_, rfl⟩
      show Moves session.channel .shut session.channel.writerShut
      unfold Channel.writerShut
      rw [strand]
      exact .shut strand
    · cases stepped

/-- Every move leaves a handler at work or not, as its kind says; the strand waits for one
that is. -/
theorem attended_of_step {session after : Session H} {move : Move H}
    (stepped : session.step move = some after) : move.Attended session.atWork after.atWork := by
  cases move <;> dsimp only [step] at stepped
  case act =>
    cases stepped
    rfl
  case joined =>
    split at stepped
    · cases stepped
    · cases stepped
      rfl
  case readerTurn =>
    split at stepped
    · cases stepped
      rfl
    · cases stepped
  case received | finished | failed | told =>
    obtain ⟨buffer, reader, answered, recorded⟩ := step_whileReading stepped
    rw [recorded]
    rfl
  case returned | died =>
    split at stepped
    · rename_i atWork
      cases stepped
      exact ⟨atWork, rfl⟩
    · cases stepped
  case wrote count =>
    split at stepped
    · rename_i atWork turn
      split at stepped
      · cases stepped
        exact ⟨atWork, rfl⟩
      · cases stepped
    · cases stepped
  all_goals
    split at stepped
    · rename_i atWork turn
      cases stepped
      exact ⟨atWork, rfl⟩
    · cases stepped

/-- A handler is at work after a move if it was called by it, or if it was at work and goes on. -/
theorem atWork_of_step {session after : Session H} {move : Move H}
    (stepped : session.step move = some after) (atWork : after.atWork = true) :
    move = .call ∨ move.isOfStrand = false ∧ session.atWork = true := by
  have attended := attended_of_step stepped
  cases move with
  | call => exact .inl rfl
  | returned | died | strandTurn | wrote | refused | shut =>
      rw [attended.2] at atWork
      cases atWork
  | _ => exact .inr ⟨rfl, attended.symm.trans atWork⟩

/-- What every allowed step keeps, a run of allowed moves keeps. -/
theorem run_keeps {motive : Session H → Prop} {allowed : Move H → Prop}
    (step_keeps : ∀ {session after move}, motive session → allowed move →
      session.step move = some after → motive after)
    {session after : Session H} {moves : List (Move H)} (before : motive session)
    (allAllowed : ∀ move ∈ moves, allowed move) (ran : session.run moves = some after) :
    motive after := by
  induction moves generalizing session with
  | nil =>
      cases ran
      exact before
  | cons move moves inductionHypothesis =>
      obtain ⟨middle, stepped, later⟩ := Option.bind_eq_some_iff.mp ran
      have between := step_keeps before (allAllowed move List.mem_cons_self) stepped
      exact inductionHypothesis between
        (fun other member => allAllowed other (List.mem_cons_of_mem move member)) later

/-- What every step keeps, every run keeps. -/
theorem run_maintains {motive : Session H → Prop}
    (step_keeps : ∀ {session after move}, motive session → session.step move = some after →
      motive after)
    {session after : Session H} {moves : List (Move H)} (before : motive session)
    (ran : session.run moves = some after) : motive after :=
  run_keeps (fun before _ stepped => step_keeps before stepped) before (fun _ _ => trivial) ran

/-- What holds of the end of a run, as it is evaluated. -/
theorem of_run_all {session after : Session H} {moves : List (Move H)}
    (ran : session.run moves = some after) (observed : Session H → Prop) [DecidablePred observed]
    (holds : (session.run moves).all fun reached => decide (observed reached)) :
    observed after := by
  rw [ran] at holds
  exact of_decide_eq_true holds

/-- The strand waits for a handler that is at work. -/
def Attends (session : Session H) : Prop :=
  session.atWork = true →
    ∃ stage event handlers, session.channel.strand = .calling stage event handlers

theorem Attends.step {session after : Session H} {move : Move H} (attends : session.Attends)
    (stepped : session.step move = some after) : after.Attends := by
  intro atWork
  obtain ⟨moves, _⟩ := moves_of_step stepped
  rcases atWork_of_step stepped atWork with rfl | ⟨aside, before⟩
  · generalize after.channel = later at moves
    cases moves with
    | called strand => exact ⟨_, _, _, rfl⟩
  · obtain ⟨stage, event, handlers, strand⟩ := attends before
    refine ⟨stage, event, handlers, ?_⟩
    rw [moves.strand_eq aside (by rw [strand]; exact fun impossible => nomatch impossible), strand]

/-- It is a handler at work that dies. -/
theorem Attends.of_died {session after : Session H} (attends : session.Attends)
    (stepped : session.step .died = some after) :
    ∃ stage event handlers, session.channel.strand = .calling stage event handlers := by
  apply attends
  dsimp only [Session.step] at stepped
  split at stepped
  · assumption
  · cases stepped

/-- Everything on record is a step of one of the kinds above. -/
theorem moves_of_mem_past {config : Config} {codec : Codec} {moves : List (Move H)}
    {session : Session H} (ran : (fresh config codec).run moves = some session) :
    ∀ made ∈ session.past, Moves made.before made.move made.after := by
  apply run_maintains (motive := fun session =>
    ∀ made ∈ session.past, Moves made.before made.move made.after) _ _ ran
  · intro session after move before stepped
    obtain ⟨moved, recorded⟩ := moves_of_step stepped
    rw [recorded]
    intro made member
    rcases List.mem_append.mp member with old | new
    · exact before made old
    · cases List.mem_singleton.mp new
      exact moved
  · intro made none
    cases none

end Session

end EventTransport
