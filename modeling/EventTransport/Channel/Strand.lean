import EventTransport.Channel.Basic

/-!
Contract: the strand of a channel.

Owns:
- `Channel.strandTurn`, what the strand does next;
- what it makes of the answer when it has called a handler or asked the stream to take bytes.

Operations are executed one at a time in the order of submission. Between two of them the strand
looks first whether it is told to stop; then, and after an event that cannot be framed or written,
it takes no more operations. Of those submitted before, it executes the dispatches and drops the
writes. In the end it shuts down its side of the stream.

Main statement: a strand that is over does nothing any more.

Does not own: running handlers, waiting for room in the stream.
-/

namespace EventTransport

namespace Channel

variable {H : Type}

/-- What the strand does next. -/
inductive StrandTurn (H : Type) where
  /-- Nothing, before an operation is submitted or the channel is closed, or ever again. -/
  | rest
  /-- A step that needs nobody. -/
  | moved (channel : Channel H) (warnings : List Warning)
  /-- A handler is called with an event; the channel is as the handler finds it. -/
  | call (handler : H) (event : Event) (channel : Channel H)
  /-- It asks the stream to take bytes. -/
  | write (bytes : Bytes)
  /-- It asks the stream to take no more. -/
  | shutdown

/-- The oldest event of the bus about to be handed to its handlers, if there is one. -/
def dispatchNext (channel : Channel H) (stage : StrandStage) : Channel H :=
  match channel.bus.take? with
  | none => { channel with strand := .between stage }
  | some (event, handlers, bus) =>
    { channel with bus := bus, strand := .calling stage event handlers }

/-- The channel closed by its strand, which goes on with what is left of its operations. -/
def leave (channel : Channel H) (outcome : Outcome) : Channel H :=
  { channel.close with accepting := false, strand := .between (.draining outcome) }

/-- An event about to be written, or the reason why it cannot be. -/
def writeNext (channel : Channel H) (event : Event) : Channel H × List Warning :=
  match channel.codec.encode event with
  | .error error => (channel.leave (.error error), [.writeFailed error event.uid])
  | .ok bytes => ({ channel with strand := .writing event.uid bytes }, [])

/-- The next operation of a strand that is not told to stop. -/
def runNext (channel : Channel H) : StrandTurn H :=
  match channel.operations with
  | [] => .rest
  | .dispatch :: later => .moved ({ channel with operations := later }.dispatchNext .running) []
  | .write event :: later =>
    let (after, warnings) := { channel with operations := later }.writeNext event
    .moved after warnings

/-- The next of the operations that are left at the end. -/
def drainNext (channel : Channel H) (outcome : Outcome) : Channel H :=
  match channel.operations with
  | [] => { channel with strand := .closing outcome }
  | .dispatch :: later => { channel with operations := later }.dispatchNext (.draining outcome)
  | .write _ :: later => { channel with operations := later }

/-- What the strand does next. -/
def strandTurn (channel : Channel H) : StrandTurn H :=
  match channel.strand with
  | .absent => .rest
  | .between .running =>
    if channel.cancelled then .moved (channel.leave (.ok ())) [] else channel.runNext
  | .between (.draining outcome) => .moved (channel.drainNext outcome) []
  | .calling stage _ [] => .moved { channel with strand := .between stage } []
  | .calling stage event (handler :: handlers) =>
    .call handler event { channel with strand := .calling stage event handlers }
  | .writing _ [] => .moved { channel with strand := .between .running } []
  | .writing _ (byte :: bytes) => .write (byte :: bytes)
  | .closing _ => .shutdown
  | .ended => .rest
  | .died => .rest

/-- The stream has taken some of the bytes. -/
def wrote (channel : Channel H) (count : Nat) : Channel H :=
  match channel.strand with
  | .writing uid bytes => { channel with strand := .writing uid (bytes.drop count) }
  | _ => channel

/-- The stream failed to take bytes. -/
def writeFailed (channel : Channel H) (fault : StreamFault) : Channel H × List Warning :=
  match channel.strand with
  | .writing uid _ =>
    (channel.leave (.error (.stream fault)), [.writeFailed (.stream fault) uid])
  | _ => (channel, [])

/-- The stream takes no more; the strand is over. -/
def writerShut (channel : Channel H) : Channel H :=
  match channel.strand with
  | .closing outcome =>
    { channel with strand := .ended, endings := channel.endings ++ [outcome] }
  | _ => channel

/-- A handler died, and the strand with it; the channel is not closed by that. -/
def handlerDied (channel : Channel H) : Channel H :=
  { channel with
    strand := .died
    operations := []
    accepting := false
    endings := channel.endings ++ [.error .taskJoin] }

/-- Whether the strand waits for an operation. -/
def isWaiting (channel : Channel H) : Bool :=
  match channel.strand with
  | .between .running => true
  | _ => false

/-- Whether the next step of the strand calls the compressor. -/
def compresses (channel : Channel H) : Bool :=
  match channel.strand, channel.operations with
  | .between .running, .write event :: _ => !channel.cancelled && channel.codec.compresses event
  | _, _ => false

@[simp] theorem state_leave (channel : Channel H) (outcome : Outcome) :
    (channel.leave outcome).state = .closed := rfl

end Channel

end EventTransport
