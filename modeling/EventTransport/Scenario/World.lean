import EventTransport.Bus.Subscriber
import EventTransport.Channel.Pipe
import EventTransport.Channel.Reading
import EventTransport.Channel.Strand
import EventTransport.Scenario.Script

/-!
Contract: the objects of a scenario, and who is to run next.

Owns:
- `World`, buses, subscribers and channels by name, with the streams between them;
- the queue of tasks that have something to do, what puts a task into it, and the tasks that rest
  because they had more to do than may be done at a time;
- the log and the warnings.

A scenario runs on one thread. A task that waits is queued when what it waits for may have come, and
tasks run in the order of the queue.

Does not own: running tasks and handlers.
-/

namespace EventTransport

namespace Scenario

/-- The number of a handler in a scenario. -/
abbrev Actor := Nat

/-- A handler that has been bound. -/
structure Performer where
  script : Handler
  calls : Nat := 0

/-- What a stream refuses, and how often it was asked to send small writes at once. -/
structure StreamScript where
  failsLowLatency : Bool := false
  failsRead : Bool := false
  failsWrite : Bool := false
  failsShutdown : Bool := false
  lowLatencyCalls : Nat := 0

/-- One end of a stream: the pipe it reads from and the pipe it writes to, by number. -/
structure StreamEnd where
  input : Nat
  output : Nat
  script : Option Nat := none

/-- A channel with the end it runs on and the far end, if that is in the hands of the scenario. -/
structure Line where
  channel : Channel Actor
  /-- Whether calls of the compressor are logged. -/
  isSpied : Bool := false
  stream : Option StreamEnd := none
  peer : Option StreamEnd := none
  /-- The script of the last stream with a script that it was started on. -/
  lastScript : Option Nat := none

/-- A subscriber with the bus that it belongs to. -/
structure Member where
  subscriber : Subscriber Actor
  bus : Nat

/-- Where a local bus is. -/
inductive BusPlace where
  | alone (number : Nat)
  | ofLine (number : Nat)

inductive Task where
  | reader (line : Nat)
  | strand (line : Nat)
deriving DecidableEq

structure World where
  performers : Array Performer := #[]
  localBuses : Array (LocalBus Actor) := #[]
  globalBuses : Array GlobalBus := #[]
  subscribers : Array Member := #[]
  lines : Array Line := #[]
  pipes : Array Pipe := #[]
  scripts : Array StreamScript := #[]
  mail : Mailboxes := Mailboxes.empty
  /-- Names, the latest first. -/
  localBusNames : List (String × BusPlace) := []
  globalBusNames : List (String × Nat) := []
  subscriberNames : List (String × Nat) := []
  channelNames : List (String × Nat) := []
  nextSerial : Nat := 1
  /-- The tasks that have something to do. -/
  ready : List Task := []
  /-- The tasks that had more to do than may be done at a time, the latest first. -/
  resting : List Task := []
  /-- What happened, the latest first. -/
  log : List LogEntry := []
  /-- What went wrong, the earliest first. -/
  warnings : List Warning := []

/-- What happens in a scenario. -/
abbrev Play := StateM World

/-! Records -/

def note (entry : LogEntry) : Play Unit :=
  modify fun world => { world with log := entry :: world.log }

def warn (warnings : List Warning) : Play Unit :=
  modify fun world => { world with warnings := world.warnings ++ warnings }

/-- The log and the warnings since the last time they were taken. -/
def takeRecords : Play (List LogEntry × List Warning) :=
  modifyGet fun world =>
    ((world.log.reverse, world.warnings), { world with log := [], warnings := [] })

/-! Tasks -/

/-- A task put at the end of the queue, unless it is in it or rests. -/
def World.wake (world : World) (task : Task) : World :=
  if world.ready.contains task || world.resting.contains task then world
  else { world with ready := world.ready ++ [task] }

/-- The tasks that rest put at the end of the queue, the one that came to rest last first. -/
def World.recall (world : World) : World :=
  { world with ready := world.ready ++ world.resting, resting := [] }

/-- The tasks of a line to which a change of its channel gives something to do. A strand for which
operations wait has been given something to do before. -/
def roused (number : Nat) (before after : Channel Actor) : List Task :=
  let told := after.cancelled && !before.cancelled
  let reader := match after.reader with
    | .awaiting _ => told
    | _ => false
  let strand :=
    after.isWaiting && (told || (before.operations.isEmpty && !after.operations.isEmpty))
  (if reader then [.reader number] else []) ++ (if strand then [.strand number] else [])

/-- A channel replaced by what became of it. -/
def World.store (world : World) (number : Nat) (before after : Channel Actor) : World :=
  (roused number before after).foldl World.wake
    { world with lines := world.lines.modify number fun line => { line with channel := after } }

def changeChannelAt (number : Nat) (change : Channel Actor → Channel Actor) : Play Unit :=
  modify fun world =>
    match world.lines[number]? with
    | none => world
    | some line => world.store number line.channel (change line.channel)

/-- A channel replaced, with the warnings that go with it. -/
def become (number : Nat) (before : Channel Actor) (after : Channel Actor × List Warning) :
    Play Unit := do
  modify fun world => world.store number before after.1
  warn after.2

/-! Pipes -/

/-- The read loop of a line if it waits for bytes from a pipe. -/
def Line.readerAt (line : Line) (number pipe : Nat) : List Task :=
  match line.stream, line.channel.reader with
  | some stream, .awaiting _ => if stream.input = pipe then [.reader number] else []
  | _, _ => []

/-- The strand of a line if it waits for room in a pipe. -/
def Line.writerAt (line : Line) (number pipe : Nat) : List Task :=
  match line.stream, line.channel.strand with
  | some stream, .writing _ _ => if stream.output = pipe then [.strand number] else []
  | _, _ => []

/-- Tasks of every line queued. -/
def World.wakeAll (world : World) (tasks : Line → Nat → List Task) : World :=
  (world.lines.toList.zipIdx.flatMap fun entry => tasks entry.1 entry.2).foldl World.wake world

/-- A pipe replaced after bytes have been put in. -/
def storeWritten (number : Nat) (pipe : Pipe) : Play Unit :=
  modify fun world =>
    { world with pipes := world.pipes.setIfInBounds number pipe }.wakeAll fun line place =>
      line.readerAt place number

/-- A pipe replaced after bytes have been taken out. -/
def storeRead (number : Nat) (pipe : Pipe) : Play Unit :=
  modify fun world =>
    { world with pipes := world.pipes.setIfInBounds number pipe }.wakeAll fun line place =>
      line.writerAt place number

/-- A pipe closed by its writer. -/
def closeWriting (number : Nat) : Play Unit :=
  modify fun world =>
    { world with pipes := world.pipes.modify number Pipe.close }.wakeAll fun line place =>
      line.readerAt place number

/-- A pipe closed by its reader. -/
def closeReading (number : Nat) : Play Unit :=
  modify fun world =>
    { world with pipes := world.pipes.modify number Pipe.close }.wakeAll fun line place =>
      line.writerAt place number

/-- An end of a stream let go, which closes both directions. -/
def dropEnd (stream : StreamEnd) : Play Unit := do
  closeWriting stream.output
  closeReading stream.input

/-- How much a stream of a scenario holds in either direction. -/
def streamCapacity : Nat := 1048576

/-- The two ends of a new stream. -/
def newStream : Play (StreamEnd × StreamEnd) :=
  modifyGet fun world =>
    let first := world.pipes.size
    let pipe : Pipe := { capacity := streamCapacity }
    (({ input := first, output := first + 1 }, { input := first + 1, output := first }),
      { world with pipes := (world.pipes.push pipe).push pipe })

/-- The script of an end, which refuses nothing if there is none. -/
def World.scriptOf (world : World) (stream : StreamEnd) : StreamScript :=
  (stream.script.bind fun number => world.scripts[number]?).getD {}

/-! Names -/

def World.line? (world : World) (name : String) : Option (Nat × Line) :=
  (world.channelNames.lookup name).bind fun number =>
    world.lines[number]?.map fun line => (number, line)

def World.channel? (world : World) (name : String) : Option (Channel Actor) :=
  (world.line? name).map fun found => found.2.channel

def World.localBusAt? (world : World) : BusPlace → Option (LocalBus Actor)
  | .alone number => world.localBuses[number]?
  | .ofLine number => world.lines[number]?.map fun line => line.channel.bus

def World.localBus? (world : World) (name : String) : Option (LocalBus Actor) :=
  (world.localBusNames.lookup name).bind world.localBusAt?

/-- A local bus replaced by what became of it. -/
def World.storeLocalBus (world : World) (bus : LocalBus Actor) : BusPlace → World
  | .alone number => { world with localBuses := world.localBuses.setIfInBounds number bus }
  | .ofLine number =>
    { world with
      lines := world.lines.modify number fun line =>
        { line with channel := { line.channel with bus := bus } } }

def World.globalBus? (world : World) (name : String) : Option (Nat × GlobalBus) :=
  (world.globalBusNames.lookup name).bind fun number =>
    world.globalBuses[number]?.map fun bus => (number, bus)

def World.subscriber? (world : World) (name : String) : Option (Nat × Member) :=
  (world.subscriberNames.lookup name).bind fun number =>
    world.subscribers[number]?.map fun member => (number, member)

end Scenario

end EventTransport
