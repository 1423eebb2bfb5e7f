import EventTransport.Scenario.Activation

/-!
Contract: the tasks of the channels of a scenario, run until nothing more can happen.

Owns:
- `runReader` and `runStrand`, a task run until it waits or has to rest;
- `runRound`, the tasks that have something to do, in the order of the queue;
- `settle`, rounds until no task has anything to do;
- `awaitEnd`, rounds until the tasks of one channel are over.

A task goes on until it waits or has used up the actions that it may take at a time; reading,
writing and taking an operation are such actions. A task that has used them up rests until the queue
is empty or many tasks have run. A stream is let go when both tasks of its channel are over.

A run is given a number of steps, far beyond what a scenario needs.
-/

namespace EventTransport

namespace Scenario

/-- How many steps a task, and how many rounds a scenario, may take. -/
def patience : Nat := 1000000

/-- How many actions a task may take at a time. -/
def actionsAtATime : Nat := 128

/-- How many tasks run before those that rest are called back. -/
def roundLength : Nat := 61

inductive Stop where
  /-- It is over, or waits for something. -/
  | waiting
  /-- It has taken all the actions that it may take at a time. -/
  | exhausted
deriving DecidableEq

/-- The stream of a line let go if both tasks are over. -/
def release (number : Nat) : Play Unit := do
  match (← get).lines[number]? with
  | none => pure ()
  | some line =>
    match line.stream with
    | none => pure ()
    | some stream =>
      if line.channel.isFinished then
        modify fun world =>
          { world with lines := world.lines.modify number fun line => { line with stream := none } }
        dropEnd stream

/-- A call of the compressor of a line written into the log, if such calls are. -/
def spy (line : Line) (calls : Bool) (call : CompressorCall) : Play Unit :=
  if line.isSpied && calls then note (.compressor call line.channel.state) else pure ()

/-- What a stream gives to its reader at once, at most that many bytes; nothing if it
has to wait. -/
def pull (line : Line) (most : Nat) : Play (Option (Channel Actor × List Warning)) := do
  let world ← get
  match line.stream with
  | none => pure (some (line.channel.readEnded, []))
  | some stream =>
    if (world.scriptOf stream).failsRead then
      pure (some (line.channel.readFailed (.described "wire read failed")))
    else
      match world.pipes[stream.input]? with
      | none => pure (some (line.channel.readEnded, []))
      | some pipe =>
        match pipe.read most with
        | (.nothing, _) => pure none
        | (.finished, _) => pure (some (line.channel.readEnded, []))
        | (.bytes bytes, after) => do
          storeRead stream.input after
          pure (some (line.channel.received bytes, []))

/-- A read loop run until it waits, is over or has taken `actions` actions. Where it finds both
bytes and the order to stop it may heed either; here it heeds the bytes. -/
def runReader (number : Nat) : Nat → Nat → Play Stop
  | 0, _ => pure .waiting
  | steps + 1, actions => do
    match (← get).lines[number]? with
    | none => pure .waiting
    | some line =>
      match line.channel.readTurn with
      | .rest => pure .waiting
      | .moved after warnings => do
        spy line line.channel.decompresses .decompress
        become number line.channel (after, warnings)
        runReader number steps actions
      | .read room =>
        if actions = 0 then pure .exhausted
        else do
          match ← pull line room with
          | some after => do
            become number line.channel after
            runReader number steps (actions - 1)
          | none =>
            if line.channel.cancelled then do
              become number line.channel (line.channel.readEnded, [])
              pure .waiting
            else pure .waiting

/-- Whether a stream refuses to take bytes. -/
def refusesWrites (line : Line) : Play Bool := do
  match line.stream with
  | none => pure false
  | some stream => pure ((← get).scriptOf stream).failsWrite

/-- What a stream takes from its writer at once; nothing if the writer has to wait. -/
def push (line : Line) (bytes : Bytes) : Play (Option (Channel Actor × List Warning)) := do
  match line.stream with
  | none => pure (some (line.channel.writeFailed .brokenPipe))
  | some stream =>
    match (← get).pipes[stream.output]? with
    | none => pure (some (line.channel.writeFailed .brokenPipe))
    | some pipe =>
      match pipe.write bytes with
      | (.broken, _) => pure (some (line.channel.writeFailed .brokenPipe))
      | (.full, _) => pure none
      | (.accepted count, after) => do
        storeWritten stream.output after
        pure (some (line.channel.wrote count, []))

/-- The writing side of a stream shut down, unless it refuses. -/
def shutWriter (line : Line) : Play Unit := do
  match line.stream with
  | none => pure ()
  | some stream =>
    if ((← get).scriptOf stream).failsShutdown then pure () else closeWriting stream.output

/-- A strand run until it waits, is over or has taken `actions` actions. Asking for an operation
takes an action only if there is one, but is not done without an action left. -/
def runStrand (number : Nat) : Nat → Nat → Play Stop
  | 0, _ => pure .waiting
  | steps + 1, actions => do
    match (← get).lines[number]? with
    | none => pure .waiting
    | some line =>
      if line.channel.isWaiting && actions = 0 then pure .exhausted
      else
        match line.channel.strandTurn with
        | .rest => pure .waiting
        | .moved after warnings => do
          spy line line.channel.compresses .compress
          become number line.channel (after, warnings)
          runStrand number steps (if line.channel.isWaiting then actions - 1 else actions)
        | .call actor event after => do
          become number line.channel (after, [])
          match ← attempt (callActor actor event) with
          | none => do
            changeChannelAt number Channel.handlerDied
            pure .waiting
          | some _ => runStrand number steps actions
        | .write bytes => do
          if ← refusesWrites line then do
            become number line.channel (line.channel.writeFailed (.described "wire write failed"))
            runStrand number steps actions
          else if actions = 0 then pure .exhausted
          else do
            match ← push line bytes with
            | none => pure .waiting
            | some after => do
              become number line.channel after
              runStrand number steps (actions - 1)
        | .shutdown => do
          shutWriter line
          changeChannelAt number Channel.writerShut
          pure .waiting

def Task.line : Task → Nat
  | .reader number => number
  | .strand number => number

/-- A task run until it waits, is over or has to rest. -/
def runTask (task : Task) : Play Unit := do
  let stop ← match task with
    | .reader number => runReader number patience actionsAtATime
    | .strand number => runStrand number patience actionsAtATime
  match stop with
  | .waiting => release task.line
  | .exhausted => modify fun world => { world with resting := task :: world.resting }

/-- Tasks run in the order of the queue, up to a number of them; then those that rest are called
back. -/
def runTurns : Nat → Play Unit
  | 0 => modify World.recall
  | turns + 1 => do
    match (← get).ready with
    | [] => modify World.recall
    | task :: ready => do
      modify fun world => { world with ready := ready }
      runTask task
      runTurns turns

/-- One round of tasks. -/
def runRound : Play Unit := runTurns roundLength

/-- Rounds while a task has something to do, up to a number of them. -/
def settleWithin : Nat → Play Unit
  | 0 => pure ()
  | rounds + 1 => do
    if (← get).ready.isEmpty then pure ()
    else do
      runRound
      settleWithin rounds

/-- Tasks run until nothing more can happen. -/
def settle : Play Unit := settleWithin patience

/-- Whether a join has to wait: there are tasks for it, and they are not over. -/
def Line.mustWait (line : Line) : Bool := line.channel.joinable && !line.channel.isFinished

/-- Rounds while the tasks of a line that a join is to take are not over and any task has something
to do, up to a number of them. -/
def awaitEnd (number : Nat) : Nat → Play Unit
  | 0 => pure ()
  | rounds + 1 => do
    let world ← get
    if !world.ready.isEmpty && (world.lines[number]?.map Line.mustWait).getD false then do
      runRound
      awaitEnd number rounds
    else pure ()

end Scenario

end EventTransport
