import EventTransport.Scenario.Tasks

/-!
Contract: what a scenario does with channels and the streams they run on.

Owns:
- starting channels on new streams, whose far ends stay in the hands of the scenario or go to
  another channel;
- writing to and reading from the far ends;
- joining.

A stream that a channel does not take is dropped, and so is the far end that another one replaces.
-/

namespace EventTransport

namespace Scenario

/-- A change of the line of a name. -/
def changeNamed (name : String) (change : Line → Line) : Play Unit :=
  modify fun world =>
    match world.channelNames.lookup name with
    | none => world
    | some number => { world with lines := world.lines.modify number change }

/-- A far end let go, if it is there. -/
def dropPeer : Option StreamEnd → Play Unit
  | none => pure ()
  | some peer => dropEnd peer

/-- What a stream answers if it is asked to send small writes at once; the question is counted. -/
def askLowLatency (stream : StreamEnd) (asked : Bool) : Play (Except StreamFault Unit) := do
  match stream.script with
  | none => pure (.ok ())
  | some number => do
    let script := (← get).scriptOf stream
    if asked then
      modify fun world =>
        { world with
          scripts := world.scripts.setIfInBounds number
            { script with lowLatencyCalls := script.lowLatencyCalls + 1 } }
    pure (if script.failsLowLatency then .error (.described "no low latency") else .ok ())

/-- A channel started on an end of a stream, which it drops if it has no use for it. -/
def startOn (number : Nat) (stream : StreamEnd) : Play (Except Error Unit) := do
  match (← get).lines[number]? with
  | none => pure (.ok ())
  | some line => do
    let lowLatency ← askLowLatency stream line.channel.asksLowLatency
    let started := line.channel.start lowLatency
    warn started.warnings
    match line.channel.starts with
    | .ok true =>
      modify fun world =>
        { world with
          lines := world.lines.modify number fun line =>
            { line with channel := started.channel, stream := some stream }
          ready := world.ready ++ [.reader number, .strand number] }
    | _ => dropEnd stream
    pure started.result

/-- The number of a new script for the stream that a line is to be started on. -/
def addScript (number : Nat) : Option StreamScript → Play (Option Nat)
  | none => pure none
  | some script =>
    modifyGet fun world =>
      let place := world.scripts.size
      (some place,
        { world with
          scripts := world.scripts.push script
          lines := world.lines.modify number fun line => { line with lastScript := some place } })

/-- A channel started on a new stream, into which some bytes have been written. A far end that the
channel had before is given up for the new one unless starting fails; a script that it had before is
given up for the new one, if there is a new one. -/
def startNamed (name : String) (script : Option StreamScript) (preload : Bytes) :
    Play (Except Error Unit) := do
  let world ← get
  match world.line? name with
  | none => pure (.ok ())
  | some (number, line) => do
    let (near, far) ← newStream
    modify fun world =>
      { world with pipes := world.pipes.modify near.input fun pipe => (pipe.write preload).2 }
    let scriptNumber ← addScript number script
    let result ← startOn number { near with script := scriptNumber }
    match result with
    | .error _ => dropEnd far
    | .ok () => do
      dropPeer line.peer
      changeNamed name fun line => { line with peer := some far }
    pure result

/-- Two channels started on the two ends of a new stream. -/
def linkNamed (first second : String) : Play (List (Except Error Unit)) := do
  let (near, far) ← newStream
  let world ← get
  match world.channelNames.lookup first, world.channelNames.lookup second with
  | some one, some other => do
    let result ← startOn one near
    let otherResult ← startOn other far
    pure [result, otherResult]
  | _, _ => pure []

/-- Bytes written to the far end of a channel as soon as there is room for them; whether the other
side took them. -/
def feedNamed (name : String) : Nat → Bytes → Play Bool
  | 0, _ => pure true
  | rounds + 1, bytes => do
    if bytes.isEmpty then pure true
    else
      let world ← get
      match (world.line? name).bind fun found => found.2.peer with
      | none => pure false
      | some peer =>
        match world.pipes[peer.output]? with
        | none => pure false
        | some pipe =>
          match pipe.write bytes with
          | (.broken, _) => pure false
          | (.full, _) => do
            runRound
            feedNamed name rounds bytes
          | (.accepted count, after) => do
            storeWritten peer.output after
            feedNamed name rounds (bytes.drop count)

/-- What can be read at the far end of a channel, and whether nothing can come after it. -/
def readNamed (name : String) : Play (Bytes × Bool) := do
  let world ← get
  match (world.line? name).bind fun found => found.2.peer with
  | none => pure ([], true)
  | some peer =>
    match world.pipes[peer.input]? with
    | none => pure ([], true)
    | some pipe =>
      match pipe.read pipe.held.length with
      | (.bytes bytes, after) => do
        storeRead peer.input after
        pure (bytes, pipe.isClosed)
      | _ => pure ([], pipe.isClosed)

/-- The far end of a channel dropped. -/
def dropPeerNamed (name : String) : Play Unit := do
  dropPeer (((← get).line? name).bind fun found => found.2.peer)
  changeNamed name fun line => { line with peer := none }

/-- Writing at the far end of a channel given up. -/
def shutPeerNamed (name : String) : Play Unit := do
  match ((← get).line? name).bind fun found => found.2.peer with
  | none => pure ()
  | some peer => closeWriting peer.output

/-- A change of the script of the last stream with a script that a channel was started on. -/
def changeScript (name : String) (change : StreamScript → StreamScript) : Play Unit :=
  modify fun world =>
    match (world.line? name).bind fun found => found.2.lastScript with
    | none => world
    | some number =>
      let changed := { world with scripts := world.scripts.modify number change }
      changed.wakeAll fun line place =>
        match line.stream with
        | some stream =>
          if stream.script = some number then line.readerAt place stream.input else []
        | none => []

/-- How often the last stream with a script that a channel was started on was asked to send small
writes at once. -/
def lowLatencyCalls (name : String) : Play Nat := do
  let world ← get
  match (world.line? name).bind fun found => found.2.lastScript with
  | none => pure 0
  | some number => pure ((world.scripts[number]?.map StreamScript.lowLatencyCalls).getD 0)

/-- What joining a channel reports after its tasks are over; nothing if it is not closed. -/
def joinNamed (name : String) : Play (Option (Except Error Unit)) := do
  match (← get).line? name with
  | none => pure none
  | some (number, line) =>
    if line.channel.state = .closed then do
      awaitEnd number patience
      let result := ((← get).channel? name).map fun joined => joined.join.1
      changeChannel name fun joined => joined.join.2
      pure result
    else pure none

end Scenario

end EventTransport
