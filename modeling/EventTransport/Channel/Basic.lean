import EventTransport.Bus.LocalBus
import EventTransport.Channel.ReadBuffer
import EventTransport.Channel.State
import EventTransport.Frame.Drain
import EventTransport.Settings.Config

/-!
Contract: channels, and what an application does with one.

Owns:
- `Channel`, a local bus with the two tasks that connect it to a byte stream: the read loop, which
  turns bytes into events for the bus, and the strand, which dispatches and writes in one order;
- starting, sending, delivering, stopping and joining.

A channel is a plain value. What a task does next is one step on it, and so is every call of an
application, so an interleaving of tasks and calls is a list of steps.

Main statements: no call of an application opens a closed channel, and a channel that is not closed
refuses to be started twice.

Does not own: the steps of the tasks, byte streams, running handlers.
-/

namespace EventTransport

/-- Work that the strand does in the order in which it was submitted. -/
inductive Operation where
  /-- The oldest event of the bus handed to its handlers. -/
  | dispatch
  /-- An event framed and written to the stream. -/
  | write (event : Event)
deriving DecidableEq

/-- How a task ended. -/
abbrev Outcome := Except Error Unit

/-- The first failure, if there is one. -/
def firstFailure : List Outcome → Outcome
  | [] => .ok ()
  | .error error :: _ => .error error
  | .ok () :: outcomes => firstFailure outcomes

/-- Where the read loop is. -/
inductive ReadLoop where
  | absent
  /-- Waiting for bytes to put after those that are no whole frame yet. -/
  | awaiting (buffer : ReadBuffer)
  /-- Taking frames from the front of a buffer. -/
  | decoding (buffer : ReadBuffer)
  | ended
deriving DecidableEq

/-- What the strand does about operations. -/
inductive StrandStage where
  /-- Executing them, and waiting for more. -/
  | running
  /-- Executing those that are left, writes aside, before it ends as it must. -/
  | draining (outcome : Outcome)

/-- Where the strand is. -/
inductive Strand (H : Type) where
  | absent
  /-- Between two operations. -/
  | between (stage : StrandStage)
  /-- Calling the handlers of an event that are left. -/
  | calling (stage : StrandStage) (event : Event) (handlers : List H)
  /-- Writing what is left of the frame of an event of a kind. -/
  | writing (uid : Uid) (rest : Bytes)
  /-- Shutting down the writing side. -/
  | closing (outcome : Outcome)
  | ended
  /-- Over before its time, in a handler. -/
  | died

def Strand.isPresent {H : Type} : Strand H → Bool
  | absent => false
  | _ => true

/-- Whether the strand does nothing any more. -/
def Strand.isOver {H : Type} : Strand H → Bool
  | ended => true
  | died => true
  | _ => false

/-- One framed connection. -/
structure Channel (H : Type) where
  config : Config
  codec : Codec
  bus : LocalBus H := LocalBus.empty
  state : ChannelState := .idle
  /-- Whether the tasks are told to stop. -/
  cancelled : Bool := false
  /-- The operations that the strand has not begun. -/
  operations : List Operation := []
  /-- Whether the strand takes operations. -/
  accepting : Bool := true
  reader : ReadLoop := .absent
  strand : Strand H := .absent
  /-- How the tasks that are over ended, in that order. -/
  endings : List Outcome := []
  /-- Whether there are tasks that no join has taken. -/
  joinable : Bool := false

namespace Channel

variable {H : Type}

/-- A channel with the codec that its configuration asks for. -/
def ofConfig (config : Config) : Channel H := { config := config, codec := Codec.ofConfig config }

/-- A move of the state, which a closed channel does not heed. -/
def enter (channel : Channel H) (state : ChannelState) : Channel H :=
  { channel with state := channel.state.moved state }

/-- The channel closed and its tasks told to stop. The two count as one step: nothing is seen of a
channel that is closed and whose tasks have not been told. -/
def close (channel : Channel H) : Channel H :=
  { channel with state := .closed, cancelled := true }

/-- An operation submitted to the strand; nothing happens if it takes none any more. -/
def post (channel : Channel H) (operation : Operation) : Channel H :=
  if channel.accepting then { channel with operations := channel.operations ++ [operation] }
  else channel

/-- An event queued for writing; a closed channel ignores it. -/
def send (channel : Channel H) (event : Event) : Channel H :=
  if channel.state = .closed then channel else channel.post (.write event)

/-- An event put into the queue of the bus, and its dispatch submitted. -/
def deliver (channel : Channel H) (event : Event) : Channel H :=
  { channel with bus := channel.bus.enqueue event }.post .dispatch

/-- Closing on request. -/
def stop (channel : Channel H) : Channel H := channel.close

/-- Whether starting has an effect: a closed channel ignores it, a started one refuses it. -/
def starts (channel : Channel H) : Except Error Bool :=
  if channel.state = .closed then .ok false
  else if channel.strand.isPresent then .error .channelAlreadyStarted
  else .ok true

/-- Whether starting asks the stream to send small writes at once. -/
def asksLowLatency (channel : Channel H) : Bool :=
  match channel.starts with
  | .ok takesEffect => takesEffect && channel.config.noDelay
  | .error _ => false

/-- How many bytes the read loop makes room for at a time. -/
def readSize (channel : Channel H) : Nat := max channel.config.readBufferSize 1

structure Started (H : Type) where
  channel : Channel H
  result : Except Error Unit := .ok ()
  warnings : List Warning := []

/-- Both tasks begun, on a stream that answers as given if asked to send small writes at once. -/
def start (channel : Channel H) (lowLatency : Except StreamFault Unit) : Started H :=
  match channel.starts with
  | .error error => { channel := channel, result := .error error }
  | .ok false => { channel := channel }
  | .ok true =>
    let begun : Channel H :=
      { channel with
        reader := .awaiting { size := channel.readSize }
        strand := .between .running
        joinable := true }
    let warnings := match lowLatency with
      | .error fault => if channel.config.noDelay then [Warning.lowLatencyFailed fault] else []
      | .ok () => []
    { channel := begun.enter .reading, warnings := warnings }

/-- Whether both tasks are over, so that neither holds on to the stream. -/
def isFinished (channel : Channel H) : Bool :=
  channel.reader = .ended && channel.strand.isOver

/-- What a join reports once both tasks are over: the first failure, to the first join only. -/
def join (channel : Channel H) : Outcome × Channel H :=
  if channel.joinable then (firstFailure channel.endings, { channel with joinable := false })
  else (.ok (), channel)

def summary (channel : Channel H) (identity : String) : String :=
  "Channel \x7b id: " ++ identity ++ ", state: " ++ channel.state.text ++ ", bus: " ++
    channel.bus.summary true ++ " \x7d"

@[simp] theorem state_enter (channel : Channel H) (state : ChannelState) :
    (channel.enter state).state = channel.state.moved state := rfl

@[simp] theorem state_close (channel : Channel H) : channel.close.state = .closed := rfl

@[simp] theorem state_post (channel : Channel H) (operation : Operation) :
    (channel.post operation).state = channel.state := by
  unfold post
  split <;> rfl

@[simp] theorem cancelled_post (channel : Channel H) (operation : Operation) :
    (channel.post operation).cancelled = channel.cancelled := by
  unfold post
  split <;> rfl

@[simp] theorem bus_post (channel : Channel H) (operation : Operation) :
    (channel.post operation).bus = channel.bus := by
  unfold post
  split <;> rfl

/-- An operation goes behind those submitted before it. -/
theorem operations_post {channel : Channel H} (operation : Operation)
    (accepting : channel.accepting = true) :
    (channel.post operation).operations = channel.operations ++ [operation] := by
  unfold post
  simp [accepting]

@[simp] theorem state_send (channel : Channel H) (event : Event) :
    (channel.send event).state = channel.state := by
  unfold send
  split
  · rfl
  · exact state_post channel _

@[simp] theorem state_deliver (channel : Channel H) (event : Event) :
    (channel.deliver event).state = channel.state := state_post _ _

theorem bus_send (channel : Channel H) (event : Event) :
    (channel.send event).bus = channel.bus := by
  unfold send
  split
  · rfl
  · exact bus_post channel _

theorem bus_deliver (channel : Channel H) (event : Event) :
    (channel.deliver event).bus = channel.bus.enqueue event := bus_post _ _

theorem bus_stop (channel : Channel H) : channel.stop.bus = channel.bus := rfl

/-- A started channel refuses to be started again unless it is closed. -/
theorem starts_eq_error_iff {channel : Channel H} {error : Error} :
    channel.starts = .error error ↔
      channel.state ≠ .closed ∧ channel.strand.isPresent = true ∧
        error = .channelAlreadyStarted := by
  unfold starts
  split
  · rename_i closed
    simp [closed]
  · rename_i notClosed
    split
    · rename_i present
      simp only [Except.error.injEq]
      exact ⟨fun same => ⟨notClosed, present, same.symm⟩, fun facts => facts.2.2.symm⟩
    · rename_i notPresent
      simp only [reduceCtorEq, false_iff]
      exact fun facts => notPresent facts.2.1

end Channel

end EventTransport
