import EventTransport.Channel.State
import EventTransport.Event.Basic
import EventTransport.Event.Subscription

/-!
Contract: what the handlers of a scenario do, and what is written down of it.

Owns:
- `Handler` and `Act`, handlers that do what a script says when they are called;
- `LogEntry`, one line of the log of a scenario.

Scripts speak of buses, channels and subscribers by name.

Does not own: what the acts do.
-/

namespace EventTransport

namespace Scenario

mutual

/-- A handler that acts the first times it is called. -/
inductive Handler where
  /-- The name in the log, the acts, how many calls perform them, and the answers to the calls. -/
  | script (tag : String) (acts : List Act) (times : Nat) (answers : List Bool)

inductive Act where
  | bind (localBus : String) (key : Subscription) (handler : Handler)
  | unbind (localBus : String) (key : Subscription)
  | reset (localBus : String)
  | deliver (localBus : String) (event : Event)
  /-- The handlers of an event called at once. -/
  | present (localBus : String) (event : Event)
  | dispatch (localBus : String)
  | askPending (localBus : String)
  | hook (globalBus : String) (event : Event)
  /-- The event at hand hooked. -/
  | forward (globalBus : String)
  | update (globalBus : String)
  | clear (globalBus : String)
  | shutdown (globalBus : String)
  | send (channel : String) (event : Event)
  /-- The event at hand sent. -/
  | echo (channel : String)
  | stop (channel : String)
  | askState (channel : String)
  /-- The end of the handler and of all that called it. -/
  | die

end

instance : Inhabited Act := ⟨.die⟩

instance : Inhabited Handler := ⟨.script "" [] 0 []⟩

namespace Handler

def tag : Handler → String
  | script tag _ _ _ => tag

/-- The acts of a call, by the number of calls before it. -/
def actsOf : Handler → Nat → List Act
  | script _ acts times _, calls => if calls < times then acts else []

/-- The answer to a call, by the number of calls before it: the last one is given from then on, and
a handler without any is done at once. -/
def answerOf : Handler → Nat → Bool
  | script _ _ _ answers, calls => answers.getD calls (answers.getLastD true)

end Handler

inductive Answer where
  | dispatched (taken : Bool)
  | pending (count : Nat)
  | copies (count : Option Nat)
  | state (state : ChannelState)

/-- What a compressor is called for. -/
inductive CompressorCall where
  | compress
  | decompress

inductive LogEntry where
  | called (tag : String) (event : Event)
  /-- An act of a handler told something. -/
  | told (tag : String) (answer : Answer)
  /-- The compressor of a channel was called. -/
  | compressor (call : CompressorCall) (state : ChannelState)

end Scenario

end EventTransport
