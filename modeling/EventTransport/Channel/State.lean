/-!
Contract: the life cycle of a channel.

Owns:
- `ChannelState`, idle, then reading and dispatching in turn, and closed in the end;
- `ChannelState.moved`, the state after a request to move to another one.

Main statement: closed is final.
-/

namespace EventTransport

/-- Where a channel is in its life. -/
inductive ChannelState where
  | idle
  | reading
  /-- Handing on the events in the bytes that came. -/
  | dispatching
  /-- Over, whatever happens next. -/
  | closed
deriving DecidableEq, Inhabited

namespace ChannelState

/-- Every state, in the order of their codes. -/
def all : List ChannelState := [idle, reading, dispatching, closed]

def code : ChannelState → Nat
  | idle => 0
  | reading => 1
  | dispatching => 2
  | closed => 3

def text : ChannelState → String
  | idle => "Idle"
  | reading => "Reading"
  | dispatching => "Dispatching"
  | closed => "Closed"

def isIdle (state : ChannelState) : Bool := state = idle

/-- Whether a channel has been started and is not closed. -/
def isRunning (state : ChannelState) : Bool := state = reading || state = dispatching

def isClosed (state : ChannelState) : Bool := state = closed

/-- The state after a request to move on, which a closed channel does not heed. -/
def moved (state next : ChannelState) : ChannelState := if state = closed then closed else next

@[simp] theorem moved_closed (next : ChannelState) : closed.moved next = closed := rfl

/-- A move to a state short of closed ends there unless the channel is closed. -/
theorem moved_eq_closed_iff {state next : ChannelState} (short : next ≠ closed) :
    state.moved next = closed ↔ state = closed := by
  unfold moved
  split <;> simp_all

end ChannelState

end EventTransport
