import EventTransport.Event.Uid

/-!
Contract: the keys under which handlers and subscribers are registered.

Owns:
- `Subscription`, one kind of event or all of them;
- `Subscription.route`, the keys that an event visits, in the order of dispatch.

Main statement: an event visits exactly the keys that match it, its own kind first.
-/

namespace EventTransport

/-- What a handler or subscriber is registered for. -/
inductive Subscription where
  /-- Every event, after the registrations for its own kind. -/
  | all
  | uid (uid : Uid)
deriving DecidableEq, Inhabited

namespace Subscription

/-- Whether an event of a kind is routed to the key. -/
def appliesTo (key : Subscription) (event : Uid) : Bool :=
  match key with
  | all => true
  | uid own => own = event

def isAll (key : Subscription) : Bool := key = all

/-- The keys that an event of a kind visits, in the order of dispatch. -/
def route (event : Uid) : List Subscription := [uid event, all]

/-- A star, or the kind. -/
def text : Subscription → String
  | all => "*"
  | uid own => "uid:" ++ own.text

/-- An event visits exactly the keys that apply to it. -/
theorem mem_route_iff {key : Subscription} {event : Uid} :
    key ∈ route event ↔ key.appliesTo event = true := by
  cases key <;> simp [route, appliesTo]

end Subscription

end EventTransport
