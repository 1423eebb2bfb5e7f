/-!
Contract: the one-byte identifier of a kind of event.

Owns: `Uid`, its text, its order and the identifier of events that have no kind yet.

The unassigned identifier is no wildcard: subscribing to every event is `Subscription.all`.
-/

namespace EventTransport

/-- The identifier of a kind of event, the first byte of its frames. -/
structure Uid where
  value : UInt8
deriving DecidableEq, Inhabited

namespace Uid

/-- The identifier of an event without a kind. -/
def unassigned : Uid := ⟨0⟩

/-- Whether the event has no kind yet. -/
def isUnassigned (uid : Uid) : Bool := uid = unassigned

def text (uid : Uid) : String := toString uid.value.toNat

/-- Identifiers in the order of their bytes. -/
def order (left right : Uid) : Ordering := compare left.value.toNat right.value.toNat

end Uid

end EventTransport
