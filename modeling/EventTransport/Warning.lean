import EventTransport.Error
import EventTransport.Event.Subscription
import EventTransport.Bus.SubscriberId

/-!
Contract: what goes wrong without making an operation fail.

Owns:
- `Warning`, each thing worth a record, with what it is about;
- its wording and its fields as text.

Does not own: errors, and where records go.
-/

namespace EventTransport

/-- The calls on a global bus that do nothing once it is shut down. -/
inductive BusCall where
  | subscribe
  | unsubscribe
  | hook
  | update
  | clear
  | shutdown
deriving DecidableEq

def BusCall.text : BusCall → String
  | subscribe => "subscribe"
  | unsubscribe => "unsubscribe"
  | hook => "hook"
  | update => "update"
  | clear => "clear"
  | shutdown => "shutdown"

/-- Something worth a record. -/
inductive Warning where
  | unknownSetting (key : String)
  | contextTaken (context : String)
  | contextUnclaimed (context : String)
  | contextNotAnObject (context : String)
  | nonScalarSetting (context key : String)
  | noLocalHandlers (subscription : Subscription)
  | busShutDown (call : BusCall)
  | neverSubscribed (subscriber : SubscriberId) (subscription : Subscription)
  | noHandlers (subscriber : SubscriberId) (subscription : Subscription)
  | undeliverable (subscriber : SubscriberId) (uid : Uid)
  | lowLatencyFailed (fault : StreamFault)
  | readFailed (fault : StreamFault)
  | invalidFrame (error : Error)
  | writeFailed (error : Error) (uid : Uid)
deriving DecidableEq

namespace Warning

def message : Warning → String
  | unknownSetting _ => "ignoring unknown channel setting"
  | contextTaken _ => "configuration context is already registered"
  | contextUnclaimed _ => "no configurable subscribed for context, skipping"
  | contextNotAnObject _ => "context is not an object, skipping"
  | nonScalarSetting _ _ => "ignoring non-scalar setting"
  | noLocalHandlers _ => "unbinding a key with no local handlers"
  | busShutDown _ => "global bus has been shut down, ignoring"
  | neverSubscribed _ _ => "unsubscribing a subscriber that was never subscribed"
  | noHandlers _ _ => "unbinding a key with no handlers"
  | undeliverable _ _ => "no handler for event, dropping"
  | lowLatencyFailed _ => "couldn't enable low-latency mode"
  | readFailed _ => "read failed"
  | invalidFrame _ => "closing channel on invalid frame"
  | writeFailed _ _ => "write failed"

/-- The names and texts of what a record is about. -/
def fields : Warning → List (String × String)
  | unknownSetting key => [("key", key)]
  | contextTaken context => [("context", context)]
  | contextUnclaimed context => [("context", context)]
  | contextNotAnObject context => [("context", context)]
  | nonScalarSetting context key => [("context", context), ("key", key)]
  | noLocalHandlers subscription => [("subscription", subscription.text)]
  | busShutDown call => [("call", call.text)]
  | neverSubscribed subscriber subscription =>
    [("subscriber", subscriber.text), ("subscription", subscription.text)]
  | noHandlers subscriber subscription =>
    [("subscriber", subscriber.text), ("subscription", subscription.text)]
  | undeliverable subscriber uid => [("subscriber", subscriber.text), ("uid", uid.text)]
  | lowLatencyFailed fault => [("error", fault.message)]
  | readFailed fault => [("error", fault.message)]
  | invalidFrame error => [("error", error.message)]
  | writeFailed error uid => [("error", error.message), ("uid", uid.text)]

end Warning

end EventTransport
