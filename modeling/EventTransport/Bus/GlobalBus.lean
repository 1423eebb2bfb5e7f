import EventTransport.Bus.Registry
import EventTransport.Bus.Mailboxes
import EventTransport.Warning

/-!
Contract: the deferred fan-out of events to subscribers.

Owns:
- `GlobalBus`, registrations by key, a queue of hooked events and whether the bus is shut down;
- registration, hooking and `GlobalBus.update`, which hands out the oldest event.

One subscriber may be registered under a key several times, and gets as many copies. Registrations
of subscribers that no longer live are dropped when an event is routed to their key. After a
shutdown every call does nothing but leave a record.

Main statements: registration leaves the queue alone, and an update takes the event at its front.
-/

namespace EventTransport

/-- Registrations, hooked events, and whether all of it is over. -/
structure GlobalBus where
  registry : Registry SubscriberId := Registry.empty
  queue : List Event := []
  shutDown : Bool := false

namespace GlobalBus

def empty : GlobalBus := {}

instance : Inhabited GlobalBus := ⟨empty⟩

/-- A call that does nothing but leave a record on a bus that is shut down. -/
def guarded (bus : GlobalBus) (call : BusCall) (live : GlobalBus × List Warning) :
    GlobalBus × List Warning :=
  if bus.shutDown then (bus, [.busShutDown call]) else live

/-- A registration added. -/
def subscribe (bus : GlobalBus) (key : Subscription) (id : SubscriberId) :
    GlobalBus × List Warning :=
  bus.guarded .subscribe ({ bus with registry := bus.registry.add key id }, [])

/-- The first registration of a subscriber under a key removed; none is worth a record. -/
def unsubscribe (bus : GlobalBus) (key : Subscription) (id : SubscriberId) :
    GlobalBus × List Warning :=
  bus.guarded .unsubscribe <|
    let registered := bus.registry.get key
    if registered.any id.same then
      ({ bus with registry := bus.registry.put key (registered.eraseP id.same) }, [])
    else (bus, [.neverSubscribed id key])

def hook (bus : GlobalBus) (event : Event) : GlobalBus × List Warning :=
  bus.guarded .hook ({ bus with queue := bus.queue ++ [event] }, [])

/-- All hooked events discarded. -/
def clear (bus : GlobalBus) : GlobalBus × List Warning :=
  bus.guarded .clear ({ bus with queue := [] }, [])

/-- Queue and registrations dropped for good. -/
def shutdown (bus : GlobalBus) : GlobalBus × List Warning :=
  bus.guarded .shutdown ({ registry := Registry.empty, queue := [], shutDown := true }, [])

/-- The registrations under a key whose subscribers live. -/
def living (bus : GlobalBus) (mail : Mailboxes) (key : Subscription) : List SubscriberId :=
  (bus.registry.get key).filter fun id => mail.isOpen id.serial

/-- How many registrations under a key belong to living subscribers. -/
def subscriberCount (bus : GlobalBus) (mail : Mailboxes) (key : Subscription) : Nat :=
  (bus.living mail key).length

/-- What becomes of the registrations under a key to which an event is handed. -/
structure Handout where
  /-- Those whose subscribers took a copy. -/
  kept : List SubscriberId := []
  mail : Mailboxes
  copies : Nat

/-- A copy of an event offered to a registered subscriber; a registration of one that no longer
lives is dropped. -/
def offer (event : Event) (handout : Handout) (id : SubscriberId) : Handout :=
  if handout.mail.isOpen id.serial then
    { kept := handout.kept ++ [id]
      mail := handout.mail.push event id.serial
      copies := handout.copies + 1 }
  else handout

/-- A bus in the course of an update. -/
structure FanOut where
  bus : GlobalBus
  mail : Mailboxes
  copies : Nat

/-- An event offered to every subscriber registered under a key, if there is one. -/
def fanOut (event : Event) (state : FanOut) (key : Subscription) : FanOut :=
  if state.bus.registry.contains key then
    let handout := (state.bus.registry.get key).foldl (offer event)
      { mail := state.mail, copies := state.copies }
    { bus := { state.bus with registry := state.bus.registry.put key handout.kept }
      mail := handout.mail
      copies := handout.copies }
  else state

structure Updated where
  bus : GlobalBus
  mail : Mailboxes
  /-- The number of copies, or none if there was no event. -/
  copies : Option Nat
  warnings : List Warning := []

/-- The oldest hooked event handed to every matching subscriber, first by its kind, then to those of
every event. -/
def update (bus : GlobalBus) (mail : Mailboxes) : Updated :=
  if bus.shutDown then ⟨bus, mail, none, [.busShutDown .update]⟩
  else
    match bus.queue with
    | [] => ⟨bus, mail, none, []⟩
    | event :: rest =>
      let after := (Subscription.route event.uid).foldl (fanOut event)
        { bus := { bus with queue := rest }, mail := mail, copies := 0 }
      ⟨after.bus, after.mail, some after.copies, []⟩

def size (bus : GlobalBus) : Nat := bus.queue.length

def summary (bus : GlobalBus) : String :=
  "GlobalBus \x7b queued: " ++ toString bus.size ++ ", keys: " ++ toString bus.registry.size ++
    ", shut_down: " ++ toString bus.shutDown ++ " \x7d"

theorem queue_subscribe (bus : GlobalBus) (key : Subscription) (id : SubscriberId) :
    (bus.subscribe key id).1.queue = bus.queue := by
  unfold subscribe guarded
  split <;> rfl

theorem queue_unsubscribe (bus : GlobalBus) (key : Subscription) (id : SubscriberId) :
    (bus.unsubscribe key id).1.queue = bus.queue := by
  unfold unsubscribe guarded
  split
  · rfl
  · simp only
    split <;> rfl

theorem queue_fanOut (event : Event) (state : FanOut) (key : Subscription) :
    (fanOut event state key).bus.queue = state.bus.queue := by
  unfold fanOut
  split <;> rfl

/-- An update of a bus that is not shut down takes the event at the front of the queue. -/
theorem queue_update {bus : GlobalBus} (live : bus.shutDown = false) (mail : Mailboxes) :
    (bus.update mail).bus.queue = bus.queue.tail := by
  unfold update
  simp only [live, Bool.false_eq_true, if_false]
  cases queue : bus.queue with
  | nil => simp [queue]
  | cons event rest => simp [Subscription.route, queue_fanOut]

end GlobalBus

end EventTransport
