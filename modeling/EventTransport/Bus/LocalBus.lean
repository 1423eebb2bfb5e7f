import EventTransport.Bus.Registry
import EventTransport.Event.Basic
import EventTransport.Warning

/-!
Contract: the immediate dispatcher of a channel.

Owns:
- `LocalBus`, handlers by key and a queue of events that wait;
- binding, queueing, and taking the oldest event together with the handlers it goes to.

An event goes to the handlers of its own kind, then to those of every event, in the order of
binding. Which handlers it goes to is settled when the event leaves the queue, so a handler may
bind, unbind, queue and dispatch while it runs. A bus knows handlers only by what names them.

Main statements: events leave a queue only from its front; binding leaves the queue alone.

Does not own: running handlers.
-/

namespace EventTransport

/-- Handlers by key, and events that wait. -/
structure LocalBus (H : Type) where
  bindings : Registry H := Registry.empty
  queue : List Event := []

namespace LocalBus

variable {H : Type}

def empty : LocalBus H := {}

instance : Inhabited (LocalBus H) := ⟨empty⟩

/-- A handler bound after those already bound under its key. -/
def bind (bus : LocalBus H) (key : Subscription) (handler : H) : LocalBus H :=
  { bus with bindings := bus.bindings.add key handler }

/-- All handlers of a key unbound; a key without handlers is worth a record. -/
def unbind (bus : LocalBus H) (key : Subscription) : LocalBus H × List Warning :=
  if bus.bindings.contains key then ({ bus with bindings := bus.bindings.erase key }, [])
  else (bus, [.noLocalHandlers key])

/-- All handlers unbound; waiting events go on waiting. -/
def reset (bus : LocalBus H) : LocalBus H := { bus with bindings := Registry.empty }

def isBound (bus : LocalBus H) (key : Subscription) : Bool := !(bus.bindings.get key).isEmpty

def pending (bus : LocalBus H) : Nat := bus.queue.length

def enqueue (bus : LocalBus H) (event : Event) : LocalBus H :=
  { bus with queue := bus.queue ++ [event] }

/-- The handlers that an event goes to now, in order. -/
def handlersFor (bus : LocalBus H) (event : Event) : List H := bus.bindings.route event.uid

/-- The oldest waiting event, the handlers it goes to, and the bus without it. -/
def take? (bus : LocalBus H) : Option (Event × List H × LocalBus H) :=
  match bus.queue with
  | [] => none
  | event :: rest => some (event, bus.handlersFor event, { bus with queue := rest })

def summary (bus : LocalBus H) (attached : Bool) : String :=
  "LocalBus \x7b bindings: " ++ toString bus.bindings.size ++ ", pending: " ++
    toString bus.pending ++ ", attached: " ++ toString attached ++ " \x7d"

@[simp] theorem queue_bind (bus : LocalBus H) (key : Subscription) (handler : H) :
    (bus.bind key handler).queue = bus.queue := rfl

@[simp] theorem queue_unbind (bus : LocalBus H) (key : Subscription) :
    (bus.unbind key).1.queue = bus.queue := by
  unfold unbind
  split <;> rfl

@[simp] theorem queue_reset (bus : LocalBus H) : bus.reset.queue = bus.queue := rfl

@[simp] theorem queue_enqueue (bus : LocalBus H) (event : Event) :
    (bus.enqueue event).queue = bus.queue ++ [event] := rfl

theorem get_bind (bus : LocalBus H) (key other : Subscription) (handler : H) :
    (bus.bind key handler).bindings.get other =
      if other = key then bus.bindings.get key ++ [handler] else bus.bindings.get other :=
  Registry.get_add bus.bindings key other handler

/-- A key without handlers may be unbound as well. -/
theorem get_unbind (bus : LocalBus H) (key other : Subscription) :
    (bus.unbind key).1.bindings.get other = if other = key then [] else bus.bindings.get other := by
  unfold unbind
  split
  · exact Registry.get_erase bus.bindings key other
  · rename_i absent
    split
    · rename_i same
      rw [same]
      exact Registry.get_of_not_contains absent
    · rfl

/-- What is taken is the front of the queue, and nothing else changes. -/
theorem take?_eq_some_iff {bus after : LocalBus H} {event : Event} {handlers : List H} :
    bus.take? = some (event, handlers, after) ↔
      bus.queue = event :: after.queue ∧ after.bindings = bus.bindings ∧
        handlers = bus.handlersFor event := by
  obtain ⟨bindings, queue⟩ := bus
  obtain ⟨afterBindings, afterQueue⟩ := after
  unfold take?
  cases queue with
  | nil => simp
  | cons head rest =>
    simp only [Option.some.injEq, Prod.mk.injEq, LocalBus.mk.injEq, List.cons.injEq]
    constructor
    · rintro ⟨rfl, rfl, rfl, rfl⟩
      exact ⟨⟨rfl, rfl⟩, rfl, rfl⟩
    · rintro ⟨⟨rfl, rfl⟩, rfl, rfl⟩
      exact ⟨rfl, rfl, rfl, rfl⟩

theorem queue_of_take?_eq_none {bus : LocalBus H} (nothing : bus.take? = none) :
    bus.queue = [] := by
  unfold take? at nothing
  split at nothing
  · assumption
  · cases nothing

end LocalBus

end EventTransport
