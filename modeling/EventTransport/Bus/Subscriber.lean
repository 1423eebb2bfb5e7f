import EventTransport.Bus.GlobalBus

/-!
Contract: resumable consumers of a global bus.

Owns:
- `Subscriber`, a private queue, handlers by key, and the handlers still owed the event at the
  front;
- binding and unbinding, which keep the registrations on the bus in step;
- `Subscriber.process`, one step on the event at the front.

The handlers of an event are settled when it is first visited: those of its kind, then those of
every event. A handler that answers `false` is asked again in the next step, one that answers `true`
is done with the event, and so is one that has been unbound. The event leaves the queue when no
handler is left; until then later events wait.

Main statements: of the handlers owed an event those stay owed that are bound and not done with it;
a step is done when none is left.

Does not own: running handlers, which is left to the monad in which a step is taken.
-/

namespace EventTransport

inductive Progress where
  /-- Nothing was queued. -/
  | idle
  /-- The event had no handler and was dropped. -/
  | undeliverable
  /-- A handler is not done; the event stays at the front. -/
  | pending
  /-- Every handler is done; the event was removed. -/
  | done
deriving DecidableEq

namespace Progress

def text : Progress → String
  | idle => "Idle"
  | undeliverable => "Undeliverable"
  | pending => "Pending"
  | done => "Done"

/-- Whether the queue advanced, or had nothing to advance. -/
def isSettled (progress : Progress) : Bool := progress ≠ pending

end Progress

/-- The number of a handler of one subscriber; no number is given out twice. Numbers do not run out:
a subscriber that 2^64 handlers have been bound to is out of scope. -/
abbrev HandlerNumber := Nat

/-- A consumer of a global bus. -/
structure Subscriber (H : Type) where
  id : SubscriberId
  /-- Events taken from the mailbox, the one in progress first. -/
  queue : List Event := []
  handlers : List (HandlerNumber × H) := []
  table : Registry HandlerNumber := Registry.empty
  /-- The handlers still owed the first event; none until it is first visited. -/
  tracker : Option (List HandlerNumber) := none
  nextHandler : HandlerNumber := 0

namespace Subscriber

variable {H : Type}

structure Rebound (H : Type) where
  subscriber : Subscriber H
  bus : GlobalBus
  warnings : List Warning := []

/-- A handler bound under a key. The first one of a key registers the subscriber on the bus. -/
def bind (subscriber : Subscriber H) (bus : GlobalBus) (key : Subscription) (handler : H) :
    Rebound H :=
  let number := subscriber.nextHandler
  let bound : Subscriber H :=
    { subscriber with
      handlers := subscriber.handlers ++ [(number, handler)]
      table := subscriber.table.add key number
      nextHandler := number + 1 }
  if subscriber.table.contains key then { subscriber := bound, bus := bus }
  else
    let (registered, warnings) := bus.subscribe key subscriber.id
    { subscriber := bound, bus := registered, warnings := warnings }

/-- All handlers of a key unbound, together with the registration on the bus; a key without handlers
is worth a record. -/
def unbind (subscriber : Subscriber H) (bus : GlobalBus) (key : Subscription) : Rebound H :=
  if subscriber.table.contains key then
    let numbers := subscriber.table.get key
    let unbound : Subscriber H :=
      { subscriber with
        handlers := subscriber.handlers.filter fun entry => !numbers.contains entry.1
        table := subscriber.table.erase key }
    let (released, warnings) := bus.unsubscribe key subscriber.id
    { subscriber := unbound, bus := released, warnings := warnings }
  else { subscriber := subscriber, bus := bus, warnings := [.noHandlers subscriber.id key] }

/-- The handlers of several keys unbound in turn. -/
def unbindEach (subscriber : Subscriber H) (bus : GlobalBus) : List Subscription → Rebound H
  | [] => { subscriber := subscriber, bus := bus }
  | key :: keys =>
    let now := subscriber.unbind bus key
    let later := now.subscriber.unbindEach now.bus keys
    { later with warnings := now.warnings ++ later.warnings }

def unbindAll (subscriber : Subscriber H) (bus : GlobalBus) : Rebound H :=
  subscriber.unbindEach bus subscriber.table.keys

def isBound (subscriber : Subscriber H) (key : Subscription) : Bool :=
  subscriber.table.contains key

/-- The mailbox emptied into the queue. -/
def collect (subscriber : Subscriber H) (mail : Mailboxes) : Subscriber H × Mailboxes :=
  let (events, emptied) := mail.takeAll subscriber.id.serial
  ({ subscriber with queue := subscriber.queue ++ events }, emptied)

/-- How many events wait, the one in progress included. -/
def pending (subscriber : Subscriber H) : Nat := subscriber.queue.length

/-- The handlers owed an event: those of a visit that has begun, or all of them now. -/
def owed (subscriber : Subscriber H) (event : Event) : List HandlerNumber :=
  subscriber.tracker.getD (subscriber.table.route event.uid)

/-- The subscriber without the event at its front. -/
def advance (subscriber : Subscriber H) : Subscriber H :=
  { subscriber with queue := subscriber.queue.tail, tracker := none }

/-- An event handed to those of the numbered handlers that are still bound; the numbers of those
that are not done with it. -/
def visit {m : Type → Type} [Monad m] (ask : H → Event → m Bool)
    (handlers : List (HandlerNumber × H))
    (event : Event) : List HandlerNumber → m (List HandlerNumber)
  | [] => pure []
  | number :: numbers =>
    match handlers.lookup number with
    | none => visit ask handlers event numbers
    | some handler => do
      let isDone ← ask handler event
      let kept ← visit ask handlers event numbers
      pure (if isDone then kept else number :: kept)

structure Stepped (H : Type) where
  subscriber : Subscriber H
  progress : Progress
  warnings : List Warning := []

/-- The end of a visit. -/
def settle (subscriber : Subscriber H) (kept : List HandlerNumber) : Stepped H :=
  if kept.isEmpty then { subscriber := subscriber.advance, progress := .done }
  else { subscriber := { subscriber with tracker := some kept }, progress := .pending }

/-- One step on the event at the front of the queue, the mailbox having been emptied into it. -/
def process {m : Type → Type} [Monad m] (ask : H → Event → m Bool) (subscriber : Subscriber H) :
    m (Stepped H) :=
  match subscriber.queue with
  | [] => pure { subscriber := subscriber, progress := .idle }
  | event :: _ =>
    let numbers := subscriber.owed event
    if numbers.isEmpty then
      pure { subscriber := subscriber.advance, progress := .undeliverable,
             warnings := [.undeliverable subscriber.id event.uid] }
    else do
      let kept ← visit ask subscriber.handlers event numbers
      pure (subscriber.settle kept)

/-- Whether a handler is still owed an event after it has been asked: it is bound and not done. -/
def staysOwed (ask : H → Event → Bool) (handlers : List (HandlerNumber × H)) (event : Event)
    (number : HandlerNumber) : Bool :=
  match handlers.lookup number with
  | none => false
  | some handler => !ask handler event

/-- Handlers whose answers depend on the event alone stay owed it exactly if they are bound and not
done with it. -/
theorem visit_eq_filter (ask : H → Event → Bool) (handlers : List (HandlerNumber × H))
    (event : Event) (numbers : List HandlerNumber) :
    visit (m := Id) ask handlers event numbers =
      numbers.filter (staysOwed ask handlers event) := by
  induction numbers with
  | nil => rfl
  | cons number numbers inductionHypothesis =>
    unfold visit
    rw [inductionHypothesis]
    cases bound : handlers.lookup number with
    | none => simp [staysOwed, bound]
    | some handler =>
      show (if ask handler event then _ else number :: _) = _
      cases answer : ask handler event <;> simp [staysOwed, bound, answer]

/-- A visit is over when no handler is left. -/
theorem progress_settle (subscriber : Subscriber H) (kept : List HandlerNumber) :
    (subscriber.settle kept).progress = if kept = [] then .done else .pending := by
  unfold settle
  cases kept <;> simp

/-- Emptying the mailbox puts what was in it behind what waits. -/
theorem queue_collect (subscriber : Subscriber H) (mail : Mailboxes) :
    (subscriber.collect mail).1.queue = subscriber.queue ++ mail.waiting subscriber.id.serial := rfl

def summary (subscriber : Subscriber H) : String :=
  "Subscriber \x7b id: " ++ subscriber.id.fields ++ ", keys: " ++ toString subscriber.table.size ++
    ", queued: " ++ toString subscriber.pending ++ ", in_progress: " ++
    toString subscriber.tracker.isSome ++ " \x7d"

end Subscriber

end EventTransport
