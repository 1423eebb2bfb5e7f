import EventTransport.Bus.Subscriber

/-!
Contract: the life of a subscriber among buses, other subscribers and handlers that do as they like.

Owns:
- `Life`, a subscriber in its surroundings with the history of what happened to it;
- `Life.visit` and `Life.step`, one call and what it leaves in the history;
- what a history says: which handlers are bound, which are done with an event, and whether one is
  in progress.

A handler may change everything but the subscriber that calls it. What others do between two calls
may change the same things, so it is one more kind of call.

Does not own: invariants of a life.
-/

namespace EventTransport

namespace Subscriber

/-- What a handler may act on: a bus, the mailboxes, and whatever handlers remember. -/
structure Surroundings (σ : Type) where
  bus : GlobalBus
  mail : Mailboxes
  memory : σ

/-- A handler together with the number it was bound as, by which histories tell handlers apart. -/
structure Numbered (H : Type) where
  number : HandlerNumber
  handler : H

/-! ### Histories -/

/-- A handler was called with an event and answered whether it is done. -/
structure Asked where
  number : HandlerNumber
  event : Event
  isDone : Bool
deriving DecidableEq

/-- What one step on the queue was about. -/
structure Visit where
  /-- The queue with the mailbox emptied into it. -/
  found : List Event
  /-- The calls of handlers, in order. -/
  asked : List Asked
  progress : Progress
  /-- The queue afterwards. -/
  left : List Event
deriving DecidableEq

/-- What happened to a subscriber. -/
inductive Happening where
  | bound (key : Subscription) (number : HandlerNumber)
  | unbound (key : Subscription)
  | unboundAll
  | processed (visit : Visit)
  /-- Nothing that concerns its handlers. -/
  | aside
deriving DecidableEq

namespace Happening

/-- Whether the handlers of a key are unbound by this. -/
def unbinds (key : Subscription) : Happening → Bool
  | unbound other => other = key
  | unboundAll => true
  | _ => false

/-- Whether a handler says by this that it is done. -/
def completes (number : HandlerNumber) : Happening → Bool
  | processed visit => visit.asked.any fun asked => asked.number = number && asked.isDone
  | _ => false

end Happening

/-- The handlers bound under a key, in the order of binding. -/
def boundUnder (key : Subscription) (history : List Happening) : List HandlerNumber :=
  history.foldl (fun numbers happening =>
    match happening with
    | .bound other number => if other = key then numbers ++ [number] else numbers
    | _ => if happening.unbinds key then [] else numbers) []

/-- The handlers bound for the events of a kind, each with its key: those of the kind first, then
those of every event. -/
def boundFor (uid : Uid) (history : List Happening) : List (Subscription × HandlerNumber) :=
  (boundUnder (.uid uid) history).map (Prod.mk (.uid uid)) ++
    (boundUnder .all history).map (Prod.mk .all)

/-- The outcome of the last step on the queue. -/
def lastProgress (history : List Happening) : Option Progress :=
  history.foldl (fun last happening =>
    match happening with
    | .processed visit => some visit.progress
    | _ => last) none

/-- An event is first seen at the front of the queue after `before`; `since` is what happened from
that step on, and no step of it has settled the event. -/
structure InProgress (before since : List Happening) : Prop where
  firstSight : lastProgress before ≠ some .pending
  begins : ∀ happening, since.head? = some happening → ∃ visit, happening = .processed visit
  unsettled : ∀ visit, .processed visit ∈ since → visit.progress = .pending

/-- Whether a handler is still owed an event: it has neither been done with it nor been unbound
since the event was first seen. -/
def isOwedStill (since : List Happening) (member : Subscription × HandlerNumber) : Bool :=
  !since.any (Happening.completes member.2) && !since.any (Happening.unbinds member.1)

/-! ### Calls -/

/-- A subscriber in its surroundings, and what has happened to it. -/
structure Life (H σ : Type) where
  subscriber : Subscriber (Numbered H)
  around : Surroundings σ
  history : List Happening := []

/-- What is done to a subscriber or around it. -/
inductive Call (H σ : Type) where
  | bind (key : Subscription) (handler : H)
  | unbind (key : Subscription)
  | unbindAll
  /-- One step on the queue. -/
  | process
  /-- The waiting events counted. -/
  | count
  | hook (event : Event)
  | update
  /-- An event put into the mailbox. -/
  | arrive (event : Event)
  /-- Anything that others do. -/
  | elsewhere (change : Surroundings σ → Surroundings σ)

section Steps

variable {H σ : Type} (ask : H → Event → StateM (Surroundings σ) Bool)

/-- A handler asked, and its answer written down. -/
def record (numbered : Numbered H) (event : Event) :
    StateM (Surroundings σ × List Asked) Bool := fun state =>
  let answer := ask numbered.handler event state.1
  (answer.1, answer.2, state.2 ++ [⟨numbered.number, event, answer.1⟩])

namespace Life

/-- The life of a new subscriber. -/
def start (id : SubscriberId) (around : Surroundings σ) : Life H σ :=
  { subscriber := { id := id }, around := around }

/-- The mailbox emptied into the queue. -/
def collect (life : Life H σ) : Life H σ :=
  let collected := life.subscriber.collect life.around.mail
  { life with subscriber := collected.1, around := { life.around with mail := collected.2 } }

/-- One step on the queue, and what it was about. -/
def visit (life : Life H σ) : Visit × Life H σ :=
  let ready := life.collect
  let outcome := (ready.subscriber.process (record ask)).run (ready.around, [])
  let visit : Visit :=
    { found := ready.subscriber.queue
      asked := outcome.2.2
      progress := outcome.1.progress
      left := outcome.1.subscriber.queue }
  (visit,
    { subscriber := outcome.1.subscriber
      around := outcome.2.1
      history := life.history ++ [.processed visit] })

/-- A change of the surroundings. -/
def change (life : Life H σ) (change : Surroundings σ → Surroundings σ) : Life H σ :=
  { life with around := change life.around, history := life.history ++ [.aside] }

/-- A change of the bindings, which changes the bus as well. -/
def rebind (life : Life H σ) (rebound : Rebound (Numbered H)) (happening : Happening) : Life H σ :=
  { subscriber := rebound.subscriber
    around := { life.around with bus := rebound.bus }
    history := life.history ++ [happening] }

/-- One call. -/
def step (life : Life H σ) : Call H σ → Life H σ
  | .bind key handler =>
    let number := life.subscriber.nextHandler
    life.rebind (life.subscriber.bind life.around.bus key ⟨number, handler⟩) (.bound key number)
  | .unbind key => life.rebind (life.subscriber.unbind life.around.bus key) (.unbound key)
  | .unbindAll => life.rebind (life.subscriber.unbindAll life.around.bus) .unboundAll
  | .process => (life.visit ask).2
  | .count => life.collect.change fun around => around
  | .hook event => life.change fun around => { around with bus := (around.bus.hook event).1 }
  | .update =>
    life.change fun around =>
      let updated := around.bus.update around.mail
      { around with bus := updated.bus, mail := updated.mail }
  | .arrive event =>
    life.change fun around =>
      { around with mail := around.mail.push event life.subscriber.id.serial }
  | .elsewhere change => life.change change

/-- Calls one after the other. -/
def run (life : Life H σ) (calls : List (Call H σ)) : Life H σ :=
  calls.foldl (step ask) life

end Life

end Steps

end Subscriber

end EventTransport
