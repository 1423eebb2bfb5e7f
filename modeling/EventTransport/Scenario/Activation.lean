import EventTransport.Scenario.Objects

/-!
Contract: scripted handlers at work.

Owns:
- `Run`, what happens while handlers run, which one of them may end by dying;
- `call`, one call of a handler with everything that its acts bring about;
- dispatching local buses and taking steps of subscribers.

A handler may call others by its acts, and these others again; how deep that goes is bounded.

Does not own: tasks.
-/

namespace EventTransport

namespace Scenario

/-- Why handlers stop in the middle. -/
inductive Interruption where
  | died
  /-- Handlers call handlers too deep. -/
  | tooDeep

/-- What happens while handlers run. What was done stays done when one of them dies. -/
abbrev Run := ExceptT Interruption Play

/-- What happens, up to a death of a handler; whether it came to its end. -/
def attempt {α : Type} (run : Run α) : Play (Option α) := do
  match ← run.run with
  | .ok value => pure (some value)
  | .error _ => pure none

/-- The oldest event of a local bus taken, with the handlers it goes to. -/
def takeFrom (name : String) : Play (Option (Event × List Actor)) :=
  changeLocalBus name fun bus =>
    match bus.take? with
    | none => (none, bus)
    | some (event, actors, after) => (some (event, actors), after)

/-- The handlers of an event on a local bus, at once. -/
def presentWith (callAll : List Actor → Event → Run Unit) (name : String) (event : Event) :
    Run Unit := do
  match (← get).localBus? name with
  | none => pure ()
  | some bus => callAll (bus.handlersFor event) event

/-- The oldest event of a local bus handed to its handlers; whether there was one. -/
def dispatchWith (callAll : List Actor → Event → Run Unit) (name : String) : Run Bool := do
  match ← takeFrom name with
  | none => pure false
  | some (event, actors) => do
    callAll actors event
    pure true

/-- One act, by a handler that has been called with an event; what it tells. -/
def perform (callAll : List Actor → Event → Run Unit) (event : Event) : Act → Run (Option Answer)
  | .bind bus key script => do bindLocal bus key script; pure none
  | .unbind bus key => do unbindLocal bus key; pure none
  | .reset bus => do resetLocal bus; pure none
  | .deliver bus other => do deliverTo bus other; pure none
  | .present bus other => do presentWith callAll bus other; pure none
  | .dispatch bus => do pure (some (.dispatched (← dispatchWith callAll bus)))
  | .askPending bus => do
    pure (((← get).localBus? bus).map fun found => .pending found.pending)
  | .hook bus other => do changeGlobalBus bus fun found => found.hook other; pure none
  | .forward bus => do changeGlobalBus bus fun found => found.hook event; pure none
  | .update bus => do pure (some (.copies (← updateGlobalBus bus)))
  | .clear bus => do changeGlobalBus bus GlobalBus.clear; pure none
  | .shutdown bus => do changeGlobalBus bus GlobalBus.shutdown; pure none
  | .send channel other => do changeChannel channel fun found => found.send other; pure none
  | .echo channel => do changeChannel channel fun found => found.send event; pure none
  | .stop channel => do changeChannel channel Channel.stop; pure none
  | .askState channel => do
    pure (((← get).channel? channel).map fun found => .state found.state)
  | .die => throw .died

/-- The acts of a call, one after the other, with what they tell in the log. -/
def performAll (callAll : List Actor → Event → Run Unit) (tag : String) (event : Event) :
    List Act → Run Unit
  | [] => pure ()
  | act :: acts => do
    match ← perform callAll event act with
    | none => pure ()
    | some answer => note (.told tag answer)
    performAll callAll tag event acts

/-- The call of a handler counted; its script and the number of calls before. -/
def enter (actor : Actor) : Play (Option (Handler × Nat)) :=
  modifyGet fun world =>
    match world.performers[actor]? with
    | none => (none, world)
    | some performer =>
      (some (performer.script, performer.calls),
        { world with
          performers := world.performers.setIfInBounds actor
            { performer with calls := performer.calls + 1 } })

/-- A handler called with an event, by handlers that were called by others to some depth. -/
def call : Nat → Actor → Event → Run Bool
  | 0, _, _ => throw .tooDeep
  | depth + 1, actor, event => do
    match ← enter actor with
    | none => pure true
    | some (script, calls) => do
      note (.called script.tag event)
      performAll (fun actors other => actors.forM fun next => discard (call depth next other))
        script.tag event (script.actsOf calls)
      pure (script.answerOf calls)

/-- How deep handlers may call handlers. -/
def greatestDepth : Nat := 100000

/-- A handler called by none. -/
def callActor (actor : Actor) (event : Event) : Run Bool := call greatestDepth actor event

/-- Handlers called in order, by none. -/
def callActors (actors : List Actor) (event : Event) : Run Unit :=
  actors.forM fun actor => discard (callActor actor event)

/-- The handlers of an event on a local bus called at once. -/
def present (name : String) (event : Event) : Play Unit :=
  discard (attempt (presentWith callActors name event))

/-- The oldest event of a local bus handed to its handlers; whether there was one. -/
def dispatch (name : String) : Play Bool := do
  pure ((← attempt (dispatchWith callActors name)).getD true)

/-- Events of a local bus dispatched until none is left, up to a number of them; how many. -/
def dispatchAll (name : String) : Nat → Play Nat
  | 0 => pure 0
  | limit + 1 => do
    if ← dispatch name then
      let others ← dispatchAll name limit
      pure (others + 1)
    else pure 0

/-- Events of a global bus handed out until none is left, up to a number of them; the numbers of
copies. -/
def updateUpTo (name : String) : Nat → Play (List Nat)
  | 0 => pure []
  | limit + 1 => do
    match ← updateGlobalBus name with
    | none => pure []
    | some copies => do
      let others ← updateUpTo name limit
      pure (copies :: others)

/-- Every event of a global bus handed out, and then one call more, which finds none; the numbers of
copies. -/
def updateAll (name : String) : Play (List Nat) := do
  match (← get).globalBus? name with
  | none => pure []
  | some (_, bus) => updateUpTo name (bus.size + 1)

def processSubscriber (name : String) : Play Progress := do
  collectSubscriber name
  match (← get).subscriber? name with
  | none => pure .idle
  | some (number, member) =>
    match ← attempt (member.subscriber.process callActor) with
    | none => pure .idle
    | some stepped => do
      storeSubscriber number stepped.subscriber
      warn stepped.warnings
      pure stepped.progress

/-- Steps of a subscriber until one is idle, up to a number of them. -/
def processAll (name : String) : Nat → Play (List Progress)
  | 0 => pure []
  | limit + 1 => do
    match ← processSubscriber name with
    | .idle => pure [.idle]
    | progress => do
      let others ← processAll name limit
      pure (progress :: others)

end Scenario

end EventTransport
