import EventTransport.Scenario.World

/-!
Contract: what the scripts and steps of a scenario do to its objects by name.

Owns: making, naming and changing buses, subscribers and channels, as far as no handler runs.

An operation on a name that stands for nothing does nothing.
-/

namespace EventTransport

namespace Scenario

/-- A handler ready to be called. -/
def engage (script : Handler) : Play Actor :=
  modifyGet fun world =>
    (world.performers.size, { world with performers := world.performers.push { script := script } })

/-! Local buses -/

def newLocalBus (name : String) : Play Unit :=
  modify fun world =>
    { world with
      localBuses := world.localBuses.push LocalBus.empty
      localBusNames := (name, .alone world.localBuses.size) :: world.localBusNames }

def aliasLocalBus (name other : String) : Play Unit :=
  modify fun world =>
    match world.localBusNames.lookup name with
    | none => world
    | some place => { world with localBusNames := (other, place) :: world.localBusNames }

/-- A change of a local bus, with what it tells. -/
def changeLocalBus {α : Type} [Inhabited α] (name : String)
    (change : LocalBus Actor → α × LocalBus Actor) : Play α :=
  modifyGet fun world =>
    match world.localBusNames.lookup name with
    | none => (default, world)
    | some place =>
      match world.localBusAt? place with
      | none => (default, world)
      | some bus =>
        let (answer, after) := change bus
        (answer, world.storeLocalBus after place)

def bindLocal (name : String) (key : Subscription) (script : Handler) : Play Unit := do
  let actor ← engage script
  changeLocalBus name fun bus => ((), bus.bind key actor)

def unbindLocal (name : String) (key : Subscription) : Play Unit := do
  let warnings ← changeLocalBus name fun bus => (bus.unbind key).swap
  warn warnings

def resetLocal (name : String) : Play Unit := changeLocalBus name fun bus => ((), bus.reset)

/-- An event delivered to a local bus; that of a channel has its dispatch submitted. -/
def deliverTo (name : String) (event : Event) : Play Unit := do
  match (← get).localBusNames.lookup name with
  | none => pure ()
  | some (.alone _) => changeLocalBus name fun bus => ((), bus.enqueue event)
  | some (.ofLine number) => changeChannelAt number fun channel => channel.deliver event

/-! Global buses -/

def newGlobalBus (name : String) : Play Unit :=
  modify fun world =>
    { world with
      globalBuses := world.globalBuses.push GlobalBus.empty
      globalBusNames := (name, world.globalBuses.size) :: world.globalBusNames }

def aliasGlobalBus (name other : String) : Play Unit :=
  modify fun world =>
    match world.globalBusNames.lookup name with
    | none => world
    | some number => { world with globalBusNames := (other, number) :: world.globalBusNames }

/-- A global bus replaced by what became of it. -/
def storeGlobalBus (number : Nat) (bus : GlobalBus) : Play Unit :=
  modify fun world => { world with globalBuses := world.globalBuses.setIfInBounds number bus }

def changeGlobalBus (name : String) (change : GlobalBus → GlobalBus × List Warning) :
    Play Unit := do
  match (← get).globalBus? name with
  | none => pure ()
  | some (number, bus) =>
    let (after, warnings) := change bus
    storeGlobalBus number after
    warn warnings

/-- The oldest event of a global bus handed out; the number of copies. -/
def updateGlobalBus (name : String) : Play (Option Nat) := do
  let world ← get
  match world.globalBus? name with
  | none => pure none
  | some (number, bus) =>
    let updated := bus.update world.mail
    storeGlobalBus number updated.bus
    modify fun world => { world with mail := updated.mail }
    warn updated.warnings
    pure updated.copies

/-! Subscribers -/

/-- A subscriber replaced by what became of it. -/
def storeSubscriber (number : Nat) (subscriber : Subscriber Actor) : Play Unit :=
  modify fun world =>
    { world with
      subscribers := world.subscribers.modify number fun member =>
        { member with subscriber := subscriber } }

/-- A change of the bindings of a subscriber. -/
def rebindSubscriber (name : String)
    (change : Subscriber Actor → GlobalBus → Subscriber.Rebound Actor) : Play Unit := do
  let world ← get
  match world.subscriber? name with
  | none => pure ()
  | some (number, member) =>
    match world.globalBuses[member.bus]? with
    | none => pure ()
    | some bus =>
      let rebound := change member.subscriber bus
      storeSubscriber number rebound.subscriber
      storeGlobalBus member.bus rebound.bus
      warn rebound.warnings

/-- The end of a subscriber: it is unbound everywhere, and its mailbox closes. -/
def dropSubscriber (name : String) : Play Unit := do
  rebindSubscriber name Subscriber.unbindAll
  modify fun world =>
    match world.subscriber? name with
    | none => world
    | some (_, member) =>
      { world with
        mail := world.mail.closeBox member.subscriber.id.serial
        subscriberNames := world.subscriberNames.filter fun entry => entry.1 ≠ name }

/-- A new subscriber of a global bus under a name, in the place of one that had it. -/
def newSubscriber (name bus title : String) : Play Unit := do
  let serial ← modifyGet fun world =>
    (world.nextSerial, { world with nextSerial := world.nextSerial + 1 })
  dropSubscriber name
  modify fun world =>
    match world.globalBus? bus with
    | none => world
    | some (number, _) =>
      { world with
        subscribers := world.subscribers.push
          { subscriber := { id := ⟨serial, title⟩ }, bus := number }
        subscriberNames := (name, world.subscribers.size) :: world.subscriberNames
        mail := world.mail.openBox serial }

def bindSubscriber (name : String) (key : Subscription) (script : Handler) : Play Unit := do
  let actor ← engage script
  rebindSubscriber name fun subscriber bus => subscriber.bind bus key actor

def collectSubscriber (name : String) : Play Unit := do
  let world ← get
  match world.subscriber? name with
  | none => pure ()
  | some (number, member) =>
    let (subscriber, mail) := member.subscriber.collect world.mail
    storeSubscriber number subscriber
    modify fun world => { world with mail := mail }

/-- A call of a global bus on behalf of a subscriber. -/
def registerSubscriber (bus member : String)
    (call : GlobalBus → SubscriberId → GlobalBus × List Warning) : Play Unit := do
  match (← get).subscriber? member with
  | none => pure ()
  | some (_, found) => changeGlobalBus bus fun bus => call bus found.subscriber.id

/-! Channels -/

/-- A new channel under a name, under which its bus is known as well. -/
def newChannel (name : String) (channel : Channel Actor) (isSpied : Bool) : Play Unit :=
  modify fun world =>
    let number := world.lines.size
    { world with
      lines := world.lines.push { channel := channel, isSpied := isSpied }
      channelNames := (name, number) :: world.channelNames
      localBusNames := (name, .ofLine number) :: world.localBusNames }

def aliasChannel (name other : String) : Play Unit :=
  modify fun world =>
    match world.channelNames.lookup name with
    | none => world
    | some number =>
      { world with
        channelNames := (other, number) :: world.channelNames
        localBusNames := (other, .ofLine number) :: world.localBusNames }

def changeChannel (name : String) (change : Channel Actor → Channel Actor) : Play Unit := do
  match (← get).channelNames.lookup name with
  | none => pure ()
  | some number => changeChannelAt number change

end Scenario

end EventTransport
