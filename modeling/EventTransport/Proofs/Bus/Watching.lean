import EventTransport.Proofs.Bus.Shutdown
import EventTransport.Proofs.Subscriber.Representation

/-!
Contract: a global bus as it is seen from one of its subscribers.

Owns:
- that subscribers with the same bindings stay so in whatever they bind, and go the same way in a
  step on the same event;
- `Subscriber.work`, a step on a queue as a function of the subscriber and of what its handlers
  remember;
- `Hub.Watch`, a hub with what is seen of one subscriber, and `Hub.Watch.run` on the deeds that are
  done by it and beside it;
- `Hub.exists_attended`, by which a step on a private queue is that function, whatever handlers do
  to everybody else meanwhile;
- `Hub.related_foldl`, two runs that agree on the deeds that concern a relation.

Does not own: which deeds concern a subscriber.
-/

namespace EventTransport

/-! ### Steps of subscribers with the same handlers -/

namespace Subscriber

variable {H : Type}

theorem subscriber_bind (subscriber : Subscriber H) (bus : GlobalBus) (key : Subscription)
    (handler : H) :
    (subscriber.bind bus key handler).subscriber =
      { subscriber with
        handlers := subscriber.handlers ++ [(subscriber.nextHandler, handler)]
        table := subscriber.table.add key subscriber.nextHandler
        nextHandler := subscriber.nextHandler + 1 } := by
  unfold bind
  dsimp only
  split <;> rfl

theorem subscriber_unbind (subscriber : Subscriber H) (bus : GlobalBus) (key : Subscription) :
    (subscriber.unbind bus key).subscriber =
      if subscriber.isBound key then
        { subscriber with
          handlers := subscriber.handlers.filter fun entry =>
            !(subscriber.table.get key).contains entry.1
          table := subscriber.table.erase key }
      else subscriber := by
  unfold unbind isBound
  split <;> rfl

namespace SameBindings

variable {left right : Subscriber H}

theorem symm (same : left.SameBindings right) : right.SameBindings left :=
  ⟨same.table.symm, same.handlers.symm, same.nextHandler.symm⟩

theorem trans {other : Subscriber H} (same : left.SameBindings right)
    (further : right.SameBindings other) : left.SameBindings other :=
  ⟨further.table.trans same.table, further.handlers.trans same.handlers,
    further.nextHandler.trans same.nextHandler⟩

theorem isBound (same : left.SameBindings right) (key : Subscription) :
    right.isBound key = left.isBound key := by
  unfold Subscriber.isBound
  rw [same.table]

/-- What a bus does to a registration does not matter to the handlers. -/
theorem bind (same : left.SameBindings right) (leftBus rightBus : GlobalBus) (key : Subscription)
    (handler : H) : (left.bind leftBus key handler).subscriber.SameBindings
      (right.bind rightBus key handler).subscriber := by
  rw [subscriber_bind, subscriber_bind, same.handlers, same.table, same.nextHandler]
  exact ⟨rfl, rfl, rfl⟩

theorem unbind (same : left.SameBindings right) (leftBus rightBus : GlobalBus)
    (key : Subscription) :
    (left.unbind leftBus key).subscriber.SameBindings (right.unbind rightBus key).subscriber := by
  rw [subscriber_unbind, subscriber_unbind, same.isBound]
  split
  · rw [same.handlers, same.table]
    exact ⟨rfl, rfl, same.nextHandler⟩
  · exact same

theorem unbindEach (same : left.SameBindings right) (leftBus rightBus : GlobalBus)
    (keys : List Subscription) :
    (left.unbindEach leftBus keys).subscriber.SameBindings
      (right.unbindEach rightBus keys).subscriber := by
  induction keys generalizing left right leftBus rightBus with
  | nil => exact same
  | cons key keys inductionHypothesis => exact inductionHypothesis (same.unbind _ _ key) _ _

theorem unbindAll (same : left.SameBindings right) (leftBus rightBus : GlobalBus) :
    (left.unbindAll leftBus).subscriber.SameBindings (right.unbindAll rightBus).subscriber := by
  unfold Subscriber.unbindAll
  rw [same.table]
  exact same.unbindEach leftBus rightBus left.table.keys

end SameBindings

section Working

variable {σ τ μ : Type}

theorem sameBindings_process (ask : H → Event → StateM σ Bool) (subscriber : Subscriber H)
    (state : σ) : ((subscriber.process ask).run state).1.subscriber.SameBindings subscriber := by
  obtain ⟨answers, settles⟩ := subscriber.exists_answers ask state
  rw [settles]
  rcases subscriber.settled_cases answers with advanced | ⟨tracker, kept⟩
  · rw [advanced]
    exact ⟨rfl, rfl, rfl⟩
  · rw [kept]
    exact ⟨rfl, rfl, rfl⟩

theorem tracker_settle {left right : Subscriber H} (kept : List HandlerNumber) :
    (left.settle kept).progress = (right.settle kept).progress ∧
      (left.settle kept).subscriber.tracker = (right.settle kept).subscriber.tracker := by
  unfold settle
  split <;> exact ⟨rfl, rfl⟩

/-- A step on the same event with the same handlers goes the same way. -/
theorem process_alike {left right : Subscriber H} (same : left.SameBindings right)
    (tracker : left.tracker = right.tracker) (front : left.queue.head? = right.queue.head?)
    (ask : H → Event → StateM σ Bool) (state : σ) :
    let first := (left.process ask).run state
    let second := (right.process ask).run state
    first.2 = second.2 ∧ first.1.progress = second.1.progress ∧
      first.1.subscriber.tracker = second.1.subscriber.tracker := by
  unfold process
  cases leftQueue : left.queue with
  | nil =>
      rw [leftQueue] at front
      rw [List.head?_eq_none_iff.mp front.symm]
      exact ⟨rfl, rfl, tracker⟩
  | cons event leftRest =>
      rw [leftQueue] at front
      obtain ⟨rightRest, rightQueue⟩ := List.head?_eq_some_iff.mp front.symm
      have owed : left.owed event = right.owed event := by
        unfold owed
        rw [tracker, same.table]
      rw [rightQueue]
      simp only [owed]
      by_cases nobody : (right.owed event).isEmpty = true
      · simp only [nobody, if_true]
        exact ⟨rfl, rfl, rfl⟩
      · simp only [nobody, same.handlers]
        exact ⟨rfl, tracker_settle _⟩

/-- Handlers that are seen through a part of the state alone answer by that part. -/
def Projects (view : σ → τ) (ask : H → Event → StateM σ Bool) (seen : H → Event → StateM τ Bool) :
    Prop :=
  ∀ handler event state,
    seen handler event (view state) =
      ((ask handler event state).1, view (ask handler event state).2)

variable {view : σ → τ} {ask : H → Event → StateM σ Bool} {seen : H → Event → StateM τ Bool}

theorem visit_projects (projects : Projects view ask seen) (handlers : List (HandlerNumber × H))
    (event : Event) (numbers : List HandlerNumber) (state : σ) :
    (visit seen handlers event numbers).run (view state) =
      (((visit ask handlers event numbers).run state).1,
        view ((visit ask handlers event numbers).run state).2) := by
  induction numbers generalizing state with
  | nil => rfl
  | cons number numbers inductionHypothesis =>
      cases bound : handlers.lookup number with
      | none =>
          unfold visit
          rw [bound]
          exact inductionHypothesis state
      | some handler =>
          have now := projects handler event state
          have later := inductionHypothesis (ask handler event state).2
          rw [visit_cons_of_bound seen bound, visit_cons_of_bound ask bound]
          simp only [now, later]

theorem process_projects (projects : Projects view ask seen) (subscriber : Subscriber H)
    (state : σ) :
    (subscriber.process seen).run (view state) =
      (((subscriber.process ask).run state).1, view ((subscriber.process ask).run state).2) := by
  unfold process
  cases subscriber.queue with
  | nil => rfl
  | cons event rest =>
      by_cases nobody : (subscriber.owed event).isEmpty = true
      · simp only [nobody, if_true]
        rfl
      · have visited := visit_projects projects subscriber.handlers event
          (subscriber.owed event) state
        simp only [nobody]
        exact congrArg (fun outcome => (subscriber.settle outcome.1, outcome.2)) visited

end Working

/-- Handlers that look at nothing but the event and what they remember, and who was asked about
what. -/
def remembering {μ : Type} (answer : H → Event → μ → Bool × μ) (handler : H) (event : Event) :
    StateM (μ × List (H × Event)) Bool := fun state =>
  let given := answer handler event state.1
  (given.1, given.2, state.2 ++ [(handler, event)])

/-- A step of such handlers, on the queue as it is. -/
def work {μ : Type} (answer : H → Event → μ → Bool × μ) (subscriber : Subscriber H) (memory : μ) :
    Stepped H × μ × List (H × Event) :=
  (subscriber.process (remembering answer)).run (memory, [])

theorem work_of_queue_eq_nil {μ : Type} {subscriber : Subscriber H} (empty : subscriber.queue = [])
    (answer : H → Event → μ → Bool × μ) (memory : μ) :
    subscriber.work answer memory =
      ({ subscriber := subscriber, progress := .idle }, memory, []) := by
  unfold work process
  rw [empty]
  rfl

end Subscriber

namespace Hub

variable {H μ : Type}

/-! ### Watching -/

/-- What handlers do, who look at nothing but the event and what they remember. -/
structure Conduct (H μ : Type) where
  answer : H → Event → μ → Bool × μ
  acts : H → Event → μ → List (Move H) := fun _ _ _ => []

/-- While its handlers are asked, nothing is done by a subscriber itself. -/
def Conduct.reply (conduct : Conduct H μ) (serial : Nat) (handler : H) (event : Event) (_ : Hub H)
    (memory : μ) : Reply H μ serial where
  moves := (conduct.acts handler event memory).filter fun move => !move.isOf serial
  apart := fun move member => by
    have own := (List.mem_filter.mp member).2
    rwa [Bool.not_eq_true'] at own
  memory := (conduct.answer handler event memory).2
  isDone := (conduct.answer handler event memory).1

/-- What is seen of a step on the queue. -/
structure Report (H : Type) where
  progress : Progress
  /-- The handlers asked, and about what. -/
  asked : List (H × Event) := []
deriving DecidableEq

/-- A hub, and what is seen of one subscriber. -/
structure Watch (H μ : Type) where
  hub : Hub H
  /-- The serial of the subscriber, once it has been created. -/
  mine : Option Nat
  memory : μ
  /-- What has been put into its mailbox. -/
  received : List Event := []
  /-- What it has answered about the number of events that wait. -/
  counts : List Nat := []
  reports : List (Report H) := []

/-- What the subscriber does, or has done to it. -/
inductive Act (H : Type) where
  | bind (key : Subscription) (handler : H)
  | unbind (key : Subscription)
  | unbindAll
  /-- A registration past its table of handlers. -/
  | subscribe (key : Subscription)
  | unsubscribe (key : Subscription)
  | count
  | process
  | drop

inductive Deed (H : Type) where
  | create (name : String)
  | own (act : Act H)
  /-- What is done to the bus itself, or by and to everybody else. -/
  | aside (move : Move H)

/-- Whether a move is registered for somebody who has been created. -/
def Move.known (next : Nat) : Move H → Bool
  | subscribe _ id => id.serial < next
  | unsubscribe _ id => id.serial < next
  | _ => true

namespace Watch

def box (watch : Watch H μ) : List Event := watch.mine.elim [] watch.hub.mail.waiting

def self? (watch : Watch H μ) : Option (Subscriber H) := watch.mine.bind watch.hub.members

def make (watch : Watch H μ) (move : Move H) : Watch H μ :=
  { watch with
    hub := watch.hub.step move
    received := watch.received ++ watch.mine.elim [] (Made.mk watch.hub move).pushed }

/-- A step on the queue. All that is in the mailbox afterwards has come in the course of it. -/
def attend (conduct : Conduct H μ) (watch : Watch H μ) (serial : Nat) : Watch H μ :=
  let asking := answering (conduct.reply serial)
  let seen : Seen H μ := { memory := watch.memory }
  let after := watch.hub.process asking serial seen
  { watch with
    hub := after.1
    memory := after.2.memory
    received := watch.received ++ after.1.mail.waiting serial
    reports := watch.reports ++ [⟨watch.hub.progress asking serial seen, after.2.asked⟩] }

def perform (conduct : Conduct H μ) (watch : Watch H μ) (member : Subscriber H) : Act H → Watch H μ
  | .bind key handler => watch.make (.bind member.id.serial key handler)
  | .unbind key => watch.make (.unbind member.id.serial key)
  | .unbindAll => watch.make (.unbindAll member.id.serial)
  | .subscribe key => watch.make (.subscribe key member.id)
  | .unsubscribe key => watch.make (.unsubscribe key member.id)
  | .count =>
    { watch.make (.collect member.id.serial) with
      counts := watch.counts ++ [(member.collect watch.hub.mail).1.pending] }
  | .process => watch.attend conduct member.id.serial
  | .drop => watch.make (.drop member.id.serial)

/-- Whether a move can be made by others. -/
def admits (watch : Watch H μ) (move : Move H) : Bool :=
  (watch.mine.all fun serial => !move.isOf serial && !move.registers serial) &&
    move.known watch.hub.next

/-- What cannot be done is not done. -/
def step (conduct : Conduct H μ) (watch : Watch H μ) : Deed H → Watch H μ
  | .create name =>
    if watch.mine.isSome then watch
    else { watch.make (.create name) with mine := some watch.hub.next }
  | .own act =>
    match watch.self? with
    | none => watch
    | some member => watch.perform conduct member act
  | .aside move => if watch.admits move then watch.make move else watch

def run (conduct : Conduct H μ) (watch : Watch H μ) (deeds : List (Deed H)) : Watch H μ :=
  deeds.foldl (step conduct) watch

theorem self?_eq_some_iff {watch : Watch H μ} {member : Subscriber H} :
    watch.self? = some member ↔
      ∃ serial, watch.mine = some serial ∧ watch.hub.members serial = some member :=
  Option.bind_eq_some_iff

theorem self?_of_mine {watch : Watch H μ} {serial : Nat} (mine : watch.mine = some serial) :
    watch.self? = watch.hub.members serial := by
  unfold self?
  rw [mine]
  rfl

theorem step_create (conduct : Conduct H μ) (watch : Watch H μ) (name : String) :
    watch.step conduct (.create name) =
      if watch.mine.isSome then watch
      else { watch.make (.create name) with mine := some watch.hub.next } := rfl

theorem step_aside (conduct : Conduct H μ) (watch : Watch H μ) (move : Move H) :
    watch.step conduct (.aside move) = if watch.admits move then watch.make move else watch := rfl

theorem step_own {watch : Watch H μ} {member : Subscriber H} (lives : watch.self? = some member)
    (conduct : Conduct H μ) (act : Act H) :
    watch.step conduct (.own act) = watch.perform conduct member act := by
  simp only [step, lives]

theorem step_own_of_none {watch : Watch H μ} (absent : watch.self? = none)
    (conduct : Conduct H μ) (act : Act H) : watch.step conduct (.own act) = watch := by
  simp only [step, absent]

theorem mine_step {watch : Watch H μ} {serial : Nat} (mine : watch.mine = some serial)
    (conduct : Conduct H μ) (deed : Deed H) : (watch.step conduct deed).mine = some serial := by
  cases deed with
  | create name =>
      rw [step_create, mine]
      exact mine
  | own act =>
      cases lives : watch.self? with
      | none => rw [step_own_of_none lives, mine]
      | some member =>
          rw [step_own lives]
          cases act <;> exact mine
  | aside move =>
      rw [step_aside]
      split <;> exact mine

/-- What has come is what is new in the mailbox. -/
theorem received_make (watch : Watch H μ) (move : Move H) :
    (watch.make move).received =
      watch.received ++ (watch.make move).box.drop watch.box.length := by
  unfold make box
  cases watch.mine <;> rfl

end Watch

theorem sound_run {hub : Hub H} (sound : hub.Sound) (moves : List (Move H)) :
    (hub.run moves).Sound := by
  induction moves generalizing hub with
  | nil => exact sound
  | cons move moves inductionHypothesis =>
      exact inductionHypothesis (Accounts.of_sound sound move).sound

theorem next_le_run (hub : Hub H) (moves : List (Move H)) : hub.next ≤ (hub.run moves).next := by
  induction moves generalizing hub with
  | nil => exact Nat.le_refl _
  | cons move moves inductionHypothesis =>
      exact Nat.le_trans (hub.next_le_step move) (inductionHypothesis _)

/-- What others do only adds to a mailbox. -/
theorem exists_waiting_run {hub : Hub H} {serial : Nat} {moves : List (Move H)} (sound : hub.Sound)
    (known : serial < hub.next) (apart : ∀ move ∈ moves, move.isOf serial = false) :
    ∃ more, (hub.run moves).mail.waiting serial = hub.mail.waiting serial ++ more := by
  induction moves generalizing hub with
  | nil => exact ⟨[], (List.append_nil _).symm⟩
  | cons move moves inductionHypothesis =>
      obtain ⟨now, waiting⟩ := exists_waiting_of_apart sound known (apart move List.mem_cons_self)
      have soundLater : (hub.step move).Sound := (Accounts.of_sound sound move).sound
      obtain ⟨later, waitingLater⟩ := inductionHypothesis soundLater
        (Nat.lt_of_lt_of_le known (hub.next_le_step move))
        (fun other member => apart other (List.mem_cons_of_mem move member))
      exact ⟨now ++ later, waitingLater.trans (by rw [waiting, List.append_assoc])⟩

/-! ### Deeds of a subscriber -/

theorem privateQueue_collect {hub : Hub H} {serial : Nat} {member : Subscriber H}
    (sound : hub.Sound) (lives : hub.members serial = some member) :
    (member.collect hub.mail).1.queue = hub.privateQueue serial ∧
      (hub.step (.collect serial)).members serial = some (member.collect hub.mail).1 ∧
      (hub.step (.collect serial)).mail.waiting serial = [] := by
  have named := sound.named serial member lives
  have isOpen : hub.mail.isOpen serial = true := by rw [sound.opened, lives]; rfl
  rw [step_collect lives]
  refine ⟨?_, members_seat_self _ _ _ _, ?_⟩
  · rw [Subscriber.queue_collect, named, privateQueue_of_some lives]
  · show (hub.mail.store member.id.serial []).waiting serial = []
    rw [named, Mailboxes.waiting_store _ _ _ _ isOpen, if_pos rfl]

namespace Watch

/-- What is left of a subscriber by one of its own deeds, a step on its queue apart. -/
def leaves (bus : GlobalBus) (mail : Mailboxes) (member : Subscriber H) :
    Act H → Option (Subscriber H)
  | .bind key handler => some (member.bind bus key handler).subscriber
  | .unbind key => some (member.unbind bus key).subscriber
  | .unbindAll => some (member.unbindAll bus).subscriber
  | .count => some (member.collect mail).1
  | .drop => none
  | _ => some member

/-- The bus behind such a deed. -/
def busBehind (bus : GlobalBus) (member : Subscriber H) : Act H → GlobalBus
  | .bind key handler => (member.bind bus key handler).bus
  | .unbind key => (member.unbind bus key).bus
  | .unbindAll => (member.unbindAll bus).bus
  | .drop => (member.unbindAll bus).bus
  | .subscribe key => (bus.subscribe key member.id).1
  | .unsubscribe key => (bus.unsubscribe key member.id).1
  | _ => bus

theorem members_perform {watch : Watch H μ} {serial : Nat} {member : Subscriber H}
    (sound : watch.hub.Sound) (lives : watch.hub.members serial = some member)
    (conduct : Conduct H μ) {act : Act H} (calls : act ≠ .process) :
    (watch.perform conduct member act).hub.members serial =
      leaves watch.hub.bus watch.hub.mail member act := by
  obtain rfl := sound.named serial member lives
  have rebound (change : Subscriber H → GlobalBus → Subscriber.Rebound H) :
      (watch.hub.rebind member.id.serial change).members member.id.serial =
        some (change member watch.hub.bus).subscriber := by
    rw [rebind_of_some lives]
    exact members_seat_self _ _ _ _
  cases act with
  | bind key handler => exact rebound fun member bus => member.bind bus key handler
  | unbind key => exact rebound fun member bus => member.unbind bus key
  | unbindAll => exact rebound Subscriber.unbindAll
  | subscribe key => exact lives
  | unsubscribe key => exact lives
  | count => exact (privateQueue_collect sound lives).2.1
  | process => exact absurd rfl calls
  | drop => exact members_seat_self _ _ _ _

theorem sameBindings_leaves {left right : Subscriber H} (same : left.SameBindings right)
    (leftBus rightBus : GlobalBus) (leftMail rightMail : Mailboxes) (act : Act H) :
    Option.Rel Subscriber.SameBindings (leaves leftBus leftMail left act)
      (leaves rightBus rightMail right act) := by
  cases act with
  | bind key handler => exact .some (same.bind leftBus rightBus key handler)
  | unbind key => exact .some (same.unbind leftBus rightBus key)
  | unbindAll => exact .some (same.unbindAll leftBus rightBus)
  | count => exact .some ⟨same.table, same.handlers, same.nextHandler⟩
  | drop => exact .none
  | _ => exact .some same

end Watch

/-! ### Steps on the queue -/

/-- Handlers who act do so by their conduct. -/
def Conduct.Does (conduct : Conduct H μ) (serial : Nat) (move : Move H) : Prop :=
  move.isOf serial = false ∧ ∃ handler event memory, move ∈ conduct.acts handler event memory

theorem does_visit (conduct : Conduct H μ) (serial : Nat) (handlers : List (HandlerNumber × H))
    (event : Event) (numbers : List HandlerNumber) {state : Hub H × Seen H μ}
    (does : ∀ move ∈ state.2.moves, conduct.Does serial move) :
    ∀ move ∈ ((Subscriber.visit (answering (conduct.reply serial)) handlers event numbers).run
      state).2.2.moves, conduct.Does serial move := by
  induction numbers generalizing state with
  | nil => exact does
  | cons number numbers inductionHypothesis =>
      cases bound : handlers.lookup number with
      | none =>
          unfold Subscriber.visit
          rw [bound]
          exact inductionHypothesis does
      | some handler =>
          rw [Subscriber.visit_cons_of_bound _ bound]
          refine inductionHypothesis fun move member => ?_
          rcases List.mem_append.mp member with earlier | now
          · exact does move earlier
          · obtain ⟨acted, apart⟩ := List.mem_filter.mp now
            rw [Bool.not_eq_true'] at apart
            exact ⟨apart, handler, event, state.2.memory, acted⟩

theorem does_process (conduct : Conduct H μ) (serial : Nat) (member : Subscriber H)
    {state : Hub H × Seen H μ} (nothing : state.2.moves = []) :
    ∀ move ∈ ((member.process (answering (conduct.reply serial))).run state).2.2.moves,
      conduct.Does serial move := by
  have none : ∀ move ∈ state.2.moves, conduct.Does serial move := by
    rw [nothing]
    exact fun _ impossible => (nomatch impossible)
  unfold Subscriber.process
  cases member.queue with
  | nil => exact none
  | cons event rest =>
      by_cases nobody : (member.owed event).isEmpty = true
      · simp only [nobody, if_true]
        exact none
      · simp only [nobody]
        exact does_visit conduct serial member.handlers event (member.owed event) none

theorem projects_answering (conduct : Conduct H μ) (serial : Nat) :
    Subscriber.Projects (fun state : Hub H × Seen H μ => (state.2.memory, state.2.asked))
      (answering (conduct.reply serial)) (Subscriber.remembering conduct.answer) :=
  fun _ _ _ => rfl

/-- A step on a private queue is a function of the subscriber and of what its handlers remember; to
everything else their acts are done meanwhile. -/
theorem exists_attended (conduct : Conduct H μ) {watch : Watch H μ} {serial : Nat}
    {member : Subscriber H} (lives : watch.hub.members serial = some member) :
    let worked := (member.collect watch.hub.mail).1.work conduct.answer watch.memory
    ∃ moves, (∀ move ∈ moves, conduct.Does serial move) ∧
      let ready := (watch.hub.step (.collect serial)).run moves
      watch.attend conduct serial =
        { watch with
          hub := ready.seat serial (some worked.1.subscriber) ready.mail
          memory := worked.2.1
          received := watch.received ++ ready.mail.waiting serial
          reports := watch.reports ++ [⟨worked.1.progress, worked.2.2⟩] } := by
  intro worked
  let collected := (member.collect watch.hub.mail).1
  let start := watch.hub.step (.collect serial)
  let seen : Seen H μ := { memory := watch.memory }
  have startMember : start.members serial = some collected := by
    rw [show start = _ from step_collect lives]
    exact members_seat_self _ _ _ _
  let outcome := (collected.process (answering (conduct.reply serial))).run (start, seen)
  have heard := heard_process (conduct.reply serial) start collected watch.memory
  have same : worked = (outcome.1, outcome.2.2.memory, outcome.2.2.asked) :=
    Subscriber.process_projects (projects_answering conduct serial) collected (start, seen)
  refine ⟨outcome.2.2.moves, does_process conduct serial collected rfl, ?_⟩
  rw [same, show (watch.hub.step (.collect serial)).run outcome.2.2.moves = outcome.2.1 from
    heard.hub.symm]
  unfold Watch.attend process progress
  simp only [show (watch.hub.step (.collect serial)).members serial =
    some collected from startMember]
  rfl

/-- A deed is a run of the hub. -/
theorem exists_run_of_deed (conduct : Conduct H μ) {watch : Watch H μ} (sound : watch.hub.Sound)
    (deed : Deed H) : ∃ moves, (watch.step conduct deed).hub = watch.hub.run moves := by
  have one (move : Move H) : ∃ moves, (watch.make move).hub = watch.hub.run moves := ⟨[move], rfl⟩
  cases deed with
  | create name =>
      rw [Watch.step_create]
      split
      · exact ⟨[], rfl⟩
      · exact one (.create name)
  | own act =>
      cases lives : watch.self? with
      | none => exact ⟨[], congrArg Watch.hub (Watch.step_own_of_none lives conduct act)⟩
      | some member =>
          obtain ⟨serial, _, there⟩ := Watch.self?_eq_some_iff.mp lives
          rw [Watch.step_own lives]
          cases act with
          | process =>
              obtain rfl := sound.named serial member there
              obtain ⟨answers, isRun, _⟩ :=
                call_of_some (conduct.reply member.id.serial) sound there watch.memory
              exact ⟨_, isRun⟩
          | count => exact one (.collect member.id.serial)
          | _ => exact one _
  | aside move =>
      rw [Watch.step_aside]
      split
      · exact one move
      · exact ⟨[], rfl⟩

theorem exists_run_of_deeds (conduct : Conduct H μ) {watch : Watch H μ} (sound : watch.hub.Sound)
    (deeds : List (Deed H)) : ∃ moves, (watch.run conduct deeds).hub = watch.hub.run moves := by
  induction deeds generalizing watch with
  | nil => exact ⟨[], rfl⟩
  | cons deed deeds inductionHypothesis =>
      obtain ⟨now, isRun⟩ := exists_run_of_deed conduct sound deed
      obtain ⟨later, isRunLater⟩ := inductionHypothesis (isRun ▸ sound_run sound now)
      refine ⟨now ++ later, isRunLater.trans ?_⟩
      rw [isRun, run_append]

/-! ### Two runs -/

theorem rel_cases {α β : Type} {related : α → β → Prop} {left : Option α} {right : Option β}
    (rel : Option.Rel related left right) :
    (left = none ∧ right = none) ∨
      ∃ mine yours, left = some mine ∧ right = some yours ∧ related mine yours := by
  cases rel with
  | none => exact .inl ⟨rfl, rfl⟩
  | some same => exact .inr ⟨_, _, rfl, rfl, same⟩

/-- Two runs that agree on what concerns a relation keep it, if each of them keeps it alone in
whatever else it does. -/
theorem related_foldl {α β γ : Type} {Related : α → β → Prop} {first : α → γ → α}
    {second : β → γ → β} {concerns : γ → Bool}
    (both : ∀ left right deed, concerns deed = true → Related left right →
      Related (first left deed) (second right deed))
    (alone : ∀ left right deed, concerns deed = false → Related left right →
      Related (first left deed) right)
    (aloneToo : ∀ left right deed, concerns deed = false → Related left right →
      Related left (second right deed))
    {deeds others : List γ} (same : deeds.filter concerns = others.filter concerns)
    {left : α} {right : β} (related : Related left right) :
    Related (deeds.foldl first left) (others.foldl second right) := by
  have catchUp (silent : List γ) (unconcerned : ∀ deed ∈ silent, ¬concerns deed = true) (left : α)
      (right : β) (related : Related left right) : Related left (silent.foldl second right) := by
    induction silent generalizing right with
    | nil => exact related
    | cons deed silent inductionHypothesis =>
        have now := aloneToo left right deed
          (Bool.not_eq_true _ ▸ unconcerned deed List.mem_cons_self) related
        exact inductionHypothesis
          (fun other member => unconcerned other (List.mem_cons_of_mem deed member)) _ now
  induction deeds generalizing others left right with
  | nil =>
      refine catchUp others (fun deed member => ?_) left right related
      exact List.filter_eq_nil_iff.mp same.symm deed member
  | cons deed deeds inductionHypothesis =>
      cases concerned : concerns deed with
      | false =>
          rw [List.filter_cons_of_neg (by simp [concerned])] at same
          exact inductionHypothesis same (alone left right deed concerned related)
      | true =>
          rw [List.filter_cons_of_pos concerned] at same
          obtain ⟨silent, further, split, unconcerned, _, sameLater⟩ :=
            List.filter_eq_cons_iff.mp same.symm
          rw [split, List.foldl_append]
          have caughtUp := catchUp silent unconcerned left right related
          exact inductionHypothesis sameLater.symm (both _ _ deed concerned caughtUp)

end Hub

end EventTransport
