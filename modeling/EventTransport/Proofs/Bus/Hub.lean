import EventTransport.Bus.Subscriber
import EventTransport.Proofs.Bus.FanOut
import Mathlib.Logic.Function.Basic

/-!
Contract: a global bus among its subscribers.

Owns:
- `Hub`, a bus with its mailboxes and its living subscribers, `Hub.step` and `Hub.run`;
- `Hub.Made`, what a move does to the queue of the bus and to the private queue of a subscriber, as
  it is seen from before and after it;
- `Hub.process`, a whole step on a private queue, and that it is a run.

A step on a private queue is told by two moves: its mailbox is emptied into it, and later the
answers of the handlers settle what becomes of the event at its front. In between handlers may do to
the bus, and to other subscribers, whatever they like; this is not told apart from what anybody else
does.

Does not own: which handlers are called.
-/

namespace EventTransport

namespace Subscriber

variable {H σ : Type}

/-- The next one of the answers that handlers are known to give. -/
def answerNext (_ : H) (_ : Event) : StateM (List Bool) Bool := fun answers =>
  (answers.headD true, answers.tail)

/-- The subscriber after a step on its queue in which the handlers give these answers. -/
def settled (subscriber : Subscriber H) (answers : List Bool) : Subscriber H :=
  ((subscriber.process answerNext).run answers).1.subscriber

theorem visit_cons_of_bound (ask : H → Event → StateM σ Bool) {handlers : List (HandlerNumber × H)}
    {number : HandlerNumber} {handler : H} (bound : handlers.lookup number = some handler)
    (event : Event) (numbers : List HandlerNumber) (state : σ) :
    (visit ask handlers event (number :: numbers)).run state =
      let answer := ask handler event state
      let later := (visit ask handlers event numbers).run answer.2
      (if answer.1 then later.1 else number :: later.1, later.2) := by
  rw [visit, bound]
  rfl

theorem exists_answers_visit (ask : H → Event → StateM σ Bool)
    (handlers : List (HandlerNumber × H)) (event : Event) (numbers : List HandlerNumber)
    (state : σ) :
    ∃ answers, ∀ later, (visit answerNext handlers event numbers).run (answers ++ later) =
      (((visit ask handlers event numbers).run state).1, later) := by
  induction numbers generalizing state with
  | nil => exact ⟨[], fun later => rfl⟩
  | cons number numbers inductionHypothesis =>
      cases bound : handlers.lookup number with
      | none =>
          unfold visit
          rw [bound]
          exact inductionHypothesis state
      | some handler =>
          obtain ⟨answers, replayed⟩ := inductionHypothesis (ask handler event state).2
          refine ⟨(ask handler event state).1 :: answers, fun later => ?_⟩
          rw [visit_cons_of_bound answerNext bound, visit_cons_of_bound ask bound]
          simp only [answerNext, List.cons_append, List.headD_cons, List.tail_cons, replayed later]

/-- Whatever handlers do and look at to find their answers, the answers tell what becomes of the
subscriber. -/
theorem exists_answers (ask : H → Event → StateM σ Bool) (subscriber : Subscriber H) (state : σ) :
    ∃ answers, ((subscriber.process ask).run state).1.subscriber = subscriber.settled answers := by
  unfold settled process
  cases subscriber.queue with
  | nil => exact ⟨[], rfl⟩
  | cons event rest =>
      by_cases nobody : (subscriber.owed event).isEmpty = true
      · exact ⟨[], by simp only [nobody, if_true]; rfl⟩
      · obtain ⟨answers, replayed⟩ :=
          exists_answers_visit ask subscriber.handlers event (subscriber.owed event) state
        have visited := replayed []
        rw [List.append_nil] at visited
        refine ⟨answers, ?_⟩
        simp only [nobody]
        exact congrArg (fun outcome => (subscriber.settle outcome.1).subscriber) visited.symm

/-- A step takes the event at the front, or changes at most who is still owed it. -/
theorem settled_cases (subscriber : Subscriber H) (answers : List Bool) :
    subscriber.settled answers = subscriber.advance ∨
      ∃ tracker, subscriber.settled answers = { subscriber with tracker := tracker } := by
  unfold settled process
  split
  · exact .inr ⟨subscriber.tracker, rfl⟩
  · rename_i event rest front
    by_cases nobody : (subscriber.owed event).isEmpty = true
    · simp only [nobody, if_true]
      exact .inl rfl
    · simp only [nobody]
      show (subscriber.settle _).subscriber = _ ∨ ∃ _, (subscriber.settle _).subscriber = _
      unfold settle
      split
      · exact .inl rfl
      · exact .inr ⟨_, rfl⟩

theorem queue_settled (subscriber : Subscriber H) (answers : List Bool) :
    (subscriber.settled answers).queue <:+ subscriber.queue := by
  rcases subscriber.settled_cases answers with advanced | ⟨tracker, kept⟩
  · rw [advanced]
    exact List.tail_suffix subscriber.queue
  · have same : (subscriber.settled answers).queue = subscriber.queue := by rw [kept]
    exact ⟨[], same⟩

theorem id_settled (subscriber : Subscriber H) (answers : List Bool) :
    (subscriber.settled answers).id = subscriber.id := by
  rcases subscriber.settled_cases answers with advanced | ⟨tracker, kept⟩
  · rw [advanced]
    rfl
  · rw [kept]

theorem table_settled (subscriber : Subscriber H) (answers : List Bool) :
    (subscriber.settled answers).table = subscriber.table := by
  rcases subscriber.settled_cases answers with advanced | ⟨tracker, kept⟩
  · rw [advanced]
    rfl
  · rw [kept]

end Subscriber

/-- A global bus and its subscribers. -/
structure Hub (H : Type) where
  bus : GlobalBus := GlobalBus.empty
  mail : Mailboxes := Mailboxes.empty
  /-- The living subscribers, by their serials. -/
  members : Nat → Option (Subscriber H) := fun _ => none
  next : Nat

namespace Hub

variable {H : Type}

/-- What is done to a bus or to one of its subscribers. -/
inductive Move (H : Type) where
  | create (name : String)
  /-- A registration. It may be of a subscriber that lives no more. -/
  | subscribe (key : Subscription) (id : SubscriberId)
  | unsubscribe (key : Subscription) (id : SubscriberId)
  | bind (serial : Nat) (key : Subscription) (handler : H)
  | unbind (serial : Nat) (key : Subscription)
  | unbindAll (serial : Nat)
  | drop (serial : Nat)
  | hook (event : Event)
  | update
  | clear
  | shutdown
  /-- A mailbox emptied into the queue: the events counted, or the beginning of a step on
  the queue. -/
  | collect (serial : Nat)
  /-- The end of a step on the queue, all handlers having answered. -/
  | settle (serial : Nat) (answers : List Bool)

def new (first : Nat) : Hub H := { next := first }

def seat (hub : Hub H) (serial : Nat) (member : Option (Subscriber H)) (mail : Mailboxes) : Hub H :=
  { hub with mail := mail, members := Function.update hub.members serial member }

@[simp] theorem members_seat_self (hub : Hub H) (serial : Nat) (member : Option (Subscriber H))
    (mail : Mailboxes) : (hub.seat serial member mail).members serial = member := by
  show Function.update hub.members serial member serial = member
  rw [Function.update_self]

theorem members_seat_of_ne (hub : Hub H) {serial other : Nat} (apart : other ≠ serial)
    (member : Option (Subscriber H)) (mail : Mailboxes) :
    (hub.seat serial member mail).members other = hub.members other := by
  show Function.update hub.members serial member other = hub.members other
  rw [Function.update_of_ne apart]

def rebind (hub : Hub H) (serial : Nat)
    (change : Subscriber H → GlobalBus → Subscriber.Rebound H) : Hub H :=
  match hub.members serial with
  | none => hub
  | some member =>
    let rebound := change member hub.bus
    { hub with bus := rebound.bus }.seat serial (some rebound.subscriber) hub.mail

/-- One move. What is asked of a subscriber that does not live is not done. -/
def step (hub : Hub H) : Move H → Hub H
  | .create name =>
    { hub with next := hub.next + 1 }.seat hub.next (some { id := ⟨hub.next, name⟩ })
      (hub.mail.openBox hub.next)
  | .subscribe key id => { hub with bus := (hub.bus.subscribe key id).1 }
  | .unsubscribe key id => { hub with bus := (hub.bus.unsubscribe key id).1 }
  | .bind serial key handler => hub.rebind serial fun member bus => member.bind bus key handler
  | .unbind serial key => hub.rebind serial fun member bus => member.unbind bus key
  | .unbindAll serial => hub.rebind serial Subscriber.unbindAll
  | .drop serial =>
    let unbound := hub.rebind serial Subscriber.unbindAll
    unbound.seat serial none (unbound.mail.closeBox serial)
  | .hook event => { hub with bus := (hub.bus.hook event).1 }
  | .update =>
    let updated := hub.bus.update hub.mail
    { hub with bus := updated.bus, mail := updated.mail }
  | .clear => { hub with bus := hub.bus.clear.1 }
  | .shutdown => { hub with bus := hub.bus.shutdown.1 }
  | .collect serial =>
    match hub.members serial with
    | none => hub
    | some member =>
      let (collected, mail) := member.collect hub.mail
      hub.seat serial (some collected) mail
  | .settle serial answers =>
    match hub.members serial with
    | none => hub
    | some member => hub.seat serial (some (member.settled answers)) hub.mail

def run (hub : Hub H) (moves : List (Move H)) : Hub H := moves.foldl step hub

theorem step_collect {hub : Hub H} {serial : Nat} {member : Subscriber H}
    (lives : hub.members serial = some member) :
    hub.step (.collect serial) =
      hub.seat serial (some (member.collect hub.mail).1) (member.collect hub.mail).2 := by
  simp [step, lives]

theorem step_collect_of_none {hub : Hub H} {serial : Nat} (absent : hub.members serial = none) :
    hub.step (.collect serial) = hub := by
  simp [step, absent]

theorem step_settle {hub : Hub H} {serial : Nat} {member : Subscriber H}
    (lives : hub.members serial = some member) (answers : List Bool) :
    hub.step (.settle serial answers) =
      hub.seat serial (some (member.settled answers)) hub.mail := by
  simp [step, lives]

theorem step_settle_of_none {hub : Hub H} {serial : Nat} (absent : hub.members serial = none)
    (answers : List Bool) : hub.step (.settle serial answers) = hub := by
  simp [step, absent]

theorem members_seat_of_absent (hub : Hub H) {serial other : Nat} {member : Subscriber H}
    (lives : hub.members serial = some member) (absent : hub.members other = none)
    (changed : Option (Subscriber H)) (mail : Mailboxes) :
    (hub.seat serial changed mail).members other = none := by
  have apart : other ≠ serial := by
    rintro rfl
    exact Option.some_ne_none member (lives.symm.trans absent)
  rw [members_seat_of_ne hub apart, absent]

/-- Whether a move serves a private queue. -/
def Move.serves : Move H → Bool
  | collect _ => true
  | settle _ _ => true
  | _ => false

/-- Serving a private queue changes nothing if nobody is there, and neither the identity nor the
handlers of whoever is. -/
theorem still_or_served (hub : Hub H) (move : Move H) (serves : move.serves = true) :
    hub.step move = hub ∨ ∃ serial member served mail, hub.members serial = some member ∧
      served.id = member.id ∧ served.table = member.table ∧
      hub.step move = hub.seat serial (some served) mail := by
  cases move with
  | collect serial =>
      cases lives : hub.members serial with
      | none => exact .inl (step_collect_of_none lives)
      | some member =>
          exact .inr ⟨serial, member, (member.collect hub.mail).1, _, lives, rfl, rfl,
            step_collect lives⟩
  | settle serial answers =>
      cases lives : hub.members serial with
      | none => exact .inl (step_settle_of_none lives answers)
      | some member =>
          exact .inr ⟨serial, member, _, _, lives, member.id_settled answers,
            member.table_settled answers, step_settle lives answers⟩
  | _ => cases serves

/-! ### Steps on a private queue -/

/-- Whether a move is made by a subscriber itself, which it cannot do while it waits for its
handlers. -/
def Move.isOf (serial : Nat) : Move H → Bool
  | bind other _ _ => other = serial
  | unbind other _ => other = serial
  | unbindAll other => other = serial
  | drop other => other = serial
  | collect other => other = serial
  | settle other _ => other = serial
  | _ => false

/-- A whole step, with handlers that act on the hub and remember what they like. -/
def process {μ : Type} (ask : H → Event → StateM (Hub H × μ) Bool) (serial : Nat) (hub : Hub H)
    (memory : μ) : Hub H × μ :=
  let ready := hub.step (.collect serial)
  match ready.members serial with
  | none => (ready, memory)
  | some member =>
    let outcome := (member.process ask).run (ready, memory)
    (outcome.2.1.seat serial (some outcome.1.subscriber) outcome.2.1.mail, outcome.2.2)

theorem run_append (hub : Hub H) (moves further : List (Move H)) :
    hub.run (moves ++ further) = (hub.run moves).run further := List.foldl_append

theorem members_rebind_of_ne (hub : Hub H) {serial other : Nat} (apart : other ≠ serial)
    (change : Subscriber H → GlobalBus → Subscriber.Rebound H) :
    (hub.rebind serial change).members other = hub.members other ∧
      (hub.rebind serial change).next = hub.next := by
  unfold rebind
  split
  · exact ⟨rfl, rfl⟩
  · exact ⟨members_seat_of_ne _ apart _ _, rfl⟩

/-- What others do leaves a subscriber as it is. -/
theorem members_step_of_apart {hub : Hub H} {serial : Nat} {move : Move H}
    (apart : move.isOf serial = false) (known : serial < hub.next) :
    (hub.step move).members serial = hub.members serial ∧ serial < (hub.step move).next := by
  have other_ne {other : Nat} (differs : decide (other = serial) = false) : serial ≠ other :=
    fun same => of_decide_eq_false differs same.symm
  cases move with
  | create name =>
      refine ⟨?_, Nat.lt_succ_of_lt known⟩
      exact members_seat_of_ne { hub with next := hub.next + 1 } (Nat.ne_of_lt known) _ _
  | bind other key handler =>
      obtain ⟨members, next⟩ := hub.members_rebind_of_ne (other_ne apart)
        fun member bus => member.bind bus key handler
      exact ⟨members, next.symm ▸ known⟩
  | unbind other key =>
      obtain ⟨members, next⟩ := hub.members_rebind_of_ne (other_ne apart)
        fun member bus => member.unbind bus key
      exact ⟨members, next.symm ▸ known⟩
  | unbindAll other =>
      obtain ⟨members, next⟩ := hub.members_rebind_of_ne (other_ne apart) Subscriber.unbindAll
      exact ⟨members, next.symm ▸ known⟩
  | drop other =>
      obtain ⟨members, next⟩ := hub.members_rebind_of_ne (other_ne apart) Subscriber.unbindAll
      refine ⟨?_, next.symm ▸ known⟩
      exact (members_seat_of_ne _ (other_ne apart) _ _).trans members
  | collect other =>
      cases lives : hub.members other with
      | none => exact (step_collect_of_none lives).symm ▸ ⟨rfl, known⟩
      | some member =>
          rw [step_collect lives]
          exact ⟨members_seat_of_ne _ (other_ne apart) _ _, known⟩
  | settle other answers =>
      cases lives : hub.members other with
      | none => exact (step_settle_of_none lives answers).symm ▸ ⟨rfl, known⟩
      | some member =>
          rw [step_settle lives answers]
          exact ⟨members_seat_of_ne _ (other_ne apart) _ _, known⟩
  | _ => exact ⟨rfl, known⟩

theorem members_run_of_apart {hub : Hub H} {serial : Nat} {moves : List (Move H)}
    (apart : ∀ move ∈ moves, move.isOf serial = false) (known : serial < hub.next) :
    (hub.run moves).members serial = hub.members serial := by
  induction moves generalizing hub with
  | nil => rfl
  | cons move moves inductionHypothesis =>
      obtain ⟨same, knownStill⟩ := members_step_of_apart (apart move List.mem_cons_self) known
      have later := inductionHypothesis
        (fun other member => apart other (List.mem_cons_of_mem move member)) knownStill
      exact later.trans same

section Acting

variable {μ : Type} {ask : H → Event → StateM (Hub H × μ) Bool} {serial : Nat}

/-- Handlers act on the hub by moves that are not their subscriber's own. -/
def Acts (ask : H → Event → StateM (Hub H × μ) Bool) (serial : Nat) : Prop :=
  ∀ handler event state, ∃ moves : List (Move H),
    (∀ move ∈ moves, move.isOf serial = false) ∧
      ((ask handler event).run state).2.1 = state.1.run moves

theorem exists_moves_of_visit (acts : Acts ask serial) (handlers : List (HandlerNumber × H))
    (event : Event) (numbers : List HandlerNumber) (state : Hub H × μ) :
    ∃ moves : List (Move H), (∀ move ∈ moves, move.isOf serial = false) ∧
      ((Subscriber.visit ask handlers event numbers).run state).2.1 = state.1.run moves := by
  induction numbers generalizing state with
  | nil => exact ⟨[], fun _ impossible => (nomatch impossible), rfl⟩
  | cons number numbers inductionHypothesis =>
      cases bound : handlers.lookup number with
      | none =>
          unfold Subscriber.visit
          rw [bound]
          exact inductionHypothesis state
      | some handler =>
          obtain ⟨moves, apart, acted⟩ := acts handler event state
          obtain ⟨further, apartToo, actedLater⟩ := inductionHypothesis (ask handler event state).2
          refine ⟨moves ++ further, fun move member => ?_, ?_⟩
          · rcases List.mem_append.mp member with early | later
            · exact apart move early
            · exact apartToo move later
          · rw [Subscriber.visit_cons_of_bound ask bound, run_append, ← acted]
            exact actedLater

theorem exists_moves_of_step (acts : Acts ask serial) (member : Subscriber H) (state : Hub H × μ) :
    ∃ moves : List (Move H), (∀ move ∈ moves, move.isOf serial = false) ∧
      ((member.process ask).run state).2.1 = state.1.run moves := by
  have untouched : ∃ moves : List (Move H), (∀ move ∈ moves, move.isOf serial = false) ∧
      state.1 = state.1.run moves := ⟨[], fun _ impossible => (nomatch impossible), rfl⟩
  unfold Subscriber.process
  split
  · exact untouched
  · rename_i event rest front
    by_cases nobody : (member.owed event).isEmpty = true
    · simp only [nobody, if_true]
      exact untouched
    · simp only [nobody]
      exact exists_moves_of_visit acts member.handlers event (member.owed event) state

/-- **A step on a private queue is a run**, whatever its handlers do meanwhile: the mailbox emptied,
the moves of the handlers, and what their answers settle. -/
theorem exists_moves_of_process (acts : Acts ask serial) {hub : Hub H} (known : serial < hub.next)
    (memory : μ) : ∃ moves, (hub.process ask serial memory).1 = hub.run moves := by
  cases lives : (hub.step (.collect serial)).members serial with
  | none =>
      refine ⟨[.collect serial], ?_⟩
      simp only [process, lives]
      rfl
  | some member =>
      let ready := hub.step (.collect serial)
      have knownStill : serial < (hub.step (.collect serial)).next := by
        cases lived : hub.members serial with
        | none => exact (step_collect_of_none lived).symm ▸ known
        | some earlier => exact (step_collect lived).symm ▸ known
      obtain ⟨answers, settles⟩ := member.exists_answers ask (ready, memory)
      obtain ⟨moves, apart, acted⟩ := exists_moves_of_step acts member (ready, memory)
      have waits : (ready.run moves).members serial = some member :=
        (members_run_of_apart apart knownStill).trans lives
      refine ⟨.collect serial :: moves ++ [.settle serial answers], ?_⟩
      have outcome : (hub.process ask serial memory).1 =
          (ready.run moves).seat serial (some (member.settled answers)) (ready.run moves).mail := by
        simp only [process, lives]
        rw [settles, acted]
      rw [outcome, run_append]
      exact (step_settle waits answers).symm

end Acting

/-! ### Queues -/

/-- Everything that waits for a subscriber: what it has taken from its mailbox, and what is in
there. -/
def privateQueue (hub : Hub H) (serial : Nat) : List Event :=
  match hub.members serial with
  | none => []
  | some member => member.queue ++ hub.mail.waiting serial

/-- How many copies of an event a subscriber is to get. -/
def copiesFor (hub : Hub H) (event : Event) (serial : Nat) : Nat :=
  if (hub.members serial).isSome then
    hub.bus.registrations (.uid event.uid) serial + hub.bus.registrations .all serial
  else 0

/-! ### Records -/

/-- What became of an event that was hooked. -/
inductive Fate where
  | discarded
  /-- Handed out; the number of copies for each subscriber. -/
  | fannedOut (copies : Nat → Nat)

structure Departure where
  event : Event
  fate : Fate

/-- The copies that a subscriber got. -/
def Departure.copies (departure : Departure) (serial : Nat) : List Event :=
  match departure.fate with
  | .discarded => []
  | .fannedOut copies => List.replicate (copies serial) departure.event

structure Made (H : Type) where
  before : Hub H
  move : Move H

/-- The front of a queue of which only the end is left. -/
def gone (before after : List Event) : List Event := before.take (before.length - after.length)

namespace Made

def after (made : Made H) : Hub H := made.before.step made.move

def hooked (made : Made H) : List Event :=
  match made.move with
  | .hook event => if made.before.bus.shutDown then [] else [event]
  | _ => []

/-- What has left the queue of the bus: events handed out by an update, or discarded when
all are. -/
def departed (made : Made H) : List Departure :=
  let left := gone made.before.bus.queue made.after.bus.queue
  match made.move with
  | .update => left.map fun event => ⟨event, .fannedOut (made.before.copiesFor event)⟩
  | .clear => left.map fun event => ⟨event, .discarded⟩
  | .shutdown => left.map fun event => ⟨event, .discarded⟩
  | _ => []

def received (made : Made H) (serial : Nat) : List Event :=
  made.departed.flatMap fun departure => departure.copies serial

/-- What has left a private queue: events that were settled, or went with the subscriber. -/
def taken (made : Made H) (serial : Nat) : List Event :=
  gone (made.before.privateQueue serial) (made.after.privateQueue serial)

end Made

/-- The moves of a run, each with what it was made on. -/
def past (hub : Hub H) : List (Move H) → List (Made H)
  | [] => []
  | move :: moves => ⟨hub, move⟩ :: (hub.step move).past moves

theorem gone_append_of_suffix {before after : List Event} (ends : after <:+ before) :
    gone before after ++ after = before := by
  obtain ⟨front, rfl⟩ := ends
  unfold gone
  rw [List.length_append, Nat.add_sub_cancel, List.take_left]

@[simp] theorem gone_self (queue : List Event) : gone queue queue = [] := by
  unfold gone
  rw [Nat.sub_self, List.take_zero]

@[simp] theorem gone_append (before more : List Event) : gone before (before ++ more) = [] := by
  unfold gone
  rw [List.length_append, Nat.sub_eq_zero_of_le (Nat.le_add_right _ _), List.take_zero]

end Hub

end EventTransport
