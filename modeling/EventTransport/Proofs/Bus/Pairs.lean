import EventTransport.Proofs.Bus.Watching

/-!
Contract: two subscribers of two buses that do the same.

Owns: `Subscriber.Paired`, by which they differ in nothing but their identities and in what others
have to do with the buses, kept by bindings, registrations and steps on a queue.

Does not own: what others do.
-/

namespace EventTransport

namespace GlobalBus

/-- One and the same registration, of whoever it is, on two buses. -/
theorem registrations_subscribe_congr {left right : GlobalBus} {mine yours : SubscriberId}
    (shutDown : left.shutDown = right.shutDown)
    (same : ∀ key, left.registrations key mine.serial = right.registrations key yours.serial)
    (key other : Subscription) :
    (left.subscribe key mine).1.registrations other mine.serial =
      (right.subscribe key yours).1.registrations other yours.serial := by
  cases live : right.shutDown with
  | true =>
      unfold subscribe guarded
      rw [if_pos (shutDown.trans live), if_pos live]
      exact same other
  | false =>
      rw [registrations_subscribe (shutDown.trans live), registrations_subscribe live, same]
      simp only [and_true]

theorem registrations_unsubscribe_congr {left right : GlobalBus} {mine yours : SubscriberId}
    (shutDown : left.shutDown = right.shutDown)
    (same : ∀ key, left.registrations key mine.serial = right.registrations key yours.serial)
    (key other : Subscription) :
    (left.unsubscribe key mine).1.registrations other mine.serial =
      (right.unsubscribe key yours).1.registrations other yours.serial := by
  cases live : right.shutDown with
  | true =>
      unfold unsubscribe guarded
      rw [if_pos (shutDown.trans live), if_pos live]
      exact same other
  | false =>
      rw [registrations_unsubscribe (shutDown.trans live), registrations_unsubscribe live, same]
      simp only [and_true]

end GlobalBus

namespace Subscriber

variable {H : Type}

/-- Two subscribers, one of either bus, that differ in nothing but their identities and in what
others have to do with the buses. -/
structure Paired (leftBus rightBus : GlobalBus) (left right : Subscriber H) : Prop where
  bindings : left.SameBindings right
  queue : left.queue = right.queue
  tracker : left.tracker = right.tracker
  hooked : leftBus.queue = rightBus.queue
  shutDown : leftBus.shutDown = rightBus.shutDown
  registered : ∀ key, leftBus.registrations key left.id.serial =
    rightBus.registrations key right.id.serial

theorem id_process {σ : Type} (ask : H → Event → StateM σ Bool) (subscriber : Subscriber H)
    (state : σ) : ((subscriber.process ask).run state).1.subscriber.id = subscriber.id := by
  obtain ⟨answers, settles⟩ := subscriber.exists_answers ask state
  rw [settles, id_settled]

namespace Paired

variable {left right : Subscriber H} {leftBus rightBus : GlobalBus}

theorem subscribe (paired : Paired leftBus rightBus left right) (key : Subscription) :
    Paired (leftBus.subscribe key left.id).1 (rightBus.subscribe key right.id).1 left right :=
  { paired with
    hooked := by rw [GlobalBus.queue_subscribe, GlobalBus.queue_subscribe, paired.hooked]
    shutDown := by
      rw [GlobalBus.shutDown_subscribe, GlobalBus.shutDown_subscribe, paired.shutDown]
    registered := GlobalBus.registrations_subscribe_congr paired.shutDown paired.registered key }

theorem unsubscribe (paired : Paired leftBus rightBus left right) (key : Subscription) :
    Paired (leftBus.unsubscribe key left.id).1 (rightBus.unsubscribe key right.id).1 left right :=
  { paired with
    hooked := by rw [GlobalBus.queue_unsubscribe, GlobalBus.queue_unsubscribe, paired.hooked]
    shutDown := by
      rw [GlobalBus.shutDown_unsubscribe, GlobalBus.shutDown_unsubscribe, paired.shutDown]
    registered := GlobalBus.registrations_unsubscribe_congr paired.shutDown paired.registered key }

theorem bind (paired : Paired leftBus rightBus left right) (key : Subscription) (handler : H) :
    Paired (left.bind leftBus key handler).bus (right.bind rightBus key handler).bus
      (left.bind leftBus key handler).subscriber (right.bind rightBus key handler).subscriber := by
  have leftCalm := left.calm_bind leftBus key handler
  have rightCalm := right.calm_bind rightBus key handler
  refine
    { bindings := paired.bindings.bind leftBus rightBus key handler
      queue := by rw [leftCalm.queue, rightCalm.queue, paired.queue]
      tracker := by rw [(left.gains_bind ..).tracker, (right.gains_bind ..).tracker, paired.tracker]
      hooked := by rw [leftCalm.hooked, rightCalm.hooked, paired.hooked]
      shutDown := by rw [leftCalm.shutDown, rightCalm.shutDown, paired.shutDown]
      registered := fun other => ?_ }
  rw [leftCalm.id, rightCalm.id, bus_bind, bus_bind, paired.bindings.isBound]
  split
  · exact paired.registered other
  · exact (paired.subscribe key).registered other

theorem unbind (paired : Paired leftBus rightBus left right) (key : Subscription) :
    Paired (left.unbind leftBus key).bus (right.unbind rightBus key).bus
      (left.unbind leftBus key).subscriber (right.unbind rightBus key).subscriber := by
  have leftCalm := left.calm_unbind leftBus key
  have rightCalm := right.calm_unbind rightBus key
  refine
    { bindings := paired.bindings.unbind leftBus rightBus key
      queue := by rw [leftCalm.queue, rightCalm.queue, paired.queue]
      tracker := by
        rw [(left.releases_unbind ..).tracker, (right.releases_unbind ..).tracker, paired.tracker]
      hooked := by rw [leftCalm.hooked, rightCalm.hooked, paired.hooked]
      shutDown := by rw [leftCalm.shutDown, rightCalm.shutDown, paired.shutDown]
      registered := fun other => ?_ }
  rw [leftCalm.id, rightCalm.id, bus_unbind, bus_unbind, paired.bindings.isBound]
  split
  · exact (paired.unsubscribe key).registered other
  · exact paired.registered other

theorem unbindEach (paired : Paired leftBus rightBus left right) (keys : List Subscription) :
    Paired (left.unbindEach leftBus keys).bus (right.unbindEach rightBus keys).bus
      (left.unbindEach leftBus keys).subscriber (right.unbindEach rightBus keys).subscriber := by
  induction keys generalizing left leftBus right rightBus with
  | nil => exact paired
  | cons key keys inductionHypothesis => exact inductionHypothesis (paired.unbind key)

theorem unbindAll (paired : Paired leftBus rightBus left right) :
    Paired (left.unbindAll leftBus).bus (right.unbindAll rightBus).bus
      (left.unbindAll leftBus).subscriber (right.unbindAll rightBus).subscriber := by
  unfold Subscriber.unbindAll
  rw [paired.bindings.table]
  exact paired.unbindEach left.table.keys

theorem collect (paired : Paired leftBus rightBus left right) {leftMail rightMail : Mailboxes}
    (waiting : leftMail.waiting left.id.serial = rightMail.waiting right.id.serial) :
    Paired leftBus rightBus (left.collect leftMail).1 (right.collect rightMail).1 :=
  { paired with
    bindings := ⟨paired.bindings.table, paired.bindings.handlers, paired.bindings.nextHandler⟩
    queue := by rw [queue_collect, queue_collect, paired.queue, waiting] }

theorem process {σ : Type} (paired : Paired leftBus rightBus left right)
    (ask : H → Event → StateM σ Bool) (state : σ) :
    let first := (left.process ask).run state
    let second := (right.process ask).run state
    first.2 = second.2 ∧ first.1.progress = second.1.progress ∧
      Paired leftBus rightBus first.1.subscriber second.1.subscriber := by
  intro first second
  obtain ⟨states, progress, tracker⟩ := process_alike paired.bindings paired.tracker
    (congrArg List.head? paired.queue) ask state
  have leftKept : first.1.subscriber.SameBindings left := left.sameBindings_process ask state
  have rightKept : second.1.subscriber.SameBindings right := right.sameBindings_process ask state
  have leftId : first.1.subscriber.id = left.id := left.id_process ask state
  have rightId : second.1.subscriber.id = right.id := right.id_process ask state
  refine ⟨states, progress,
    { paired with
      bindings := (leftKept.trans paired.bindings).trans rightKept.symm
      queue := ?_
      tracker := tracker
      registered := fun key => ?_ }⟩
  · rw [(left.reported_process ask state).queue, (right.reported_process ask state).queue, progress,
      paired.queue]
  · rw [leftId, rightId]
    exact paired.registered key

end Paired

end Subscriber

end EventTransport
