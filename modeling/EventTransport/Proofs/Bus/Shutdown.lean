import EventTransport.Proofs.Bus.PrivateQueues
import EventTransport.Proofs.Bus.Registering

/-!
Contract: a global bus that has been shut down, over every run from there.

Owns:
- `GlobalBus.spent`, what a shutdown leaves of a bus, and that no move brings it back;
- `Hub.Ignores`, the records that are left of the calls that still come, also of those that reach
  the bus through the bindings of a subscriber;
- that private queues only lose events from then on.

Does not own: what subscribers do with the events they have got before.
-/

namespace EventTransport

namespace GlobalBus

/-- What is left of a bus that is shut down. -/
def spent : GlobalBus := { shutDown := true }

theorem guarded_spent (call : BusCall) (live : GlobalBus × List Warning) :
    spent.guarded call live = (spent, [.busShutDown call]) := rfl

theorem subscribe_spent (key : Subscription) (id : SubscriberId) :
    spent.subscribe key id = (spent, [.busShutDown .subscribe]) := guarded_spent ..

theorem unsubscribe_spent (key : Subscription) (id : SubscriberId) :
    spent.unsubscribe key id = (spent, [.busShutDown .unsubscribe]) := guarded_spent ..

theorem update_spent (mail : Mailboxes) :
    spent.update mail = ⟨spent, mail, none, [.busShutDown .update]⟩ := rfl

/-- A shutdown leaves nothing, whatever there was. -/
theorem shutdown_eq_spent {bus : GlobalBus} (live : bus.shutDown = false) :
    bus.shutdown.1 = spent := by
  unfold shutdown guarded
  rw [if_neg (by simp [live])]
  rfl

end GlobalBus

namespace Subscriber

variable {H : Type} (subscriber : Subscriber H)

theorem bind_spent (key : Subscription) (handler : H) :
    (subscriber.bind .spent key handler).bus = .spent ∧
      (subscriber.bind .spent key handler).warnings =
        if subscriber.isBound key then [] else [.busShutDown .subscribe] := by
  unfold bind isBound
  simp only [GlobalBus.subscribe_spent]
  split <;> exact ⟨rfl, rfl⟩

theorem unbind_spent (key : Subscription) :
    (subscriber.unbind .spent key).bus = .spent ∧
      (subscriber.unbind .spent key).warnings =
        if subscriber.isBound key then [.busShutDown .unsubscribe]
        else [.noHandlers subscriber.id key] := by
  unfold unbind isBound
  simp only [GlobalBus.unsubscribe_spent]
  split <;> exact ⟨rfl, rfl⟩

/-- Keys that have handlers, each of them unbound once: a record for each. -/
theorem unbindEach_spent {subscriber : Subscriber H} {keys : List Subscription}
    (distinct : keys.Nodup) (bound : ∀ key ∈ keys, subscriber.isBound key = true) :
    (subscriber.unbindEach .spent keys).bus = .spent ∧
      (subscriber.unbindEach .spent keys).warnings =
        List.replicate keys.length (.busShutDown .unsubscribe) := by
  induction keys generalizing subscriber with
  | nil => exact ⟨rfl, rfl⟩
  | cons key keys inductionHypothesis =>
      obtain ⟨once, distinctLater⟩ := List.nodup_cons.mp distinct
      obtain ⟨bus, warnings⟩ := subscriber.unbind_spent key
      rw [if_pos (bound key List.mem_cons_self)] at warnings
      have boundLater : ∀ other ∈ keys,
          (subscriber.unbind .spent key).subscriber.isBound other = true := fun other member => by
        have apart : other ≠ key := fun same => once (same ▸ member)
        rw [isBound_unbind, bound other (List.mem_cons_of_mem key member)]
        simp [apart]
      obtain ⟨busLater, warningsLater⟩ := inductionHypothesis distinctLater boundLater
      unfold unbindEach
      dsimp only
      rw [bus, warnings, warningsLater]
      exact ⟨busLater, rfl⟩

theorem nodup_keys_unbindEach {subscriber : Subscriber H} (distinct : subscriber.table.keys.Nodup)
    (bus : GlobalBus) (keys : List Subscription) :
    (subscriber.unbindEach bus keys).subscriber.table.keys.Nodup := by
  induction keys generalizing subscriber bus with
  | nil => exact distinct
  | cons key keys inductionHypothesis =>
      exact inductionHypothesis (nodup_keys_unbind distinct bus key) _

theorem bus_unbindEach_spent (keys : List Subscription) :
    (subscriber.unbindEach .spent keys).bus = .spent := by
  induction keys generalizing subscriber with
  | nil => rfl
  | cons key keys inductionHypothesis =>
      unfold unbindEach
      dsimp only
      rw [(subscriber.unbind_spent key).1]
      exact inductionHypothesis _

end Subscriber

namespace Hub

variable {H : Type}

/-! ### A bus that is over stays so -/

theorem rebind_spent {hub : Hub H} (isOver : hub.bus = .spent) (serial : Nat)
    {change : Subscriber H → GlobalBus → Subscriber.Rebound H}
    (still : ∀ subscriber, (change subscriber .spent).bus = .spent) :
    (hub.rebind serial change).bus = .spent := by
  cases lives : hub.members serial with
  | none => rw [rebind_of_none lives, isOver]
  | some member =>
      rw [rebind_of_some lives, isOver]
      exact still member

theorem spent_step {hub : Hub H} (isOver : hub.bus = .spent) (move : Move H) :
    (hub.step move).bus = .spent := by
  have served := hub.still_or_served move
  cases move with
  | create name => exact isOver
  | bind serial key handler =>
      exact rebind_spent isOver serial fun member => (member.bind_spent ..).1
  | unbind serial key => exact rebind_spent isOver serial fun member => (member.unbind_spent ..).1
  | unbindAll serial => exact rebind_spent isOver serial fun member => member.bus_unbindEach_spent _
  | drop serial => exact rebind_spent isOver serial fun member => member.bus_unbindEach_spent _
  | collect | settle =>
      rcases served rfl with still | ⟨serial, member, served, mail, _, _, _, seated⟩
      · rw [still, isOver]
      · rw [seated]
        exact isOver
  | _ =>
      simp only [step, isOver]
      rfl

theorem spent_run {hub : Hub H} (isOver : hub.bus = .spent) (moves : List (Move H)) :
    (hub.run moves).bus = .spent := by
  induction moves generalizing hub with
  | nil => exact isOver
  | cons move moves inductionHypothesis => exact inductionHypothesis (spent_step isOver move)

/-- Only a shutdown shuts a bus down. -/
theorem live_step {hub : Hub H} {move : Move H} (live : hub.bus.shutDown = false)
    (other : move ≠ .shutdown) : (hub.step move).bus.shutDown = false := by
  have rebound := hub.undisturbed_of_rebinds move
  have served := hub.still_or_served move
  cases move with
  | shutdown => exact absurd rfl other
  | create name => exact live
  | subscribe key id => exact (hub.bus.shutDown_subscribe key id).trans live
  | unsubscribe key id => exact (hub.bus.shutDown_unsubscribe key id).trans live
  | bind | unbind | unbindAll => exact (rebound rfl).shutDown.trans live
  | drop serial =>
      exact (hub.undisturbed_rebind serial Subscriber.calm_unbindAll).shutDown.trans live
  | hook | clear => simp [step, GlobalBus.hook, GlobalBus.clear, GlobalBus.guarded, live]
  | update =>
      show (hub.bus.update hub.mail).bus.shutDown = false
      cases queue : hub.bus.queue with
      | nil => rw [(GlobalBus.update_of_queue_eq_nil queue hub.mail).1, live]
      | cons event rest => exact (GlobalBus.handsOut_update live queue hub.mail).shutDown
  | collect | settle =>
      rcases served rfl with still | ⟨serial, member, served, mail, _, _, _, seated⟩
      · rw [still, live]
      · rw [seated]
        exact live

/-- No subscriber holds a key twice. -/
def Distinct (hub : Hub H) : Prop :=
  ∀ serial member, hub.members serial = some member → member.table.keys.Nodup

namespace Distinct

variable {hub : Hub H}

theorem seat (distinct : hub.Distinct) (serial : Nat) {changed : Option (Subscriber H)}
    (mail : Mailboxes) (mine : ∀ member, changed = some member → member.table.keys.Nodup) :
    (hub.seat serial changed mail).Distinct := by
  intro other member lives
  by_cases here : other = serial
  · rw [here, members_seat_self] at lives
    exact mine member lives
  · rw [members_seat_of_ne hub here] at lives
    exact distinct other member lives

theorem rebind (distinct : hub.Distinct) (serial : Nat)
    {change : Subscriber H → GlobalBus → Subscriber.Rebound H}
    (keeps : ∀ subscriber, subscriber.table.keys.Nodup →
      (change subscriber hub.bus).subscriber.table.keys.Nodup) :
    (hub.rebind serial change).Distinct := by
  cases lives : hub.members serial with
  | none =>
      rw [rebind_of_none lives]
      exact distinct
  | some member =>
      rw [rebind_of_some lives]
      have same : Distinct { hub with bus := (change member hub.bus).bus } := distinct
      refine same.seat serial hub.mail fun changed rebound => ?_
      rw [← Option.some.inj rebound]
      exact keeps member (distinct serial member lives)

theorem unbindAll (distinct : hub.Distinct) (serial : Nat) :
    (hub.rebind serial Subscriber.unbindAll).Distinct :=
  distinct.rebind serial fun _ nodup => Subscriber.nodup_keys_unbindEach nodup hub.bus _

end Distinct

/-- What holds of a bus and its subscribers at all times, besides `Sound`. -/
structure Kept (hub : Hub H) : Prop where
  ended : hub.bus.shutDown = true → hub.bus = .spent
  distinct : hub.Distinct

namespace Kept

theorem new (first : Nat) : (new first : Hub H).Kept :=
  ⟨fun impossible => (nomatch impossible), fun _ _ impossible => (nomatch impossible)⟩

theorem ended_step {hub : Hub H} (ended : hub.bus.shutDown = true → hub.bus = .spent)
    (move : Move H) (isShut : (hub.step move).bus.shutDown = true) :
    (hub.step move).bus = .spent := by
  cases live : hub.bus.shutDown with
  | true => exact spent_step (ended live) move
  | false =>
      have isShutdown : move = .shutdown := by
        by_contra other
        rw [live_step live other] at isShut
        cases isShut
      rw [isShutdown]
      exact GlobalBus.shutdown_eq_spent live

theorem step {hub : Hub H} (kept : hub.Kept) (move : Move H) : (hub.step move).Kept := by
  refine ⟨ended_step kept.ended move, ?_⟩
  have distinct := kept.distinct
  have served := hub.still_or_served move
  cases move with
  | create name =>
      have same : Distinct { hub with next := hub.next + 1 } := distinct
      refine same.seat hub.next (hub.mail.openBox hub.next) fun member new => ?_
      rw [← Option.some.inj new]
      exact List.nodup_nil
  | bind serial key handler =>
      exact distinct.rebind serial fun _ nodup =>
        Subscriber.nodup_keys_bind nodup hub.bus key handler
  | unbind serial key =>
      exact distinct.rebind serial fun _ nodup => Subscriber.nodup_keys_unbind nodup hub.bus key
  | unbindAll serial => exact distinct.unbindAll serial
  | drop serial =>
      exact (distinct.unbindAll serial).seat serial _ fun _ impossible => (nomatch impossible)
  | collect | settle =>
      rcases served rfl with still | ⟨serial, member, served, mail, lives, _, table, seated⟩
      · rw [still]
        exact distinct
      · rw [seated]
        refine distinct.seat serial mail fun changed same => ?_
        rw [← Option.some.inj same, table]
        exact distinct serial member lives
  | _ => exact distinct

theorem run {hub : Hub H} (kept : hub.Kept) (moves : List (Move H)) : (hub.run moves).Kept := by
  induction moves generalizing hub with
  | nil => exact kept
  | cons move moves inductionHypothesis => exact inductionHypothesis (kept.step move)

end Kept

theorem spent_shutdown {hub : Hub H} (kept : hub.Kept) : (hub.step .shutdown).bus = .spent := by
  cases live : hub.bus.shutDown with
  | true => exact spent_step (kept.ended live) .shutdown
  | false => exact GlobalBus.shutdown_eq_spent live

/-! ### What still comes -/

/-- Calls on a bus that is over do nothing to it but leave a record each. -/
structure Ignores (hub : Hub H) : Prop where
  subscribe : ∀ key id, hub.bus.subscribe key id = (hub.bus, [.busShutDown .subscribe])
  unsubscribe : ∀ key id, hub.bus.unsubscribe key id = (hub.bus, [.busShutDown .unsubscribe])
  hook : ∀ event, hub.bus.hook event = (hub.bus, [.busShutDown .hook])
  update : hub.bus.update hub.mail = ⟨hub.bus, hub.mail, none, [.busShutDown .update]⟩
  clear : hub.bus.clear = (hub.bus, [.busShutDown .clear])
  shutdown : hub.bus.shutdown = (hub.bus, [.busShutDown .shutdown])
  subscriberCount : ∀ key, hub.bus.subscriberCount hub.mail key = 0
  /-- Only the first handler of a key would be registered. -/
  bind : ∀ serial member key handler, hub.members serial = some member →
    (member.bind hub.bus key handler).bus = hub.bus ∧
      (member.bind hub.bus key handler).warnings =
        if member.isBound key then [] else [.busShutDown .subscribe]
  unbind : ∀ serial member key, hub.members serial = some member →
    (member.unbind hub.bus key).bus = hub.bus ∧
      (member.unbind hub.bus key).warnings =
        if member.isBound key then [.busShutDown .unsubscribe] else [.noHandlers member.id key]
  /-- As it is for whoever is dropped. -/
  unbindAll : ∀ serial member, hub.members serial = some member →
    (member.unbindAll hub.bus).bus = hub.bus ∧
      (member.unbindAll hub.bus).warnings =
        List.replicate member.table.keys.length (.busShutDown .unsubscribe)

theorem ignores_of_spent {hub : Hub H} (kept : hub.Kept) (isOver : hub.bus = .spent) :
    hub.Ignores := by
  constructor <;> rw [isOver]
  · exact GlobalBus.subscribe_spent
  · exact GlobalBus.unsubscribe_spent
  · exact fun _ => GlobalBus.guarded_spent ..
  · exact GlobalBus.update_spent hub.mail
  · exact GlobalBus.guarded_spent ..
  · exact GlobalBus.guarded_spent ..
  · exact fun _ => rfl
  · exact fun _ member key handler _ => member.bind_spent key handler
  · exact fun _ member key _ => member.unbind_spent key
  · intro serial member lives
    exact Subscriber.unbindEach_spent (kept.distinct serial member lives) fun key held =>
      (member.table.contains_iff_mem_keys key).mpr held

/-- Nothing is put into a private queue any more. -/
theorem privateQueue_step_spent {hub : Hub H} (sound : hub.Sound) (isOver : hub.bus = .spent)
    (move : Move H) (serial : Nat) :
    (hub.step move).privateQueue serial <:+ hub.privateQueue serial := by
  have account := (Accounts.of_sound sound move).privately serial
  have nothing : (Made.mk hub move).received serial = [] := by
    have noneLeft : gone hub.bus.queue (hub.step move).bus.queue = [] := by
      rw [spent_step isOver move, isOver]
      rfl
    unfold Made.received Made.departed Made.after
    simp only [noneLeft]
    cases move <;> rfl
  unfold Balanced at account
  rw [nothing, List.append_nil] at account
  exact ⟨_, account.symm⟩

end Hub

end EventTransport
