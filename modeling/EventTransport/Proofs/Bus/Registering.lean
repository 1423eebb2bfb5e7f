import EventTransport.Proofs.Bus.Hooking

/-!
Contract: registrations on a global bus that follow the handlers of a subscriber, over every run.

Owns:
- `Subscriber.InStep`, by which a subscriber is registered exactly once under each key that it has
  handlers for, and under no other;
- `Subscriber.Rebound.Tidy`, by which a change of bindings keeps its own subscriber in step and
  leaves the registrations of all others alone;
- `Hub.Follows`, kept by every move that does not register or release the subscriber past its table.

Two tables in two objects are changed by separate steps here, and an update drops registrations on
its own. What keeps it from dropping those of a subscriber is that its mailbox is open while it
lives.

Does not own: who gets which event for a registration.
-/

namespace EventTransport

/-! ### Registrations -/

namespace GlobalBus

theorem registrations_subscribe {bus : GlobalBus} (live : bus.shutDown = false)
    (key other : Subscription) (id : SubscriberId) (serial : Nat) :
    (bus.subscribe key id).1.registrations other serial =
      bus.registrations other serial + if other = key ∧ id.serial = serial then 1 else 0 := by
  unfold subscribe guarded registrations
  rw [if_neg (by simp [live])]
  simp only [Registry.get_add]
  by_cases here : other = key
  · simp [here, List.countP_append, List.countP_singleton]
  · simp [here]

/-- The first registration of a subscriber removed is one of its own. -/
theorem countP_eraseP_same (ids : List SubscriberId) (id : SubscriberId) (serial : Nat) :
    ((ids.eraseP id.same).countP fun other => other.serial = serial) =
      (ids.countP fun other => other.serial = serial) - if id.serial = serial then 1 else 0 := by
  by_cases registered : ∃ other ∈ ids, id.same other = true
  · obtain ⟨other, member, same⟩ := registered
    obtain ⟨first, before, behind, _, isFirst, split, erased⟩ := List.exists_of_eraseP member same
    have alike : id.serial = first.serial := of_decide_eq_true isFirst
    rw [erased, split, alike]
    by_cases here : first.serial = serial
    · simp only [List.countP_append, List.countP_cons, here, decide_true, if_true]
      omega
    · simp [List.countP_append, here]
  · have nobody : ∀ other ∈ ids, ¬id.same other = true := fun other member same =>
      registered ⟨other, member, same⟩
    rw [List.eraseP_of_forall_not nobody]
    by_cases here : id.serial = serial
    · have none : (ids.countP fun other => other.serial = serial) = 0 := by
        refine List.countP_eq_zero.mpr fun other member same => nobody other member ?_
        exact decide_eq_true (here.trans (of_decide_eq_true same).symm)
      rw [none, Nat.zero_sub]
    · rw [if_neg here, Nat.sub_zero]

theorem any_same_iff (bus : GlobalBus) (key : Subscription) (id : SubscriberId) :
    (bus.registry.get key).any id.same = true ↔ bus.registrations key id.serial ≠ 0 := by
  unfold registrations
  rw [← Nat.pos_iff_ne_zero, List.countP_pos_iff, List.any_eq_true]
  constructor
  · rintro ⟨other, member, same⟩
    exact ⟨other, member, decide_eq_true (of_decide_eq_true same).symm⟩
  · rintro ⟨other, member, same⟩
    exact ⟨other, member, decide_eq_true (of_decide_eq_true same).symm⟩

/-- One registration of the subscriber is removed if there is one. -/
theorem registrations_unsubscribe {bus : GlobalBus} (live : bus.shutDown = false)
    (key other : Subscription) (id : SubscriberId) (serial : Nat) :
    (bus.unsubscribe key id).1.registrations other serial =
      bus.registrations other serial - if other = key ∧ id.serial = serial then 1 else 0 := by
  unfold unsubscribe guarded
  rw [if_neg (by simp [live])]
  by_cases registered : (bus.registry.get key).any id.same = true
  · have held : bus.registry.contains key = true := by
      refine Registry.contains_of_get fun nothing => ?_
      rw [nothing] at registered
      cases registered
    simp only [registered, if_true]
    unfold registrations
    simp only [Registry.get_put _ held]
    by_cases here : other = key
    · simp only [here, if_true, true_and]
      exact countP_eraseP_same _ id serial
    · simp [here]
  · simp only [registered]
    have none : bus.registrations key id.serial = 0 := by
      by_contra some
      exact registered ((bus.any_same_iff key id).mpr some)
    by_cases here : other = key ∧ id.serial = serial
    · obtain ⟨rfl, rfl⟩ := here
      show bus.registrations other id.serial = _
      rw [none, Nat.zero_sub]
    · rw [if_neg here]
      rfl

/-- Releasing a registration that there is, is not worth a record. -/
theorem warnings_unsubscribe {bus : GlobalBus} {key : Subscription} {id : SubscriberId}
    (live : bus.shutDown = false) (registered : bus.registrations key id.serial ≠ 0) :
    (bus.unsubscribe key id).2 = [] := by
  unfold unsubscribe guarded
  rw [if_neg (by simp [live])]
  simp only [(bus.any_same_iff key id).mpr registered, if_true]

end GlobalBus

/-! ### Bindings -/

namespace Subscriber

variable {H : Type}

/-- A subscriber is registered on a bus once for each key that it has handlers for. -/
structure InStep (subscriber : Subscriber H) (bus : GlobalBus) : Prop where
  distinct : subscriber.table.keys.Nodup
  registered : ∀ key, bus.registrations key subscriber.id.serial =
    if subscriber.isBound key then 1 else 0

theorem isBound_bind (subscriber : Subscriber H) (bus : GlobalBus) (key other : Subscription)
    (handler : H) : (subscriber.bind bus key handler).subscriber.isBound other =
      (decide (other = key) || subscriber.isBound other) := by
  unfold bind isBound
  dsimp only
  split <;> exact Registry.contains_add ..

theorem isBound_unbind (subscriber : Subscriber H) (bus : GlobalBus) (key other : Subscription) :
    (subscriber.unbind bus key).subscriber.isBound other =
      (!decide (other = key) && subscriber.isBound other) := by
  unfold unbind isBound
  split
  · exact Registry.contains_erase ..
  · rename_i absent
    by_cases here : other = key
    · simp [here, absent]
    · simp [here]

theorem isBound_unbindEach (subscriber : Subscriber H) (bus : GlobalBus)
    (keys : List Subscription) (key : Subscription) :
    (subscriber.unbindEach bus keys).subscriber.isBound key =
      (!decide (key ∈ keys) && subscriber.isBound key) := by
  induction keys generalizing subscriber bus with
  | nil => simp [unbindEach]
  | cons first keys inductionHypothesis =>
      have later := inductionHypothesis (subscriber.unbind bus first).subscriber
        (subscriber.unbind bus first).bus
      rw [isBound_unbind] at later
      refine later.trans ?_
      by_cases here : key = first <;> simp [here]

/-- Nothing is left bound. -/
theorem isBound_unbindAll (subscriber : Subscriber H) (bus : GlobalBus) (key : Subscription) :
    (subscriber.unbindAll bus).subscriber.isBound key = false := by
  unfold unbindAll
  rw [isBound_unbindEach]
  cases bound : subscriber.isBound key with
  | false => rw [Bool.and_false]
  | true =>
      have held := (subscriber.table.contains_iff_mem_keys key).mp bound
      simp [held]

theorem bus_bind (subscriber : Subscriber H) (bus : GlobalBus) (key : Subscription) (handler : H) :
    (subscriber.bind bus key handler).bus =
      if subscriber.isBound key then bus else (bus.subscribe key subscriber.id).1 := by
  unfold bind isBound
  dsimp only
  split <;> rfl

theorem bus_unbind (subscriber : Subscriber H) (bus : GlobalBus) (key : Subscription) :
    (subscriber.unbind bus key).bus =
      if subscriber.isBound key then (bus.unsubscribe key subscriber.id).1 else bus := by
  unfold unbind isBound
  split <;> rfl

theorem nodup_keys_bind {subscriber : Subscriber H} (distinct : subscriber.table.keys.Nodup)
    (bus : GlobalBus) (key : Subscription) (handler : H) :
    (subscriber.bind bus key handler).subscriber.table.keys.Nodup := by
  unfold bind
  dsimp only
  split <;> exact Registry.nodup_keys_add distinct ..

theorem nodup_keys_unbind {subscriber : Subscriber H} (distinct : subscriber.table.keys.Nodup)
    (bus : GlobalBus) (key : Subscription) :
    (subscriber.unbind bus key).subscriber.table.keys.Nodup := by
  unfold unbind
  split
  · show (subscriber.table.erase key).keys.Nodup
    rw [Registry.keys_erase]
    exact distinct.filter _
  · exact distinct

/-- What a change of bindings does to registrations: its own follow, others are left alone. -/
structure Rebound.Tidy (subscriber : Subscriber H) (bus : GlobalBus) (rebound : Rebound H) :
    Prop where
  mine : subscriber.InStep bus → rebound.subscriber.InStep rebound.bus
  others : ∀ key serial, subscriber.id.serial ≠ serial →
    rebound.bus.registrations key serial = bus.registrations key serial

/-- The first handler of a key brings a registration, and no later one does. -/
theorem tidy_bind (subscriber : Subscriber H) {bus : GlobalBus} (live : bus.shutDown = false)
    (key : Subscription) (handler : H) :
    Rebound.Tidy subscriber bus (subscriber.bind bus key handler) where
  mine := fun inStep => by
    refine ⟨nodup_keys_bind inStep.distinct bus key handler, fun other => ?_⟩
    have before := inStep.registered other
    rw [isBound_bind, (subscriber.calm_bind bus key handler).id, bus_bind]
    by_cases bound : subscriber.isBound key = true
    · rw [if_pos bound, before]
      by_cases here : other = key
      · simp [here, bound]
      · simp [here]
    · rw [if_neg bound, GlobalBus.registrations_subscribe live, before]
      by_cases here : other = key
      · simp [here, bound]
      · simp [here]
  others := fun other serial apart => by
    rw [bus_bind]
    split
    · rfl
    · simp [GlobalBus.registrations_subscribe live, apart]

/-- The registration goes with the handlers of its key. -/
theorem tidy_unbind (subscriber : Subscriber H) {bus : GlobalBus} (live : bus.shutDown = false)
    (key : Subscription) : Rebound.Tidy subscriber bus (subscriber.unbind bus key) where
  mine := fun inStep => by
    refine ⟨nodup_keys_unbind inStep.distinct bus key, fun other => ?_⟩
    have before := inStep.registered other
    rw [isBound_unbind, (subscriber.calm_unbind bus key).id, bus_unbind]
    by_cases bound : subscriber.isBound key = true
    · rw [if_pos bound, GlobalBus.registrations_unsubscribe live, before]
      by_cases here : other = key
      · simp [here, bound]
      · simp [here]
    · rw [if_neg bound, before]
      by_cases here : other = key
      · simp [here, bound]
      · simp [here]
  others := fun other serial apart => by
    rw [bus_unbind]
    split
    · simp [GlobalBus.registrations_unsubscribe live, apart]
    · rfl

theorem tidy_unbindEach (subscriber : Subscriber H) {bus : GlobalBus}
    (live : bus.shutDown = false) (keys : List Subscription) :
    Rebound.Tidy subscriber bus (subscriber.unbindEach bus keys) := by
  induction keys generalizing subscriber bus with
  | nil => exact ⟨fun inStep => inStep, fun _ _ _ => rfl⟩
  | cons key keys inductionHypothesis =>
      have calm := subscriber.calm_unbind bus key
      have now := subscriber.tidy_unbind live key
      have later := inductionHypothesis (subscriber.unbind bus key).subscriber
        (calm.shutDown.trans live)
      refine ⟨fun inStep => later.mine (now.mine inStep), fun other serial apart => ?_⟩
      exact (later.others other serial (calm.id.symm ▸ apart)).trans (now.others other serial apart)

theorem warnings_unbind {subscriber : Subscriber H} {bus : GlobalBus}
    (live : bus.shutDown = false) (inStep : subscriber.InStep bus) (key : Subscription) :
    (subscriber.unbind bus key).warnings =
      if subscriber.isBound key then [] else [.noHandlers subscriber.id key] := by
  unfold unbind
  split
  · rename_i bound
    have once : bus.registrations key subscriber.id.serial = 1 := by
      rw [inStep.registered]
      exact if_pos bound
    rw [if_pos (show subscriber.isBound key = true from bound)]
    exact GlobalBus.warnings_unsubscribe live (by rw [once]; exact Nat.one_ne_zero)
  · rename_i unbound
    rw [if_neg (show ¬subscriber.isBound key = true from unbound)]

/-- Keys that have handlers, each of them unbound once, leave no record. -/
theorem warnings_unbindEach {subscriber : Subscriber H} {bus : GlobalBus} {keys : List Subscription}
    (live : bus.shutDown = false) (inStep : subscriber.InStep bus) (distinct : keys.Nodup)
    (bound : ∀ key ∈ keys, subscriber.isBound key = true) :
    (subscriber.unbindEach bus keys).warnings = [] := by
  induction keys generalizing subscriber bus with
  | nil => rfl
  | cons key keys inductionHypothesis =>
      obtain ⟨once, distinctLater⟩ := List.nodup_cons.mp distinct
      have now : (subscriber.unbind bus key).warnings = [] := by
        rw [warnings_unbind live inStep, if_pos (bound key List.mem_cons_self)]
      have later := inductionHypothesis
        ((subscriber.calm_unbind bus key).shutDown.trans live)
        ((subscriber.tidy_unbind live key).mine inStep) distinctLater
        (fun other member => by
          rw [isBound_unbind, bound other (List.mem_cons_of_mem key member), Bool.and_true]
          have apart : other ≠ key := fun same => once (same ▸ member)
          simp [apart])
      show (subscriber.unbind bus key).warnings ++ _ = []
      rw [now, later]
      rfl

end Subscriber

namespace Hub

variable {H : Type}

theorem rebind_of_none {hub : Hub H} {serial : Nat} (absent : hub.members serial = none)
    (change : Subscriber H → GlobalBus → Subscriber.Rebound H) :
    hub.rebind serial change = hub := by
  unfold rebind
  rw [absent]

theorem rebind_of_some {hub : Hub H} {serial : Nat} {member : Subscriber H}
    (lives : hub.members serial = some member)
    (change : Subscriber H → GlobalBus → Subscriber.Rebound H) :
    hub.rebind serial change = { hub with bus := (change member hub.bus).bus }.seat serial
      (some (change member hub.bus).subscriber) hub.mail := by
  unfold rebind
  rw [lives]

/-! ### Moves -/

/-- Whether a move registers or releases a subscriber past its table of handlers. -/
def Move.registers (serial : Nat) : Move H → Bool
  | subscribe _ id => id.serial = serial
  | unsubscribe _ id => id.serial = serial
  | _ => false

/-- A living subscriber is in step with the bus, and nobody else is registered. -/
def Follows (hub : Hub H) (serial : Nat) : Prop :=
  match hub.members serial with
  | none => ∀ key, hub.bus.registrations key serial = 0
  | some member => member.InStep hub.bus

namespace Follows

theorem of_none {hub : Hub H} {serial : Nat} (absent : hub.members serial = none) :
    hub.Follows serial ↔ ∀ key, hub.bus.registrations key serial = 0 := by
  unfold Follows
  rw [absent]

theorem of_some {hub : Hub H} {serial : Nat} {member : Subscriber H}
    (lives : hub.members serial = some member) : hub.Follows serial ↔ member.InStep hub.bus := by
  unfold Follows
  rw [lives]

/-- Only the registrations of a subscriber, its serial and its table matter. -/
theorem congr {before after : Hub H} {serial : Nat} (follows : before.Follows serial)
    (registrations : ∀ key,
      after.bus.registrations key serial = before.bus.registrations key serial)
    (members : (after.members serial).map (fun member => (member.id, member.table)) =
      (before.members serial).map fun member => (member.id, member.table))
    (named : ∀ member, before.members serial = some member → member.id.serial = serial) :
    after.Follows serial := by
  cases lives : after.members serial with
  | none =>
      rw [lives, Option.map_none] at members
      have absent := Option.map_eq_none_iff.mp members.symm
      rw [of_none lives]
      intro key
      rw [registrations]
      exact (of_none absent).mp follows key
  | some member =>
      rw [lives, Option.map_some] at members
      obtain ⟨earlier, lived, alike⟩ := Option.map_eq_some_iff.mp members.symm
      obtain ⟨id, table⟩ := Prod.mk.inj alike
      have inStep := (of_some lived).mp follows
      have serialOf := named earlier lived
      rw [of_some lives]
      refine ⟨table ▸ inStep.distinct, fun key => ?_⟩
      have before := inStep.registered key
      rw [← id, serialOf, registrations, ← serialOf, before]
      unfold Subscriber.isBound
      rw [table]

/-- A change of bindings of whatever subscriber. -/
theorem rebind {hub : Hub H} {serial other : Nat} (sound : hub.Sound)
    (follows : hub.Follows serial) {change : Subscriber H → GlobalBus → Subscriber.Rebound H}
    (tidy : ∀ subscriber, Subscriber.Rebound.Tidy subscriber hub.bus (change subscriber hub.bus)) :
    (hub.rebind other change).Follows serial := by
  cases lives : hub.members other with
  | none => exact (rebind_of_none lives change).symm ▸ follows
  | some member =>
      have named := sound.named other member lives
      rw [rebind_of_some lives change]
      by_cases here : serial = other
      · subst here
        rw [of_some (members_seat_self _ _ _ _)]
        exact (tidy member).mine ((of_some lives).mp follows)
      · refine follows.congr (fun key => ?_) ?_ (sound.named serial)
        · exact (tidy member).others key serial (named.symm ▸ Ne.symm here)
        · rw [members_seat_of_ne _ here]

end Follows

/-- Whoever is dropped has no handlers left to be registered for. -/
theorem Follows.drop {hub : Hub H} {serial : Nat} (other : Nat) (sound : hub.Sound)
    (live : hub.bus.shutDown = false) (follows : hub.Follows serial) :
    (hub.step (.drop other)).Follows serial := by
  have tidy := fun (subscriber : Subscriber H) =>
    subscriber.tidy_unbindEach live subscriber.table.keys
  let unbound := hub.rebind other Subscriber.unbindAll
  have unboundSound : unbound.Sound :=
    (hub.undisturbed_rebind other Subscriber.calm_unbindAll).sound sound
  have unboundFollows : unbound.Follows serial := follows.rebind sound tidy
  by_cases here : serial = other
  · subst here
    refine (of_none (members_seat_self _ _ _ _)).mpr fun key => ?_
    show unbound.bus.registrations key serial = 0
    cases lives : hub.members serial with
    | none =>
        have same : unbound = hub := rebind_of_none lives _
        rw [same]
        exact (of_none lives).mp follows key
    | some member =>
        have rebound : unbound.members serial = some (member.unbindAll hub.bus).subscriber := by
          rw [show unbound = _ from rebind_of_some lives _]
          exact members_seat_self _ _ _ _
        have registered := ((of_some rebound).mp unboundFollows).registered key
        rw [unboundSound.named serial _ rebound, member.isBound_unbindAll] at registered
        exact registered
  · refine unboundFollows.congr (fun _ => rfl) ?_ (unboundSound.named serial)
    exact congrArg _ (members_seat_of_ne unbound here _ _)

/-- An update drops registrations, but none of a subscriber that lives. -/
theorem Follows.update {hub : Hub H} {serial : Nat} (sound : hub.Sound)
    (follows : hub.Follows serial) : (hub.step .update).Follows serial := by
  have registrations (key : Subscription) :=
    hub.bus.registrations_update hub.mail key serial
  cases lives : hub.members serial with
  | none =>
      have absent : (hub.step .update).members serial = none := lives
      refine (of_none absent).mpr fun key => ?_
      have nothing := (of_none lives).mp follows key
      exact Nat.le_zero.mp (nothing ▸ (registrations key).2)
  | some member =>
      have isOpen : hub.mail.isOpen serial = true := by rw [sound.opened, lives]; rfl
      exact follows.congr (fun key => (registrations key).1 isOpen) rfl (sound.named serial)

/-- A subscriber that keeps its identity and its table in whatever it does to its queue. -/
theorem Follows.seat {hub : Hub H} {serial other : Nat} {member changed : Subscriber H}
    (sound : hub.Sound) (follows : hub.Follows serial) (lives : hub.members other = some member)
    (id : changed.id = member.id) (table : changed.table = member.table) (mail : Mailboxes) :
    (hub.seat other (some changed) mail).Follows serial := by
  refine follows.congr (fun _ => rfl) ?_ (sound.named serial)
  by_cases here : serial = other
  · rw [here, members_seat_self, lives, Option.map_some, Option.map_some, id, table]
  · rw [members_seat_of_ne hub here]

/-- A bus is shut down for good. -/
theorem live_of_live_step {hub : Hub H} {move : Move H}
    (live : (hub.step move).bus.shutDown = false) : hub.bus.shutDown = false := by
  by_contra isShut
  rw [Bool.not_eq_false] at isShut
  have rebound := hub.undisturbed_of_rebinds move
  have served := hub.still_or_served move
  have stays : (hub.step move).bus.shutDown = true := by
    cases move with
    | create name => exact isShut
    | subscribe key id => exact (hub.bus.shutDown_subscribe key id).trans isShut
    | unsubscribe key id => exact (hub.bus.shutDown_unsubscribe key id).trans isShut
    | bind | unbind | unbindAll => exact (rebound rfl).shutDown.trans isShut
    | drop other =>
        exact (hub.undisturbed_rebind other Subscriber.calm_unbindAll).shutDown.trans isShut
    | hook event => simp [step, GlobalBus.hook, GlobalBus.guarded, isShut]
    | update => simp [step, GlobalBus.update, isShut]
    | clear => simp [step, GlobalBus.clear, GlobalBus.guarded, isShut]
    | shutdown => simp [step, GlobalBus.shutdown, GlobalBus.guarded, isShut]
    | collect | settle =>
        rcases served rfl with still | ⟨other, member, served, mail, _, _, _, seated⟩
        · rw [still, isShut]
        · rw [seated]
          exact isShut
  rw [live] at stays
  cases stays

theorem live_of_live_run {hub : Hub H} (moves : List (Move H))
    (live : (hub.run moves).bus.shutDown = false) : hub.bus.shutDown = false := by
  induction moves generalizing hub with
  | nil => exact live
  | cons move moves inductionHypothesis => exact live_of_live_step (inductionHypothesis live)

theorem follows_step {hub : Hub H} {serial : Nat} {move : Move H} (sound : hub.Sound)
    (live : (hub.step move).bus.shutDown = false) (byTable : move.registers serial = false)
    (follows : hub.Follows serial) : (hub.step move).Follows serial := by
  have liveBefore := live_of_live_step live
  have named := sound.named serial
  have served := hub.still_or_served move
  cases move with
  | create name =>
      by_cases here : serial = hub.next
      · have absent := sound.unborn serial (Nat.le_of_eq here.symm)
        have nothing := (Follows.of_none absent).mp follows
        subst here
        refine (Follows.of_some (members_seat_self _ _ _ _)).mpr ⟨List.nodup_nil, fun key => ?_⟩
        exact nothing key
      · refine follows.congr (fun _ => rfl) ?_ named
        exact congrArg _ (members_seat_of_ne { hub with next := hub.next + 1 } here _ _)
  | subscribe key id =>
      have apart : ¬id.serial = serial := of_decide_eq_false byTable
      refine follows.congr (fun other => ?_) rfl named
      show (hub.bus.subscribe key id).1.registrations other serial = _
      simp [GlobalBus.registrations_subscribe liveBefore, apart]
  | unsubscribe key id =>
      have apart : ¬id.serial = serial := of_decide_eq_false byTable
      refine follows.congr (fun other => ?_) rfl named
      show (hub.bus.unsubscribe key id).1.registrations other serial = _
      simp [GlobalBus.registrations_unsubscribe liveBefore, apart]
  | bind other key handler =>
      exact follows.rebind sound fun subscriber => subscriber.tidy_bind liveBefore key handler
  | unbind other key =>
      exact follows.rebind sound fun subscriber => subscriber.tidy_unbind liveBefore key
  | unbindAll other =>
      exact follows.rebind sound fun subscriber => subscriber.tidy_unbindEach liveBefore _
  | drop other => exact follows.drop other sound liveBefore
  | hook event =>
      refine follows.congr (fun key => ?_) rfl named
      simp [step, GlobalBus.hook, GlobalBus.guarded, liveBefore, GlobalBus.registrations]
  | update => exact follows.update sound
  | clear =>
      refine follows.congr (fun key => ?_) rfl named
      simp [step, GlobalBus.clear, GlobalBus.guarded, liveBefore, GlobalBus.registrations]
  | shutdown =>
      have isShut : (hub.step .shutdown).bus.shutDown = true := by
        simp [step, GlobalBus.shutdown, GlobalBus.guarded, liveBefore]
      rw [live] at isShut
      cases isShut
  | collect | settle =>
      rcases served rfl with still | ⟨other, member, served, mail, lives, id, table, seated⟩
      · rw [still]
        exact follows
      · rw [seated]
        exact follows.seat sound lives id table mail

/-- The registrations of a subscriber follow its handlers as long as the bus is not shut down. -/
theorem follows_run {hub : Hub H} {serial : Nat} {moves : List (Move H)} (sound : hub.Sound)
    (byTable : ∀ move ∈ moves, move.registers serial = false)
    (live : (hub.run moves).bus.shutDown = false) (follows : hub.Follows serial) :
    (hub.run moves).Sound ∧ (hub.run moves).Follows serial := by
  induction moves generalizing hub with
  | nil => exact ⟨sound, follows⟩
  | cons move moves inductionHypothesis =>
      have liveNow : (hub.step move).bus.shutDown = false := live_of_live_run moves live
      exact inductionHypothesis (Accounts.of_sound sound move).sound
        (fun other member => byTable other (List.mem_cons_of_mem move member)) live
        (follows_step sound liveNow (byTable move List.mem_cons_self) follows)

/-- **A subscriber is registered as it has bound.** Of a subscriber that is registered and
released through its bindings alone, on a bus that is not shut down, there is after every run
exactly one registration under each key that it has handlers for, and none under any other. So
unbinding releases what there is to release: what has no handlers is worth a record of its own,
and nothing else is. A subscriber that does not live is registered under no key, and so is one
that is dropped. -/
theorem registered_as_bound (first : Nat) (moves : List (Move H)) (serial : Nat)
    (byTable : ∀ move ∈ moves, move.registers serial = false)
    (live : ((new first : Hub H).run moves).bus.shutDown = false) :
    let hub := (new first : Hub H).run moves
    (∀ member, hub.members serial = some member →
      (∀ key, hub.bus.registrations key serial = if member.isBound key then 1 else 0) ∧
      (∀ key, (member.unbind hub.bus key).warnings =
        if member.isBound key then [] else [.noHandlers member.id key]) ∧
      (member.unbindAll hub.bus).warnings = []) ∧
    (hub.members serial = none → ∀ key, hub.bus.registrations key serial = 0) ∧
    ∀ key, (hub.step (.drop serial)).bus.registrations key serial = 0 := by
  intro hub
  obtain ⟨sound, follows⟩ := follows_run (.new first) byTable live
    ((Follows.of_none rfl).mpr fun _ => rfl)
  refine ⟨fun member lives => ?_, fun absent => (Follows.of_none absent).mp follows, ?_⟩
  · have inStep := (Follows.of_some lives).mp follows
    refine ⟨fun key => ?_, Subscriber.warnings_unbind live inStep, ?_⟩
    · rw [← inStep.registered key, sound.named serial member lives]
    · exact Subscriber.warnings_unbindEach live inStep inStep.distinct fun key held =>
        (member.table.contains_iff_mem_keys key).mpr held
  · have gone : (hub.step (.drop serial)).members serial = none := members_seat_self _ _ _ _
    exact (Follows.of_none gone).mp (follows.drop serial sound live)

/-- Two handlers of one key share a registration, which stays when an update drops those of a
subscriber that has gone; the one for every event goes with its only handler. -/
theorem registered_as_bound_after_pruning :
    let own : Subscription := .uid ⟨7⟩
    let moves : List (Move Nat) :=
      [.create "reader", .create "gone", .bind 0 own 9, .bind 0 own 8, .bind 0 .all 9,
        .bind 1 .all 9, .subscribe own ⟨1, "gone"⟩, .drop 1, .hook { uid := ⟨7⟩ }, .update,
        .unbind 0 .all]
    let hub := (new 0).run moves
    hub.bus.registrations own 0 = 1 ∧ hub.bus.registrations .all 0 = 0 ∧
    (∃ member, hub.members 0 = some member ∧ (member.unbind hub.bus own).warnings = [] ∧
      (member.unbindAll hub.bus).warnings = []) ∧
    ∀ key, (hub.step (.drop 0)).bus.registrations key 0 = 0 := by
  intro own moves hub
  obtain ⟨living, _, dropped⟩ :=
    registered_as_bound 0 moves 0 (by decide +kernel) (by decide +kernel)
  have lives : hub.members 0 = some ((hub.members 0).get (by decide +kernel)) :=
    (Option.some_get _).symm
  obtain ⟨registered, warnings, nothing⟩ := living _ lives
  refine ⟨?_, ?_, ⟨_, lives, ?_, nothing⟩, dropped⟩
  · exact (registered own).trans (by decide +kernel)
  · exact (registered .all).trans (by decide +kernel)
  · rw [warnings own]
    exact if_pos (by decide +kernel)

end Hub

end EventTransport
