import EventTransport.Proofs.Bus.Hub

/-!
Contract: what becomes of the events hooked on a global bus, over every run.

Owns:
- `Hub.Sound`, the invariant of a hub: a mailbox is open exactly if its subscriber lives;
- `Hub.Accounts`, by which a move takes from the front of queues and adds to their ends;
- that events are handed out in the order in which they were hooked, each of them once, to whoever
  is registered for it then.

Does not own: what subscribers do with the events they get.
-/

namespace EventTransport

theorem GlobalBus.shutDown_subscribe (bus : GlobalBus) (key : Subscription) (id : SubscriberId) :
    (bus.subscribe key id).1.shutDown = bus.shutDown := by
  unfold subscribe guarded
  split <;> rfl

theorem GlobalBus.shutDown_unsubscribe (bus : GlobalBus) (key : Subscription) (id : SubscriberId) :
    (bus.unsubscribe key id).1.shutDown = bus.shutDown := by
  unfold unsubscribe guarded
  split
  · rfl
  · simp only
    split <;> rfl

namespace Subscriber

variable {H : Type}

/-- A change of bindings leaves the identity and all queues alone. -/
structure Rebound.Calm (subscriber : Subscriber H) (bus : GlobalBus) (rebound : Rebound H) :
    Prop where
  id : rebound.subscriber.id = subscriber.id
  queue : rebound.subscriber.queue = subscriber.queue
  hooked : rebound.bus.queue = bus.queue
  shutDown : rebound.bus.shutDown = bus.shutDown

theorem calm_bind (subscriber : Subscriber H) (bus : GlobalBus) (key : Subscription) (handler : H) :
    Rebound.Calm subscriber bus (subscriber.bind bus key handler) := by
  unfold bind
  simp only
  split
  · exact ⟨rfl, rfl, rfl, rfl⟩
  · exact ⟨rfl, rfl, bus.queue_subscribe key subscriber.id,
      bus.shutDown_subscribe key subscriber.id⟩

theorem calm_unbind (subscriber : Subscriber H) (bus : GlobalBus) (key : Subscription) :
    Rebound.Calm subscriber bus (subscriber.unbind bus key) := by
  unfold unbind
  split
  · exact ⟨rfl, rfl, bus.queue_unsubscribe key subscriber.id,
      bus.shutDown_unsubscribe key subscriber.id⟩
  · exact ⟨rfl, rfl, rfl, rfl⟩

theorem calm_unbindEach (subscriber : Subscriber H) (bus : GlobalBus) (keys : List Subscription) :
    Rebound.Calm subscriber bus (subscriber.unbindEach bus keys) := by
  induction keys generalizing subscriber bus with
  | nil => exact ⟨rfl, rfl, rfl, rfl⟩
  | cons key keys inductionHypothesis =>
      have now := subscriber.calm_unbind bus key
      have later := inductionHypothesis (subscriber.unbind bus key).subscriber
        (subscriber.unbind bus key).bus
      exact
        { id := later.id.trans now.id
          queue := later.queue.trans now.queue
          hooked := later.hooked.trans now.hooked
          shutDown := later.shutDown.trans now.shutDown }

theorem calm_unbindAll (subscriber : Subscriber H) (bus : GlobalBus) :
    Rebound.Calm subscriber bus (subscriber.unbindAll bus) :=
  subscriber.calm_unbindEach bus subscriber.table.keys

end Subscriber

namespace Hub

variable {H : Type}

/-- What holds of a bus and its subscribers at all times. -/
structure Sound (hub : Hub H) : Prop where
  opened : ∀ serial, hub.mail.isOpen serial = (hub.members serial).isSome
  named : ∀ serial member, hub.members serial = some member → member.id.serial = serial
  unborn : ∀ serial, hub.next ≤ serial → hub.members serial = none
  emptied : hub.bus.shutDown = true → hub.bus.queue = []

theorem Sound.new (first : Nat) : (new first : Hub H).Sound :=
  ⟨fun _ => rfl, fun _ _ impossible => (nomatch impossible), fun _ _ => rfl, fun _ => rfl⟩

/-- Whoever lives has been created. -/
theorem Sound.lt_next {hub : Hub H} (sound : hub.Sound) {serial : Nat} {member : Subscriber H}
    (lives : hub.members serial = some member) : serial < hub.next := by
  by_contra later
  have absent := sound.unborn serial (Nat.le_of_not_lt later)
  rw [lives] at absent
  cases absent

theorem privateQueue_of_some {hub : Hub H} {serial : Nat} {member : Subscriber H}
    (lives : hub.members serial = some member) :
    hub.privateQueue serial = member.queue ++ hub.mail.waiting serial := by
  unfold privateQueue
  rw [lives]

theorem privateQueue_of_none {hub : Hub H} {serial : Nat} (absent : hub.members serial = none) :
    hub.privateQueue serial = [] := by
  unfold privateQueue
  rw [absent]

theorem privateQueue_congr {before after : Hub H} {serial : Nat}
    (members : after.members serial = before.members serial)
    (waiting : after.mail.waiting serial = before.mail.waiting serial) :
    after.privateQueue serial = before.privateQueue serial := by
  unfold privateQueue
  rw [members, waiting]

/-- An update appends to the private queue of a living subscriber as many copies as it has
registrations. -/
theorem privateQueue_update {hub : Hub H} {event : Event} {rest : List Event}
    (live : hub.bus.shutDown = false) (queue : hub.bus.queue = event :: rest) (sound : hub.Sound)
    (serial : Nat) :
    (hub.step .update).privateQueue serial =
      hub.privateQueue serial ++ List.replicate (hub.copiesFor event serial) event := by
  have handsOut := GlobalBus.handsOut_update live queue hub.mail
  unfold copiesFor
  cases lives : hub.members serial with
  | none =>
      rw [privateQueue_of_none lives]
      exact privateQueue_of_none lives
  | some member =>
      have isOpen : hub.mail.isOpen serial = true := by rw [sound.opened, lives]; rfl
      have waiting := handsOut.waiting serial
      rw [if_pos isOpen] at waiting
      have after : (hub.step .update).privateQueue serial =
          member.queue ++ (hub.bus.update hub.mail).mail.waiting serial :=
            privateQueue_of_some lives
      rw [after, privateQueue_of_some lives, waiting, List.append_assoc]
      rfl

/-! ### Moves of one subscriber -/

/-- A subscriber that may take the place of another one, or of none, with its mailbox. -/
structure Fits (hub : Hub H) (serial : Nat) (member : Option (Subscriber H)) (mail : Mailboxes) :
    Prop where
  known : member.isSome = true → serial < hub.next
  named : ∀ subscriber, member = some subscriber → subscriber.id.serial = serial
  opened : mail.isOpen serial = member.isSome
  isOpen : ∀ other, other ≠ serial → mail.isOpen other = hub.mail.isOpen other
  waiting : ∀ other, other ≠ serial → mail.waiting other = hub.mail.waiting other

namespace Fits

variable {hub : Hub H} {serial : Nat} {member : Option (Subscriber H)} {mail : Mailboxes}

theorem sound (fits : hub.Fits serial member mail) (sound : hub.Sound) :
    (hub.seat serial member mail).Sound where
  opened := fun other => by
    by_cases here : other = serial
    · rw [here, members_seat_self]
      exact fits.opened
    · rw [members_seat_of_ne hub here, ← sound.opened]
      exact fits.isOpen other here
  named := fun other subscriber lives => by
    by_cases here : other = serial
    · rw [here, members_seat_self] at lives
      rw [here]
      exact fits.named subscriber lives
    · rw [members_seat_of_ne hub here] at lives
      exact sound.named other subscriber lives
  unborn := fun other later => by
    by_cases here : other = serial
    · rw [here, members_seat_self]
      change hub.next ≤ other at later
      have unknown : ¬serial < hub.next := by omega
      simpa using mt fits.known unknown
    · rw [members_seat_of_ne hub here]
      exact sound.unborn other later
  emptied := sound.emptied

theorem ends (fits : hub.Fits serial member mail)
    (mine : (hub.seat serial member mail).privateQueue serial <:+ hub.privateQueue serial)
    (other : Nat) :
    (hub.seat serial member mail).privateQueue other <:+ hub.privateQueue other := by
  by_cases here : other = serial
  · rw [here]
    exact mine
  · exact ⟨[], privateQueue_congr (members_seat_of_ne hub here member mail)
      (fits.waiting other here)⟩

end Fits

/-! ### Moves that touch no queue -/

/-- Nothing happens to a queue, and nobody comes or goes. -/
structure Undisturbed (before after : Hub H) : Prop where
  queue : after.bus.queue = before.bus.queue
  shutDown : after.bus.shutDown = before.bus.shutDown
  mail : after.mail = before.mail
  next : after.next = before.next
  members : ∀ serial, (after.members serial).map (fun member => (member.id, member.queue)) =
    (before.members serial).map fun member => (member.id, member.queue)

namespace Undisturbed

variable {before after : Hub H}

theorem refl (hub : Hub H) : Undisturbed hub hub := ⟨rfl, rfl, rfl, rfl, fun _ => rfl⟩

theorem sound (undisturbed : Undisturbed before after) (sound : before.Sound) : after.Sound where
  opened := fun serial => by
    have same := congrArg Option.isSome (undisturbed.members serial)
    rw [Option.isSome_map, Option.isSome_map] at same
    rw [undisturbed.mail, sound.opened, same]
  named := fun serial member lives => by
    have same := undisturbed.members serial
    rw [lives, Option.map_some] at same
    obtain ⟨earlier, lived, alike⟩ := Option.map_eq_some_iff.mp same.symm
    obtain ⟨id, _⟩ := Prod.mk.inj alike
    rw [← id]
    exact sound.named serial earlier lived
  unborn := fun serial later => by
    have same := undisturbed.members serial
    rw [undisturbed.next] at later
    rw [sound.unborn serial later] at same
    exact Option.map_eq_none_iff.mp same
  emptied := fun shutDown => by
    rw [undisturbed.shutDown] at shutDown
    rw [undisturbed.queue]
    exact sound.emptied shutDown

theorem privateQueue (undisturbed : Undisturbed before after) (serial : Nat) :
    after.privateQueue serial = before.privateQueue serial := by
  have same := undisturbed.members serial
  cases lives : after.members serial with
  | none =>
      rw [lives, Option.map_none] at same
      rw [privateQueue_of_none lives,
        privateQueue_of_none (Option.map_eq_none_iff.mp same.symm)]
  | some member =>
      rw [lives, Option.map_some] at same
      obtain ⟨earlier, lived, alike⟩ := Option.map_eq_some_iff.mp same.symm
      obtain ⟨_, queue⟩ := Prod.mk.inj alike
      rw [privateQueue_of_some lives, privateQueue_of_some lived, undisturbed.mail, queue]

end Undisturbed

theorem undisturbed_rebind (hub : Hub H) (serial : Nat)
    {change : Subscriber H → GlobalBus → Subscriber.Rebound H}
    (calm : ∀ subscriber bus, Subscriber.Rebound.Calm subscriber bus (change subscriber bus)) :
    Undisturbed hub (hub.rebind serial change) := by
  unfold rebind
  split
  · exact .refl hub
  · rename_i member lives
    have same := calm member hub.bus
    refine ⟨same.hooked, same.shutDown, rfl, rfl, fun other => ?_⟩
    by_cases here : other = serial
    · rw [here, members_seat_self, lives, Option.map_some, Option.map_some, same.id, same.queue]
    · rw [members_seat_of_ne _ here]

/-- Whether a move changes what a subscriber has bound. -/
def Move.rebinds : Move H → Bool
  | bind _ _ _ => true
  | unbind _ _ => true
  | unbindAll _ => true
  | _ => false

theorem undisturbed_of_rebinds (hub : Hub H) (move : Move H) (rebinds : move.rebinds = true) :
    Undisturbed hub (hub.step move) := by
  cases move with
  | bind serial key handler =>
      exact hub.undisturbed_rebind serial fun subscriber bus => subscriber.calm_bind bus key handler
  | unbind serial key =>
      exact hub.undisturbed_rebind serial fun subscriber bus => subscriber.calm_unbind bus key
  | unbindAll serial => exact hub.undisturbed_rebind serial Subscriber.calm_unbindAll
  | _ => cases rebinds

/-! ### Accounts -/

/-- What was in a queue, and what came, is what has gone and what is in it now, in order. -/
def Balanced (before came gone after : List Event) : Prop := before ++ came = gone ++ after

theorem Balanced.trans {before middle after came more gone further : List Event}
    (first : Balanced before came gone middle) (second : Balanced middle more further after) :
    Balanced before (came ++ more) (gone ++ further) after := by
  unfold Balanced at first second ⊢
  rw [← List.append_assoc, first, List.append_assoc, second, List.append_assoc]

theorem Balanced.of_suffix {before after : List Event} (ends : after <:+ before) :
    Balanced before [] (gone before after) after := by
  unfold Balanced
  rw [List.append_nil, gone_append_of_suffix ends]

/-- Every queue is served at its front and grows at its end. -/
structure Accounts (made : Made H) : Prop where
  sound : made.after.Sound
  queue : Balanced made.before.bus.queue made.hooked (made.departed.map Departure.event)
    made.after.bus.queue
  privately : ∀ serial, Balanced (made.before.privateQueue serial) (made.received serial)
    (made.taken serial) (made.after.privateQueue serial)

namespace Accounts

/-- A move that nothing is told of but what it takes from private queues. -/
theorem silent {made : Made H} (sound : made.after.Sound)
    (queue : made.after.bus.queue = made.before.bus.queue) (hooksNothing : made.hooked = [])
    (handsOutNothing : made.departed = [])
    (ends : ∀ serial, made.after.privateQueue serial <:+ made.before.privateQueue serial) :
    Accounts made where
  sound := sound
  queue := by
    rw [hooksNothing, handsOutNothing, queue]
    exact List.append_nil _
  privately := fun serial => by
    unfold Made.received
    rw [handsOutNothing]
    exact .of_suffix (ends serial)

theorem undisturbed {made : Made H} (sound : made.before.Sound)
    (undisturbed : Undisturbed made.before made.after) (hooksNothing : made.hooked = [])
    (handsOutNothing : made.departed = []) : Accounts made := by
  refine silent (undisturbed.sound sound) undisturbed.queue hooksNothing handsOutNothing ?_
  intro serial
  exact ⟨[], undisturbed.privateQueue serial⟩

/-- A move of one subscriber, which takes at most something from its private queue. -/
theorem seat {made : Made H} {serial : Nat} {member : Option (Subscriber H)} {mail : Mailboxes}
    {hub : Hub H} (sound : hub.Sound) (fits : hub.Fits serial member mail)
    (queue : hub.bus.queue = made.before.bus.queue)
    (before : ∀ other, hub.privateQueue other = made.before.privateQueue other)
    (after : made.after = hub.seat serial member mail) (hooksNothing : made.hooked = [])
    (handsOutNothing : made.departed = [])
    (mine : (hub.seat serial member mail).privateQueue serial <:+ hub.privateQueue serial) :
    Accounts made := by
  refine silent (after ▸ fits.sound sound) (after ▸ queue) hooksNothing handsOutNothing ?_
  intro other
  rw [after, ← before other]
  exact fits.ends mine other

theorem create {hub : Hub H} (sound : hub.Sound) (name : String) :
    Accounts ⟨hub, .create name⟩ := by
  let counted : Hub H := { hub with next := hub.next + 1 }
  have fits : counted.Fits hub.next (some { id := ⟨hub.next, name⟩ })
      (hub.mail.openBox hub.next) := by
    refine ⟨fun _ => Nat.lt_succ_self hub.next, ?_, ?_, ?_, ?_⟩
    · intro subscriber new
      rw [← Option.some.inj new]
    · rw [Mailboxes.isOpen_openBox, beq_self_eq_true]
      rfl
    · intro other apart
      rw [Mailboxes.isOpen_openBox, beq_eq_false_iff_ne.mpr apart]
      rfl
    · intro other apart
      rw [Mailboxes.waiting_openBox, if_neg apart]
  have grown : counted.Sound :=
    { sound with unborn := fun serial later => sound.unborn serial (Nat.le_of_succ_le later) }
  refine seat grown fits rfl (fun _ => rfl) rfl rfl rfl ?_
  rw [privateQueue_of_some (members_seat_self _ _ _ _)]
  show [] ++ (hub.mail.openBox hub.next).waiting hub.next <:+ _
  rw [Mailboxes.waiting_openBox, if_pos rfl]
  exact List.nil_suffix

theorem drop {hub : Hub H} (sound : hub.Sound) (serial : Nat) :
    Accounts ⟨hub, .drop serial⟩ := by
  let unbound := hub.rebind serial Subscriber.unbindAll
  have undisturbed : Undisturbed hub unbound :=
    hub.undisturbed_rebind serial Subscriber.calm_unbindAll
  have fits : unbound.Fits serial none (unbound.mail.closeBox serial) := by
    refine ⟨fun impossible => (nomatch impossible), fun _ impossible => (nomatch impossible),
      ?_, ?_, ?_⟩
    · rw [Mailboxes.isOpen_closeBox, bne_self_eq_false]
      rfl
    · intro other apart
      rw [Mailboxes.isOpen_closeBox, bne_iff_ne.mpr apart]
      rfl
    · intro other apart
      rw [Mailboxes.waiting_closeBox, if_neg apart]
  refine seat (undisturbed.sound sound) fits undisturbed.queue undisturbed.privateQueue rfl rfl
    rfl ?_
  rw [privateQueue_of_none (members_seat_self _ _ _ _)]
  exact List.nil_suffix

theorem collect {hub : Hub H} (sound : hub.Sound) (serial : Nat) :
    Accounts ⟨hub, .collect serial⟩ := by
  cases lives : hub.members serial with
  | none =>
      have same : Undisturbed hub (hub.step (.collect serial)) := by
        rw [step_collect_of_none lives]
        exact .refl hub
      exact undisturbed sound same rfl rfl
  | some member =>
      have named := sound.named serial member lives
      have isOpen : hub.mail.isOpen serial = true := by rw [sound.opened, lives]; rfl
      let collected := member.collect hub.mail
      have emptied : collected.2 = hub.mail.store serial [] := by rw [← named]; rfl
      have fits : hub.Fits serial (some collected.1) collected.2 := by
        refine ⟨fun _ => sound.lt_next lives, ?_, ?_, ?_, ?_⟩
        · intro subscriber same
          rw [← Option.some.inj same]
          exact named
        · rw [emptied, Mailboxes.isOpen_store, isOpen]
          rfl
        · intro other apart
          rw [emptied, Mailboxes.isOpen_store]
        · intro other apart
          rw [emptied, Mailboxes.waiting_store _ _ _ _ isOpen, if_neg apart]
      refine seat sound fits rfl (fun _ => rfl) (step_collect lives) rfl rfl ?_
      have waits : collected.1.queue = member.queue ++ hub.mail.waiting serial := by
        rw [← named]
        rfl
      have nothing : collected.2.waiting serial = [] := by
        rw [emptied, Mailboxes.waiting_store _ _ _ _ isOpen, if_pos rfl]
      have same : (hub.seat serial (some collected.1) collected.2).privateQueue serial =
          hub.privateQueue serial := by
        rw [privateQueue_of_some (members_seat_self _ _ _ _), privateQueue_of_some lives, waits]
        show _ ++ collected.2.waiting serial = _
        rw [nothing, List.append_nil]
      exact ⟨[], same⟩

theorem settle {hub : Hub H} (sound : hub.Sound) (serial : Nat) (answers : List Bool) :
    Accounts ⟨hub, .settle serial answers⟩ := by
  cases lives : hub.members serial with
  | none =>
      have same : Undisturbed hub (hub.step (.settle serial answers)) := by
        rw [step_settle_of_none lives]
        exact .refl hub
      exact undisturbed sound same rfl rfl
  | some member =>
      have fits : hub.Fits serial (some (member.settled answers)) hub.mail := by
        refine ⟨fun _ => sound.lt_next lives, ?_, ?_, fun _ _ => rfl, fun _ _ => rfl⟩
        · intro subscriber same
          rw [← Option.some.inj same, Subscriber.id_settled]
          exact sound.named serial member lives
        · rw [sound.opened, lives]
          rfl
      refine seat sound fits rfl (fun _ => rfl) (step_settle lives answers) rfl rfl ?_
      rw [privateQueue_of_some (members_seat_self _ _ _ _), privateQueue_of_some lives]
      exact List.suffix_append_self_iff.mpr (member.queue_settled answers)

/-- A call of the bus alone: what is in the queue is kept or discarded, or something is hooked. -/
theorem ofBus {made : Made H} (sound : made.before.Sound) (bus : GlobalBus)
    (after : made.after = { made.before with bus := bus })
    (empties : bus.shutDown = true → bus.queue = [])
    (queue : Balanced made.before.bus.queue made.hooked
      (made.departed.map Departure.event) bus.queue)
    (handsOutNothing : ∀ departure ∈ made.departed, departure.fate = .discarded) :
    Accounts made where
  sound := by
    rw [after]
    exact { sound with emptied := empties }
  queue := by
    rw [after]
    exact queue
  privately := fun serial => by
    have same : made.after.privateQueue serial = made.before.privateQueue serial := by
      rw [after]
      rfl
    have nothing : made.received serial = [] := by
      apply List.flatMap_eq_nil_iff.mpr
      intro departure departed
      unfold Departure.copies
      rw [handsOutNothing departure departed]
    rw [nothing, same]
    have ends := Balanced.of_suffix (List.suffix_rfl : made.before.privateQueue serial <:+ _)
    unfold Made.taken
    rw [same]
    exact ends

theorem hook {hub : Hub H} (sound : hub.Sound) (event : Event) : Accounts ⟨hub, .hook event⟩ := by
  refine ofBus sound (hub.bus.hook event).1 rfl ?_ ?_ (fun _ impossible => nomatch impossible)
  · unfold GlobalBus.hook GlobalBus.guarded
    split
    · exact sound.emptied
    · rename_i live
      exact fun shutDown => absurd shutDown live
  · unfold Balanced Made.hooked GlobalBus.hook GlobalBus.guarded
    simp only
    split
    · exact List.append_nil _
    · rfl

/-- A call by which everything in the queue is discarded, unless the bus is shut down. -/
theorem discard {made : Made H} {call : BusCall} {live : GlobalBus × List Warning}
    (sound : made.before.Sound)
    (after : made.after = { made.before with bus := (made.before.bus.guarded call live).1 })
    (emptied : live.1.queue = []) (hooksNothing : made.hooked = [])
    (departed : made.departed =
      (gone made.before.bus.queue made.after.bus.queue).map fun event => ⟨event, .discarded⟩) :
    Accounts made := by
  have queue : (made.before.bus.guarded call live).1.queue <:+ made.before.bus.queue := by
    unfold GlobalBus.guarded
    split
    · exact List.suffix_rfl
    · rw [emptied]
      exact List.nil_suffix
  refine ofBus sound _ after ?_ ?_ ?_
  · unfold GlobalBus.guarded
    split
    · exact sound.emptied
    · exact fun _ => emptied
  · have events : made.departed.map Departure.event =
        gone made.before.bus.queue (made.before.bus.guarded call live).1.queue := by
      rw [departed, List.map_map, after]
      exact List.map_id _
    rw [hooksNothing, events]
    exact .of_suffix queue
  · intro departure member
    rw [departed] at member
    obtain ⟨event, _, rfl⟩ := List.mem_map.mp member
    rfl

theorem update {hub : Hub H} (sound : hub.Sound) : Accounts ⟨hub, .update⟩ := by
  cases queue : hub.bus.queue with
  | nil =>
      obtain ⟨bus, mail, _⟩ := GlobalBus.update_of_queue_eq_nil queue hub.mail
      have nothing : hub.step .update = hub := by
        show { hub with
          bus := (hub.bus.update hub.mail).bus
          mail := (hub.bus.update hub.mail).mail } = hub
        rw [bus, mail]
      have same : Undisturbed hub (hub.step .update) := by
        rw [nothing]
        exact .refl hub
      refine undisturbed sound same rfl ?_
      show (gone hub.bus.queue (hub.step .update).bus.queue).map _ = []
      rw [nothing, gone_self]
      rfl
  | cons event rest =>
      have live : hub.bus.shutDown = false := by
        cases shutDown : hub.bus.shutDown with
        | false => rfl
        | true =>
            rw [sound.emptied shutDown] at queue
            cases queue
      have handsOut := GlobalBus.handsOut_update live queue hub.mail
      have departed : (Made.mk hub .update).departed =
          [⟨event, .fannedOut (hub.copiesFor event)⟩] := by
        show (gone hub.bus.queue (hub.bus.update hub.mail).bus.queue).map _ = _
        rw [handsOut.queue, queue]
        simp [gone]
      refine ⟨?_, ?_, fun serial => ?_⟩
      · exact
          { opened := fun serial => (handsOut.isOpen serial).trans (sound.opened serial)
            named := sound.named
            unborn := sound.unborn
            emptied := fun shutDown => absurd shutDown (Bool.eq_false_iff.mp handsOut.shutDown) }
      · rw [departed]
        show hub.bus.queue ++ [] = [event] ++ (hub.bus.update hub.mail).bus.queue
        rw [handsOut.queue, queue, List.append_nil]
        rfl
      · have arrived := privateQueue_update live queue sound serial
        unfold Balanced Made.taken Made.received
        rw [departed]
        show hub.privateQueue serial ++ (List.replicate (hub.copiesFor event serial) event ++ []) =
          gone (hub.privateQueue serial) ((hub.step .update).privateQueue serial) ++
            (hub.step .update).privateQueue serial
        rw [arrived, gone_append, List.append_nil]
        rfl

theorem of_sound {hub : Hub H} (sound : hub.Sound) (move : Move H) : Accounts ⟨hub, move⟩ := by
  have rebound := hub.undisturbed_of_rebinds move
  cases move with
  | create name => exact create sound name
  | subscribe key id =>
      refine undisturbed sound ⟨?_, ?_, rfl, rfl, fun _ => rfl⟩ rfl rfl
      · exact hub.bus.queue_subscribe key id
      · exact hub.bus.shutDown_subscribe key id
  | unsubscribe key id =>
      refine undisturbed sound ⟨?_, ?_, rfl, rfl, fun _ => rfl⟩ rfl rfl
      · exact hub.bus.queue_unsubscribe key id
      · exact hub.bus.shutDown_unsubscribe key id
  | bind | unbind | unbindAll => exact undisturbed sound (rebound rfl) rfl rfl
  | drop serial => exact drop sound serial
  | hook event => exact hook sound event
  | update => exact update sound
  | clear => exact discard sound rfl rfl rfl rfl
  | shutdown => exact discard sound rfl rfl rfl rfl
  | collect serial => exact collect sound serial
  | settle serial answers => exact settle sound serial answers

end Accounts

/-! ### Runs -/

/-- What every move keeps in balance, a run keeps in balance. -/
theorem balanced_run (queue : Hub H → List Event) {came gone : Made H → List Event}
    (step : ∀ made : Made H, Accounts made →
      Balanced (queue made.before) (came made) (gone made) (queue made.after))
    {hub : Hub H} (sound : hub.Sound) (moves : List (Move H)) :
    (hub.run moves).Sound ∧
      Balanced (queue hub) ((hub.past moves).flatMap came) ((hub.past moves).flatMap gone)
        (queue (hub.run moves)) := by
  induction moves generalizing hub with
  | nil => exact ⟨sound, List.append_nil _⟩
  | cons move moves inductionHypothesis =>
      have accounts := Accounts.of_sound sound move
      obtain ⟨later, balanced⟩ := inductionHypothesis accounts.sound
      exact ⟨later, (step ⟨hub, move⟩ accounts).trans balanced⟩

/-- **Events are handed out as they were hooked.** At all times the events hooked are those that
have left the queue of the bus, in order, and those that wait in it; every one that has left was
discarded when all were, or handed out by one update. What waits for a subscriber, behind what it
has settled, are the copies of the events handed out to it, in the same order.

After every run an update of a bus that is not shut down takes the event at the front of the queue
and appends as many copies of it to the private queue of each living subscriber as this one has
registrations for it, and none to that of anybody else; it answers how many registrations of living
subscribers there are. Without an event it does nothing, and hooking one hands out nothing. -/
theorem fans_out_as_hooked (first : Nat) (moves : List (Move H)) :
    let hub := (new first).run moves
    let past := (new first).past moves
    let departures := past.flatMap Made.departed
    past.flatMap Made.hooked = departures.map Departure.event ++ hub.bus.queue ∧
    (∀ serial, past.flatMap (fun made => made.taken serial) ++ hub.privateQueue serial =
      departures.flatMap fun departure => departure.copies serial) ∧
    (∀ event rest, hub.bus.shutDown = false → hub.bus.queue = event :: rest →
      (hub.step .update).bus.queue = rest ∧
      (hub.bus.update hub.mail).copies = some (hub.bus.subscriberCount hub.mail (.uid event.uid) +
        hub.bus.subscriberCount hub.mail .all) ∧
      ∀ serial, (hub.step .update).privateQueue serial =
        hub.privateQueue serial ++ List.replicate (hub.copiesFor event serial) event) ∧
    (hub.bus.queue = [] → (hub.bus.update hub.mail).copies = none ∧ hub.step .update = hub) ∧
    ∀ event serial, (hub.step (.hook event)).privateQueue serial = hub.privateQueue serial := by
  intro hub past departures
  have started : (new first : Hub H).Sound := .new first
  obtain ⟨sound, hooked⟩ := balanced_run (fun hub => hub.bus.queue)
    (fun _ accounts => accounts.queue) started moves
  refine ⟨?_, fun serial => ?_, ?_, ?_, fun event serial => rfl⟩
  · have listed : departures.map Departure.event =
        past.flatMap fun made => made.departed.map Departure.event :=
      List.map_flatMap
    rw [listed]
    exact hooked
  · have listed : (departures.flatMap fun departure => departure.copies serial) =
        past.flatMap fun made => made.received serial :=
      List.flatMap_assoc
    obtain ⟨_, received⟩ := balanced_run (fun hub => hub.privateQueue serial)
      (fun _ accounts => accounts.privately serial) started moves
    rw [listed]
    exact received.symm
  · intro event rest live queue
    have handsOut := GlobalBus.handsOut_update live queue hub.mail
    exact ⟨handsOut.queue, handsOut.copies, privateQueue_update live queue sound⟩
  · intro queue
    obtain ⟨bus, mail, copies⟩ := GlobalBus.update_of_queue_eq_nil queue hub.mail
    refine ⟨copies, ?_⟩
    show { hub with
      bus := (hub.bus.update hub.mail).bus
      mail := (hub.bus.update hub.mail).mail } = hub
    rw [bus, mail]

/-- Of four registrations for an event two are of one kind and one subscriber, and one has outlived
its subscriber: three copies are handed out. -/
theorem fans_out_as_hooked_of_outlived :
    let event : Event := { uid := ⟨7⟩ }
    let own : Subscription := .uid ⟨7⟩
    let moves : List (Move Nat) :=
      [.create "reader", .create "idle", .create "gone", .bind 0 own 9,
       .subscribe own ⟨0, "reader"⟩,
        .bind 0 .all 9, .subscribe .all ⟨2, "gone"⟩, .drop 2, .hook event]
    let hub := (new 0).run moves
    (hub.bus.update hub.mail).copies = some 3 ∧
      (hub.step .update).privateQueue 0 = [event, event, event] ∧
      (hub.step .update).privateQueue 1 = [] ∧ (hub.step .update).privateQueue 2 = [] := by
  intro event own moves hub
  obtain ⟨_, _, updates, _⟩ := fans_out_as_hooked 0 moves
  obtain ⟨_, copies, received⟩ := updates event [] (by decide +kernel) (by decide +kernel)
  refine ⟨copies.trans (by decide +kernel), ?_, ?_, ?_⟩
  · exact (received 0).trans (by decide +kernel)
  · exact (received 1).trans (by decide +kernel)
  · exact (received 2).trans (by decide +kernel)

end Hub

end EventTransport
