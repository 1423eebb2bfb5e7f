import EventTransport.Proofs.Bus.Watching

/-!
Contract: what subscribers of a global bus leave alone.

Owns:
- `Hub.Move.isPublic`, what is done to the bus itself;
- that everything else leaves the registrations, the mailbox and the queue of others as they are;
- `Hub.Fresh`, by which nobody is registered before being created.

All subscribers share one registry, and their registrations stand in the same lists. Serials tell
whose is whose.

Does not own: what is done to the bus itself.
-/

namespace EventTransport

namespace Hub

variable {H : Type}

/-- Whether a move is made on the bus itself. -/
def Move.isPublic : Move H → Bool
  | hook _ => true
  | update => true
  | clear => true
  | shutdown => true
  | _ => false

theorem registrations_rebind {hub : Hub H} {serial other : Nat} (sound : hub.Sound)
    (differs : other ≠ serial) {change : Subscriber H → GlobalBus → Subscriber.Rebound H}
    (tidy : ∀ subscriber, Subscriber.Rebound.Tidy subscriber hub.bus (change subscriber hub.bus))
    (key : Subscription) :
    (hub.rebind other change).bus.registrations key serial = hub.bus.registrations key serial := by
  cases lives : hub.members other with
  | none => rw [rebind_of_none lives]
  | some member =>
      rw [rebind_of_some lives]
      exact (tidy member).others key serial ((sound.named other member lives).symm ▸ differs)

/-- Registrations are left alone by what others do, but for what is done to the bus itself. -/
theorem registrations_of_apart {hub : Hub H} {serial : Nat} {move : Move H} (sound : hub.Sound)
    (kept : hub.Kept) (apart : move.isOf serial = false) (byTable : move.registers serial = false)
    (aside : move.isPublic = false) (key : Subscription) :
    (hub.step move).bus.registrations key serial = hub.bus.registrations key serial := by
  cases live : hub.bus.shutDown with
  | true => rw [spent_step (kept.ended live) move, kept.ended live]
  | false =>
      have served := hub.still_or_served move
      cases move with
      | create name => rfl
      | subscribe other id =>
          have differs : ¬id.serial = serial := of_decide_eq_false byTable
          show (hub.bus.subscribe other id).1.registrations key serial = _
          rw [GlobalBus.registrations_subscribe live, if_neg (fun same => differs same.2)]
          rfl
      | unsubscribe other id =>
          have differs : ¬id.serial = serial := of_decide_eq_false byTable
          show (hub.bus.unsubscribe other id).1.registrations key serial = _
          rw [GlobalBus.registrations_unsubscribe live, if_neg (fun same => differs same.2)]
          rfl
      | bind other own handler =>
          exact registrations_rebind sound (of_decide_eq_false apart)
            (fun subscriber => subscriber.tidy_bind live own handler) key
      | unbind other own =>
          exact registrations_rebind sound (of_decide_eq_false apart)
            (fun subscriber => subscriber.tidy_unbind live own) key
      | unbindAll other =>
          exact registrations_rebind sound (of_decide_eq_false apart)
            (fun subscriber => subscriber.tidy_unbindEach live _) key
      | drop other =>
          have unbound (subscriber : Subscriber H) :
              Subscriber.Rebound.Tidy subscriber hub.bus (subscriber.unbindAll hub.bus) :=
            subscriber.tidy_unbindEach live _
          exact registrations_rebind sound (of_decide_eq_false apart) unbound key
      | collect | settle =>
          rcases served rfl with still | ⟨other, member, served, mail, _, _, _, seated⟩
          · rw [still]
          · rw [seated]
            rfl
      | _ => cases aside

/-- What is done to the bus itself adds no registration. -/
theorem registrations_of_isPublic {hub : Hub H} {move : Move H} (kept : hub.Kept)
    (isPublic : move.isPublic = true) (key : Subscription) (serial : Nat) :
    (hub.step move).bus.registrations key serial ≤ hub.bus.registrations key serial := by
  cases live : hub.bus.shutDown with
  | true => exact Nat.le_of_eq (by rw [spent_step (kept.ended live) move, kept.ended live])
  | false =>
      cases move with
      | hook | clear =>
          simp [step, GlobalBus.hook, GlobalBus.clear, GlobalBus.guarded, live,
            GlobalBus.registrations]
      | update => exact (hub.bus.registrations_update hub.mail key serial).2
      | shutdown =>
          rw [show (hub.step .shutdown).bus = .spent from GlobalBus.shutdown_eq_spent live]
          exact Nat.zero_le _
      | _ => cases isPublic

theorem bus_step_of_absent {hub : Hub H} {serial : Nat} {move : Move H}
    (absent : hub.members serial = none) (own : move.isOf serial = true) :
    (hub.step move).bus = hub.bus := by
  cases move with
  | bind other | unbind other | unbindAll other =>
      obtain rfl : other = serial := of_decide_eq_true own
      simp only [step, rebind_of_none absent]
  | drop other =>
      obtain rfl : other = serial := of_decide_eq_true own
      simp only [step, rebind_of_none absent]
      rfl
  | collect other | settle other =>
      obtain rfl : other = serial := of_decide_eq_true own
      simp [step, absent]
  | _ => cases own

/-- Nobody is registered before being created. -/
def Fresh (hub : Hub H) : Prop :=
  ∀ serial, hub.next ≤ serial → ∀ key, hub.bus.registrations key serial = 0

theorem Fresh.step {hub : Hub H} {move : Move H} (fresh : hub.Fresh) (sound : hub.Sound)
    (kept : hub.Kept) (known : move.known hub.next = true) : (hub.step move).Fresh := by
  intro serial later key
  have unborn : hub.next ≤ serial := Nat.le_trans (hub.next_le_step move) later
  have before := fresh serial unborn key
  cases own : move.isOf serial with
  | true => rw [bus_step_of_absent (sound.unborn serial unborn) own, before]
  | false =>
      cases isPublic : move.isPublic with
      | true =>
          exact Nat.le_zero.mp (before ▸ registrations_of_isPublic kept isPublic key serial)
      | false =>
          have byTable : move.registers serial = false := by
            cases move with
            | subscribe _ id | unsubscribe _ id =>
                have created : id.serial < hub.next := of_decide_eq_true known
                exact decide_eq_false (by omega)
            | _ => rfl
          rw [registrations_of_apart sound kept own byTable isPublic, before]

/-! ### What others do -/

theorem bus_of_aside (hub : Hub H) {move : Move H} (aside : move.isPublic = false) :
    (hub.step move).bus.queue = hub.bus.queue ∧
      (hub.step move).bus.shutDown = hub.bus.shutDown := by
  have rebound := hub.undisturbed_of_rebinds move
  have served := hub.still_or_served move
  cases move with
  | create name => exact ⟨rfl, rfl⟩
  | subscribe key id => exact ⟨hub.bus.queue_subscribe key id, hub.bus.shutDown_subscribe key id⟩
  | unsubscribe key id =>
      exact ⟨hub.bus.queue_unsubscribe key id, hub.bus.shutDown_unsubscribe key id⟩
  | bind | unbind | unbindAll => exact ⟨(rebound rfl).queue, (rebound rfl).shutDown⟩
  | drop other =>
      have unbound := hub.undisturbed_rebind other Subscriber.calm_unbindAll
      exact ⟨unbound.queue, unbound.shutDown⟩
  | collect | settle =>
      rcases served rfl with still | ⟨other, member, served, mail, _, _, _, seated⟩
      · rw [still]
        exact ⟨rfl, rfl⟩
      · rw [seated]
        exact ⟨rfl, rfl⟩
  | _ => cases aside

/-- Only an update hands anything out. -/
theorem waiting_of_aside {hub : Hub H} {serial : Nat} {move : Move H} (sound : hub.Sound)
    (known : serial < hub.next) (apart : move.isOf serial = false)
    (aside : move.isPublic = false) :
    (hub.step move).mail.waiting serial = hub.mail.waiting serial := by
  have accounts := Accounts.of_sound sound move
  have members := (members_step_of_apart apart known).1
  cases lives : hub.members serial with
  | none =>
      rw [sound.waiting_of_none lives]
      exact accounts.sound.waiting_of_none (members.trans lives)
  | some member =>
      obtain ⟨more, waiting⟩ := exists_waiting_of_apart sound known apart
      have account := accounts.privately serial
      have nothing : (Made.mk hub move).received serial = [] := by
        unfold Made.received Made.departed
        cases move with
        | hook | update | clear | shutdown => cases aside
        | _ => rfl
      unfold Balanced at account
      rw [nothing, List.append_nil] at account
      have long := congrArg List.length account
      change (hub.privateQueue serial).length =
        (_ ++ (hub.step move).privateQueue serial).length at long
      rw [privateQueue_of_some lives, privateQueue_of_some (members.trans lives), waiting,
        List.length_append, List.length_append, List.length_append, List.length_append] at long
      have none : more = [] := List.length_eq_zero_iff.mp (by omega)
      rw [waiting, none, List.append_nil]

end Hub

end EventTransport
