import EventTransport.Bus.GlobalBus

/-!
Contract: what one update of a global bus hands out.

Owns:
- `GlobalBus.registrations`, how often a subscriber is registered under a key;
- `GlobalBus.HandsOut`, the event at the front handed to everybody who is registered for it and
  lives, once for each registration, and `GlobalBus.handsOut_update`;
- that an update forgets no registration of a subscriber that lives.

Copies are counted as they are taken, and subscribers by their mailboxes; that both counts agree is
part of the statement.

Does not own: runs of a bus.
-/

namespace EventTransport

namespace GlobalBus

/-- How often a subscriber is registered under a key. -/
def registrations (bus : GlobalBus) (key : Subscription) (serial : Nat) : Nat :=
  (bus.registry.get key).countP fun id => id.serial = serial

/-- Of the registrations of a subscriber all count if it lives, and none otherwise. -/
theorem countP_living (bus : GlobalBus) (mail : Mailboxes) (key : Subscription) (serial : Nat) :
    ((bus.living mail key).countP fun id => id.serial = serial) =
      if mail.isOpen serial then bus.registrations key serial else 0 := by
  unfold living registrations
  rw [List.countP_filter]
  cases lives : mail.isOpen serial with
  | true =>
      apply List.countP_congr
      intro id _
      simp only [Bool.and_eq_true, decide_eq_true_eq, and_iff_left_iff_imp]
      rintro rfl
      exact lives
  | false =>
      simp only [Bool.false_eq_true, if_false, List.countP_eq_zero, Bool.and_eq_true,
        decide_eq_true_eq, not_and]
      rintro id _ rfl
      simp [lives]

/-- An event offered to subscribers in turn goes to those whose mailboxes are open, once for each
time they are in the list. -/
theorem foldl_offer (event : Event) (ids : List SubscriberId) (handout : Handout) :
    let receivers := ids.filter fun id => handout.mail.isOpen id.serial
    let after := ids.foldl (offer event) handout
    after.kept = handout.kept ++ receivers ∧ after.copies = handout.copies + receivers.length ∧
    (∀ serial, after.mail.isOpen serial = handout.mail.isOpen serial) ∧
    ∀ serial, after.mail.waiting serial = handout.mail.waiting serial ++
      List.replicate (receivers.countP fun id => id.serial = serial) event := by
  induction ids generalizing handout with
  | nil => simp
  | cons id ids inductionHypothesis =>
      intro receivers after
      by_cases lives : handout.mail.isOpen id.serial = true
      · obtain ⟨kept, copies, isOpen, waiting⟩ := inductionHypothesis (offer event handout id)
        simp only [offer, lives, if_true, Mailboxes.isOpen_push] at kept copies isOpen waiting
        have folded : after = ids.foldl (offer event)
            { kept := handout.kept ++ [id]
              mail := handout.mail.push event id.serial
              copies := handout.copies + 1 } := by
          simp [after, offer, lives]
        have received : receivers = id :: ids.filter fun id => handout.mail.isOpen id.serial :=
          List.filter_cons_of_pos lives
        rw [folded, received]
        refine ⟨by simp [kept], ?_, isOpen, fun serial => ?_⟩
        · rw [copies, List.length_cons]
          omega
        · rw [waiting serial, Mailboxes.waiting_push _ _ _ _ lives]
          by_cases here : id.serial = serial
          · rw [if_pos here.symm, List.countP_cons_of_pos (by simpa using here), here,
              List.replicate_succ, List.append_assoc]
            rfl
          · rw [if_neg (Ne.symm here), List.countP_cons_of_neg (by simpa using here)]
      · have folded : after = ids.foldl (offer event) handout := by simp [after, offer, lives]
        have received : receivers = ids.filter fun id => handout.mail.isOpen id.serial :=
          List.filter_cons_of_neg lives
        rw [folded, received]
        exact inductionHypothesis handout

/-- Everything that a fan-out under one key does. -/
structure FansOut (event : Event) (key : Subscription) (before after : FanOut) : Prop where
  queue : after.bus.queue = before.bus.queue
  shutDown : after.bus.shutDown = before.bus.shutDown
  registry : ∀ other, after.bus.registry.get other =
    if other = key then before.bus.living before.mail key else before.bus.registry.get other
  copies : after.copies = before.copies + before.bus.subscriberCount before.mail key
  isOpen : ∀ serial, after.mail.isOpen serial = before.mail.isOpen serial
  waiting : ∀ serial, after.mail.waiting serial = before.mail.waiting serial ++
    List.replicate (if before.mail.isOpen serial then before.bus.registrations key serial else 0)
      event

theorem fansOut (event : Event) (state : FanOut) (key : Subscription) :
    FansOut event key state (fanOut event state key) := by
  unfold fanOut
  split
  · rename_i held
    let handout := (state.bus.registry.get key).foldl (offer event)
      { mail := state.mail, copies := state.copies }
    obtain ⟨keptAll, copies, isOpen, waiting⟩ := foldl_offer event (state.bus.registry.get key)
      { mail := state.mail, copies := state.copies }
    have kept : handout.kept = state.bus.living state.mail key := keptAll
    exact
      { queue := rfl
        shutDown := rfl
        registry := fun other => by
          rw [← kept]
          exact Registry.get_put handout.kept held other
        copies := copies
        isOpen := isOpen
        waiting := fun serial => by
          rw [← countP_living]
          exact waiting serial }
  · rename_i absent
    have nobody := Registry.get_of_not_contains absent
    refine ⟨rfl, rfl, fun other => ?_, ?_, fun serial => rfl, fun serial => ?_⟩
    · by_cases here : other = key
      · simp [here, living, nobody]
      · rw [if_neg here]
    · simp [subscriberCount, living, nobody]
    · simp [registrations, nobody]

/-- Everything that the update of a bus does whose queue begins with an event. -/
structure HandsOut (bus : GlobalBus) (mail : Mailboxes) (event : Event) (rest : List Event)
    (updated : Updated) : Prop where
  queue : updated.bus.queue = rest
  shutDown : updated.bus.shutDown = false
  copies : updated.copies =
    some (bus.subscriberCount mail (.uid event.uid) + bus.subscriberCount mail .all)
  isOpen : ∀ serial, updated.mail.isOpen serial = mail.isOpen serial
  waiting : ∀ serial, updated.mail.waiting serial = mail.waiting serial ++
    List.replicate
      (if mail.isOpen serial then
        bus.registrations (.uid event.uid) serial + bus.registrations .all serial else 0) event

theorem handsOut_update {bus : GlobalBus} {event : Event} {rest : List Event}
    (live : bus.shutDown = false) (queue : bus.queue = event :: rest) (mail : Mailboxes) :
    HandsOut bus mail event rest (bus.update mail) := by
  let start : FanOut := { bus := { bus with queue := rest }, mail := mail, copies := 0 }
  have first := fansOut event start (.uid event.uid)
  have second := fansOut event (fanOut event start (.uid event.uid)) .all
  have updated : bus.update mail =
      let after := fanOut event (fanOut event start (.uid event.uid)) .all
      ⟨after.bus, after.mail, some after.copies, []⟩ := by
    unfold update
    rw [if_neg (by simp [live]), queue]
    rfl
  -- The first fan-out leaves the registrations for every event alone, and all mailboxes open.
  have sameAll : (fanOut event start (.uid event.uid)).bus.registry.get .all =
      bus.registry.get .all := by
    rw [first.registry, if_neg (fun impossible => nomatch impossible)]
  have sameOpen : (fanOut event start (.uid event.uid)).mail.isOpen = mail.isOpen :=
    funext first.isOpen
  have living : (fanOut event start (.uid event.uid)).bus.living
      (fanOut event start (.uid event.uid)).mail .all = bus.living mail .all := by
    unfold GlobalBus.living
    rw [sameAll, sameOpen]
  rw [updated]
  refine ⟨?_, ?_, ?_, fun serial => ?_, fun serial => ?_⟩
  · exact second.queue.trans first.queue
  · exact (second.shutDown.trans first.shutDown).trans live
  · have counted : (fanOut event (fanOut event start (.uid event.uid)) .all).copies =
        0 + bus.subscriberCount mail (.uid event.uid) + bus.subscriberCount mail .all := by
      rw [second.copies, first.copies]
      unfold subscriberCount
      rw [living]
      rfl
    rw [Nat.zero_add] at counted
    exact congrArg some counted
  · exact (second.isOpen serial).trans (first.isOpen serial)
  · have arrived := second.waiting serial
    rw [first.waiting serial, first.isOpen serial, List.append_assoc,
      List.replicate_append_replicate] at arrived
    unfold registrations at arrived ⊢
    rw [sameAll] at arrived
    refine arrived.trans ?_
    cases mail.isOpen serial <;> rfl

/-- The registrations to which an event is routed are those of the living afterwards, and no others
are touched. -/
theorem registry_update {bus : GlobalBus} {event : Event} {rest : List Event}
    (live : bus.shutDown = false) (queue : bus.queue = event :: rest) (mail : Mailboxes)
    (key : Subscription) :
    (bus.update mail).bus.registry.get key =
      if key ∈ Subscription.route event.uid then bus.living mail key else bus.registry.get key := by
  let start : FanOut := { bus := { bus with queue := rest }, mail := mail, copies := 0 }
  have first := fansOut event start (.uid event.uid)
  have second := fansOut event (fanOut event start (.uid event.uid)) .all
  have updated : (bus.update mail).bus =
      (fanOut event (fanOut event start (.uid event.uid)) .all).bus := by
    unfold update
    rw [if_neg (by simp [live]), queue]
    rfl
  rw [updated, second.registry]
  by_cases everything : key = .all
  · have sameAll : (fanOut event start (.uid event.uid)).bus.registry.get .all =
        bus.registry.get .all := by
      rw [first.registry, if_neg (fun impossible => nomatch impossible)]
    have sameOpen : (fanOut event start (.uid event.uid)).mail.isOpen = mail.isOpen :=
      funext first.isOpen
    rw [if_pos everything, everything, if_pos (by simp [Subscription.route])]
    unfold living
    rw [sameAll, sameOpen]
  · rw [if_neg everything, first.registry]
    by_cases own : key = .uid event.uid
    · rw [if_pos own, own, if_pos (by simp [Subscription.route])]
      rfl
    · rw [if_neg own, if_neg (by simp [Subscription.route, own, everything])]

/-- Without an event an update changes nothing. -/
theorem update_of_queue_eq_nil {bus : GlobalBus} (queue : bus.queue = []) (mail : Mailboxes) :
    (bus.update mail).bus = bus ∧ (bus.update mail).mail = mail ∧
      (bus.update mail).copies = none := by
  unfold update
  split
  · exact ⟨rfl, rfl, rfl⟩
  · rw [queue]
    exact ⟨rfl, rfl, rfl⟩

/-- An update keeps all registrations of a subscriber that lives, and adds none of anybody else. -/
theorem registrations_update (bus : GlobalBus) (mail : Mailboxes) (key : Subscription)
    (serial : Nat) :
    (mail.isOpen serial = true →
      (bus.update mail).bus.registrations key serial = bus.registrations key serial) ∧
    (bus.update mail).bus.registrations key serial ≤ bus.registrations key serial := by
  have unchanged (same : (bus.update mail).bus = bus) :
      (mail.isOpen serial = true →
        (bus.update mail).bus.registrations key serial = bus.registrations key serial) ∧
      (bus.update mail).bus.registrations key serial ≤ bus.registrations key serial := by
    rw [same]
    exact ⟨fun _ => rfl, Nat.le_refl _⟩
  cases shutDown : bus.shutDown with
  | true =>
      refine unchanged ?_
      unfold update
      rw [if_pos shutDown]
  | false =>
      cases queue : bus.queue with
      | nil => exact unchanged (update_of_queue_eq_nil queue mail).1
      | cons event rest =>
          have kept : (bus.update mail).bus.registrations key serial =
              if key ∈ Subscription.route event.uid then
                if mail.isOpen serial then bus.registrations key serial else 0
              else bus.registrations key serial := by
            rw [← countP_living]
            unfold registrations
            rw [registry_update shutDown queue mail key]
            split <;> rfl
          rw [kept]
          constructor
          · intro lives
            simp [lives]
          · split
            · split
              · exact Nat.le_refl _
              · exact Nat.zero_le _
            · exact Nat.le_refl _

end GlobalBus

end EventTransport
