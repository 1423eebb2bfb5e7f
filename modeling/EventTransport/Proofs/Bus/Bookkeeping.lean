import EventTransport.Proofs.Bus.Bystanders
import Mathlib.Data.List.Induction

/-!
Contract: registrations on a global bus, counted over every run.

Owns:
- `Registry.Tight`, by which a key is held once, and never without a value;
- `RegistryCall` and `Hub.calls`, the calls of a bus by which a move registers and releases;
- `Hub.asked`, all calls of a run, each with the bus that it was made of;
- `GlobalBus.TakesBack`, what a release does to the registrations of everybody;
- that a living subscriber has as many registrations as it was given and did not give back.

A release that finds nothing leaves a record, and by that record it is told apart from one that
finds a registration. An update drops registrations without being asked to, but only of those who
live no more, and a serial is not given out again.

Does not own: what is handed out for a registration.
-/

namespace EventTransport

/-! ### Keys and their values -/

namespace Registry

variable {α : Type} {registry : Registry α}

/-- Every key is held once, and with a value. -/
structure Tight (registry : Registry α) : Prop where
  distinct : registry.keys.Nodup
  filled : ∀ entry ∈ registry.entries, entry.2 ≠ []

theorem filled_addTo (key : Subscription) (value : α) {entries : List (Subscription × List α)}
    (filled : ∀ entry ∈ entries, entry.2 ≠ []) :
    ∀ entry ∈ addTo key value entries, entry.2 ≠ [] := by
  induction entries with
  | nil =>
      intro entry member
      rw [List.mem_singleton.mp member]
      exact List.cons_ne_nil value []
  | cons head rest inductionHypothesis =>
      obtain ⟨headFilled, restFilled⟩ := List.forall_mem_cons.mp filled
      unfold addTo
      split
      · refine List.forall_mem_cons.mpr ⟨?_, restFilled⟩
        exact List.append_ne_nil_of_right_ne_nil head.2 (List.cons_ne_nil value [])
      · exact List.forall_mem_cons.mpr ⟨headFilled, inductionHypothesis restFilled⟩

namespace Tight

theorem empty : (empty : Registry α).Tight := ⟨List.nodup_nil, fun _ none => nomatch none⟩

theorem add (tight : registry.Tight) (key : Subscription) (value : α) :
    (registry.add key value).Tight where
  distinct := nodup_keys_add tight.distinct key value
  filled := filled_addTo key value tight.filled

theorem erase (tight : registry.Tight) (key : Subscription) : (registry.erase key).Tight where
  distinct := by
    rw [keys_erase]
    exact tight.distinct.filter _
  filled := fun entry member => tight.filled entry (List.mem_filter.mp member).1

theorem put (tight : registry.Tight) (key : Subscription) (values : List α) :
    (registry.put key values).Tight := by
  unfold Registry.put
  split
  · exact tight.erase key
  · rename_i some
    have keys : (registry.entries.map fun entry =>
        if entry.1 = key then (key, values) else entry).map Prod.fst = registry.keys := by
      unfold Registry.keys
      rw [List.map_map]
      refine List.map_congr_left fun entry _ => ?_
      show (if entry.1 = key then (key, values) else entry).1 = entry.1
      split
      · rename_i here
        exact here.symm
      · rfl
    refine ⟨(congrArg List.Nodup keys).mpr tight.distinct, fun entry member => ?_⟩
    obtain ⟨earlier, held, rfl⟩ := List.mem_map.mp member
    split
    · simpa using some
    · exact tight.filled earlier held

end Tight

end Registry

/-! ### Calls -/

/-- A call of a bus that is about one registration. -/
inductive RegistryCall where
  | subscribe (key : Subscription) (id : SubscriberId)
  | unsubscribe (key : Subscription) (id : SubscriberId)

/-- A call, with the bus that it is made of. -/
structure Asked where
  bus : GlobalBus
  call : RegistryCall

namespace Asked

/-- Whether a subscriber is registered under a key by this. -/
def enters (key : Subscription) (serial : Nat) (asked : Asked) : Bool :=
  match asked.call with
  | .subscribe other id => other = key && id.serial = serial
  | .unsubscribe _ _ => false

/-- Whether a registration of a subscriber under a key is found and released by this. -/
def releases (key : Subscription) (serial : Nat) (asked : Asked) : Bool :=
  match asked.call with
  | .subscribe _ _ => false
  | .unsubscribe other id =>
    other = key && id.serial = serial && (asked.bus.unsubscribe other id).2.isEmpty

end Asked

namespace GlobalBus

def answer (bus : GlobalBus) : RegistryCall → GlobalBus
  | .subscribe key id => (bus.subscribe key id).1
  | .unsubscribe key id => (bus.unsubscribe key id).1

/-- A bus after calls made in turn. -/
def answerEach (bus : GlobalBus) (calls : List RegistryCall) : GlobalBus := calls.foldl answer bus

/-- Calls made in turn, each with the bus that it meets. -/
def asked (bus : GlobalBus) : List RegistryCall → List Asked
  | [] => []
  | call :: calls => ⟨bus, call⟩ :: (bus.answer call).asked calls

theorem shutDown_answer (bus : GlobalBus) (call : RegistryCall) :
    (bus.answer call).shutDown = bus.shutDown := by
  cases call with
  | subscribe key id => exact bus.shutDown_subscribe key id
  | unsubscribe key id => exact bus.shutDown_unsubscribe key id

/-- A release leaves no record exactly if there is something to release. -/
theorem warnings_unsubscribe_eq_nil_iff {bus : GlobalBus} (live : bus.shutDown = false)
    (key : Subscription) (id : SubscriberId) :
    (bus.unsubscribe key id).2 = [] ↔ bus.registrations key id.serial ≠ 0 := by
  constructor
  · rw [← bus.any_same_iff key id]
    unfold unsubscribe guarded
    rw [if_neg (by simp [live])]
    intro silent
    by_contra nobody
    simp [nobody] at silent
  · exact warnings_unsubscribe live

theorem registrations_answer {bus : GlobalBus} (live : bus.shutDown = false) (call : RegistryCall)
    (key : Subscription) (serial : Nat) :
    (bus.answer call).registrations key serial +
        (if Asked.releases key serial ⟨bus, call⟩ then 1 else 0) =
      bus.registrations key serial + if Asked.enters key serial ⟨bus, call⟩ then 1 else 0 := by
  cases call with
  | subscribe other id =>
      show (bus.subscribe other id).1.registrations key serial + 0 = _
      rw [registrations_subscribe live]
      by_cases here : key = other ∧ id.serial = serial
      · simp [Asked.enters, here]
      · have apart : ¬(other = key ∧ id.serial = serial) := fun same => here ⟨same.1.symm, same.2⟩
        simp [Asked.enters, here, apart]
  | unsubscribe other id =>
      show (bus.unsubscribe other id).1.registrations key serial + _ =
        bus.registrations key serial + 0
      rw [registrations_unsubscribe live]
      by_cases here : key = other ∧ id.serial = serial
      · obtain ⟨rfl, rfl⟩ := here
        have silent := warnings_unsubscribe_eq_nil_iff live key id
        by_cases registered : bus.registrations key id.serial = 0
        · have warned : (bus.unsubscribe key id).2 ≠ [] := fun none => silent.mp none registered
          simp [Asked.releases, registered, warned]
        · simp only [Asked.releases, silent.mpr registered, decide_true, Bool.and_self, if_true,
            List.isEmpty_nil, and_self]
          omega
      · have apart : ¬(other = key ∧ id.serial = serial) := fun same => here ⟨same.1.symm, same.2⟩
        have untouched : Asked.releases key serial ⟨bus, .unsubscribe other id⟩ = false := by
          simp only [Asked.releases, Bool.and_eq_false_iff, decide_eq_false_iff_not]
          exact .inl (Decidable.not_and_iff_or_not.mp apart)
        rw [untouched, if_neg here]
        rfl

/-- Registrations there were and registrations added are registrations there are and registrations
given back. -/
theorem registrations_answerEach {bus : GlobalBus} (live : bus.shutDown = false)
    (calls : List RegistryCall) (key : Subscription) (serial : Nat) :
    (bus.answerEach calls).registrations key serial +
        (bus.asked calls).countP (Asked.releases key serial) =
      bus.registrations key serial + (bus.asked calls).countP (Asked.enters key serial) := by
  induction calls generalizing bus with
  | nil => rfl
  | cons call calls inductionHypothesis =>
      have now := registrations_answer live call key serial
      have later := inductionHypothesis ((bus.shutDown_answer call).trans live)
      show ((bus.answer call).answerEach calls).registrations key serial +
        List.countP _ (⟨bus, call⟩ :: (bus.answer call).asked calls) = _ +
        List.countP _ (⟨bus, call⟩ :: (bus.answer call).asked calls)
      rw [List.countP_cons, List.countP_cons]
      omega

/-- What a release does: the first registration of the subscriber under the key goes, and all others
stay as they stand, or there is none and that is recorded. -/
inductive TakesBack (bus : GlobalBus) (key : Subscription) (id : SubscriberId) :
    GlobalBus × List Warning → Prop where
  | first {before behind : List SubscriberId} {own : SubscriberId} {after : GlobalBus}
      (registered : bus.registry.get key = before ++ own :: behind)
      (isOwn : own.serial = id.serial) (others : ∀ other ∈ before, other.serial ≠ id.serial)
      (left : after.registry.get key = before ++ behind)
      (elsewhere : ∀ other, other ≠ key → after.registry.get other = bus.registry.get other)
      (queue : after.queue = bus.queue) : TakesBack bus key id (after, [])
  | nothing (nobody : ∀ other ∈ bus.registry.get key, other.serial ≠ id.serial) :
      TakesBack bus key id (bus, [.neverSubscribed id key])

theorem takesBack_unsubscribe {bus : GlobalBus} (live : bus.shutDown = false) (key : Subscription)
    (id : SubscriberId) : TakesBack bus key id (bus.unsubscribe key id) := by
  unfold unsubscribe guarded
  rw [if_neg (by simp [live])]
  by_cases registered : (bus.registry.get key).any id.same = true
  · simp only [registered, if_true]
    obtain ⟨other, member, same⟩ := List.any_eq_true.mp registered
    have held : bus.registry.contains key = true :=
      Registry.contains_of_get (List.ne_nil_of_mem member)
    obtain ⟨own, before, behind, none, isOwn, split, erased⟩ := List.exists_of_eraseP member same
    refine .first split (of_decide_eq_true isOwn).symm (fun earlier front alike => ?_) ?_ ?_ rfl
    · exact none earlier front (decide_eq_true alike.symm)
    · rw [Registry.get_put _ held, if_pos rfl, erased]
    · intro elsewhere apart
      rw [Registry.get_put _ held, if_neg apart]
  · simp only [registered]
    refine .nothing fun other member alike => registered ?_
    exact List.any_eq_true.mpr ⟨other, member, decide_eq_true alike.symm⟩

/-! ### Calls and updates keep the registry tight -/

theorem tight_answer {bus : GlobalBus} (tight : bus.registry.Tight) (call : RegistryCall) :
    (bus.answer call).registry.Tight := by
  cases call with
  | subscribe key id =>
      show (bus.subscribe key id).1.registry.Tight
      unfold subscribe guarded
      split
      · exact tight
      · exact tight.add key id
  | unsubscribe key id =>
      show (bus.unsubscribe key id).1.registry.Tight
      unfold unsubscribe guarded
      split
      · exact tight
      · dsimp only
        split
        · exact tight.put key _
        · exact tight

theorem tight_answerEach {bus : GlobalBus} (tight : bus.registry.Tight)
    (calls : List RegistryCall) : (bus.answerEach calls).registry.Tight := by
  induction calls generalizing bus with
  | nil => exact tight
  | cons call calls inductionHypothesis => exact inductionHypothesis (tight_answer tight call)

theorem tight_fanOut (event : Event) {state : FanOut} (tight : state.bus.registry.Tight)
    (key : Subscription) : (fanOut event state key).bus.registry.Tight := by
  unfold fanOut
  split
  · exact tight.put key _
  · exact tight

theorem tight_update {bus : GlobalBus} (tight : bus.registry.Tight) (mail : Mailboxes) :
    (bus.update mail).bus.registry.Tight := by
  unfold update
  split
  · exact tight
  · split
    · exact tight
    · exact tight_fanOut _ (tight_fanOut _ tight _) _

end GlobalBus

namespace Subscriber

variable {H : Type}

/-- The calls by which a subscriber is released from everything that it has bound. -/
def releases (subscriber : Subscriber H) (keys : List Subscription) : List RegistryCall :=
  keys.map fun key => .unsubscribe key subscriber.id

/-- Keys that have handlers, each of them unbound once, are released one after the other. -/
theorem bus_unbindEach {subscriber : Subscriber H} {keys : List Subscription} (bus : GlobalBus)
    (distinct : keys.Nodup) (bound : ∀ key ∈ keys, subscriber.isBound key = true) :
    (subscriber.unbindEach bus keys).bus = bus.answerEach (subscriber.releases keys) := by
  induction keys generalizing subscriber bus with
  | nil => rfl
  | cons key keys inductionHypothesis =>
      obtain ⟨once, distinctLater⟩ := List.nodup_cons.mp distinct
      have boundLater (other : Subscription) (member : other ∈ keys) :
          (subscriber.unbind bus key).subscriber.isBound other = true := by
        have apart : other ≠ key := fun same => once (same ▸ member)
        rw [isBound_unbind, bound other (List.mem_cons_of_mem key member)]
        simp [apart]
      refine (inductionHypothesis (subscriber.unbind bus key).bus distinctLater boundLater).trans ?_
      unfold releases
      rw [(subscriber.calm_unbind bus key).id, bus_unbind, if_pos (bound key List.mem_cons_self)]
      rfl

theorem bus_unbindAll {subscriber : Subscriber H} (distinct : subscriber.table.keys.Nodup)
    (bus : GlobalBus) :
    (subscriber.unbindAll bus).bus = bus.answerEach (subscriber.releases subscriber.table.keys) :=
  bus_unbindEach bus distinct fun key held => (subscriber.table.contains_iff_mem_keys key).mpr held

end Subscriber

namespace Hub

variable {H : Type}

/-- The calls that a move makes of the bus to register and to release. The first handler of a key
registers its subscriber, and the handlers of a key are unbound with its registration. -/
def calls (hub : Hub H) : Move H → List RegistryCall
  | .subscribe key id => [.subscribe key id]
  | .unsubscribe key id => [.unsubscribe key id]
  | .bind serial key _ =>
    (hub.members serial).elim [] fun member =>
      if member.isBound key then [] else [.subscribe key member.id]
  | .unbind serial key =>
    (hub.members serial).elim [] fun member =>
      if member.isBound key then member.releases [key] else []
  | .unbindAll serial =>
    (hub.members serial).elim [] fun member => member.releases member.table.keys
  | .drop serial =>
    (hub.members serial).elim [] fun member => member.releases member.table.keys
  | _ => []

/-- All calls of a run that are about registrations. -/
def asked (hub : Hub H) (moves : List (Move H)) : List Asked :=
  (hub.past moves).flatMap fun made => made.before.bus.asked (made.before.calls made.move)

theorem asked_snoc (hub : Hub H) (moves : List (Move H)) (move : Move H) :
    hub.asked (moves ++ [move]) =
      hub.asked moves ++ (hub.run moves).bus.asked ((hub.run moves).calls move) := by
  unfold asked
  rw [past_append, List.flatMap_append]
  exact congrArg _ (List.append_nil _)

theorem bus_rebind_eq {hub : Hub H} {serial : Nat}
    {change : Subscriber H → GlobalBus → Subscriber.Rebound H}
    {made : Subscriber H → List RegistryCall}
    (answers : ∀ member, hub.members serial = some member →
      (change member hub.bus).bus = hub.bus.answerEach (made member)) :
    (hub.rebind serial change).bus = hub.bus.answerEach ((hub.members serial).elim [] made) := by
  cases lives : hub.members serial with
  | none =>
      rw [rebind_of_none lives]
      rfl
  | some member =>
      rw [rebind_of_some lives]
      exact answers member lives

/-- A move that is not made on the bus itself changes it by those calls and by nothing else. -/
theorem bus_step_eq {hub : Hub H} {move : Move H} (kept : hub.Kept)
    (aside : move.isPublic = false) :
    (hub.step move).bus = hub.bus.answerEach (hub.calls move) := by
  have served := hub.still_or_served move
  have unbound (serial : Nat) :=
    bus_rebind_eq fun (member : Subscriber H) (lives : hub.members serial = some member) =>
      member.bus_unbindAll (kept.distinct serial member lives) hub.bus
  cases move with
  | create name => rfl
  | subscribe key id => rfl
  | unsubscribe key id => rfl
  | bind serial key handler =>
      refine bus_rebind_eq fun member _ => ?_
      rw [Subscriber.bus_bind]
      split <;> rfl
  | unbind serial key =>
      refine bus_rebind_eq fun member _ => ?_
      rw [Subscriber.bus_unbind]
      split <;> rfl
  | unbindAll serial => exact unbound serial
  | drop serial => exact unbound serial
  | collect | settle =>
      rcases served rfl with still | ⟨serial, member, served, mail, _, _, _, seated⟩
      · rw [still]
        rfl
      · rw [seated]
        rfl
  | _ => cases aside

theorem calls_of_isPublic (hub : Hub H) {move : Move H} (isPublic : move.isPublic = true) :
    hub.calls move = [] := by
  cases move with
  | hook | update | clear | shutdown => rfl
  | _ => cases isPublic

/-- No key is ever held without a registration. -/
theorem tight_step {hub : Hub H} (kept : hub.Kept) (tight : hub.bus.registry.Tight)
    (move : Move H) : (hub.step move).bus.registry.Tight := by
  cases isPublic : move.isPublic with
  | false =>
      rw [bus_step_eq kept isPublic]
      exact GlobalBus.tight_answerEach tight _
  | true =>
      cases move with
      | update => exact GlobalBus.tight_update tight hub.mail
      | hook | clear | shutdown =>
          simp only [step, GlobalBus.hook, GlobalBus.clear, GlobalBus.shutdown, GlobalBus.guarded]
          split <;> first | exact tight | exact .empty
      | _ => cases isPublic

/-! ### Accounts -/

/-- The registrations of whoever lives, or is not there yet, are those that were added and not given
back. -/
def Booked (hub : Hub H) (asked : List Asked) : Prop :=
  ∀ serial, (hub.members serial).isSome = true ∨ hub.next ≤ serial → ∀ key,
    hub.bus.registrations key serial + asked.countP (Asked.releases key serial) =
      asked.countP (Asked.enters key serial)

/-- Who lives has lived before, or has not been there yet. -/
theorem isSome_or_unborn_of_step {hub : Hub H} {move : Move H} {serial : Nat}
    (now : ((hub.step move).members serial).isSome = true ∨ (hub.step move).next ≤ serial) :
    (hub.members serial).isSome = true ∨ hub.next ≤ serial := by
  rcases now with lives | unborn
  · cases lived : hub.members serial with
    | some member => exact .inl rfl
    | none =>
        obtain ⟨member, isMember⟩ := Option.isSome_iff_exists.mp lives
        obtain ⟨isNext, _, _⟩ := born move lived isMember
        exact .inr (Nat.le_of_eq isNext.symm)
  · exact .inr (Nat.le_trans (hub.next_le_step move) unborn)

/-- What is done to the bus itself leaves the registrations of the living alone, and whoever is not
there yet has none. -/
theorem registrations_of_isPublic_of_live {hub : Hub H} {move : Move H} {serial : Nat}
    (sound : hub.Sound) (kept : hub.Kept) (fresh : hub.Fresh) (isPublic : move.isPublic = true)
    (live : (hub.step move).bus.shutDown = false)
    (there : (hub.members serial).isSome = true ∨ hub.next ≤ serial) (key : Subscription) :
    (hub.step move).bus.registrations key serial = hub.bus.registrations key serial := by
  have liveBefore := live_of_live_step live
  rcases there with lives | unborn
  · cases move with
    | update =>
        have isOpen : hub.mail.isOpen serial = true := (sound.opened serial).trans lives
        exact (hub.bus.registrations_update hub.mail key serial).1 isOpen
    | hook | clear =>
        simp [step, GlobalBus.hook, GlobalBus.clear, GlobalBus.guarded, liveBefore,
          GlobalBus.registrations]
    | shutdown =>
        rw [spent_shutdown kept] at live
        cases live
    | _ => cases isPublic
  · have none := fresh serial unborn key
    have fewer := registrations_of_isPublic kept isPublic key serial
    omega

theorem Booked.step {hub : Hub H} {asked : List Asked} {move : Move H} (booked : hub.Booked asked)
    (sound : hub.Sound) (kept : hub.Kept) (fresh : hub.Fresh)
    (live : (hub.step move).bus.shutDown = false) :
    (hub.step move).Booked (asked ++ hub.bus.asked (hub.calls move)) := by
  intro serial now key
  have there := isSome_or_unborn_of_step now
  have before := booked serial there key
  rw [List.countP_append, List.countP_append]
  cases isPublic : move.isPublic with
  | true =>
      rw [registrations_of_isPublic_of_live sound kept fresh isPublic live there,
        hub.calls_of_isPublic isPublic]
      exact before
  | false =>
      have calls := GlobalBus.registrations_answerEach (live_of_live_step live) (hub.calls move)
        key serial
      rw [← bus_step_eq kept isPublic] at calls
      omega

/-- What holds of registrations after a run in which nobody is registered before being created. -/
theorem booked_run (first : Nat) (moves : List (Move H))
    (known : ∀ made ∈ (new first : Hub H).past moves, made.move.known made.before.next = true)
    (live : ((new first : Hub H).run moves).bus.shutDown = false) :
    ((new first : Hub H).run moves).bus.registry.Tight ∧ ((new first : Hub H).run moves).Fresh ∧
      ((new first : Hub H).run moves).Booked ((new first : Hub H).asked moves) := by
  induction moves using List.reverseRecOn with
  | nil => exact ⟨.empty, fun _ _ _ => rfl, fun _ _ _ => rfl⟩
  | append_singleton moves move inductionHypothesis =>
      have sound : ((new first : Hub H).run moves).Sound := sound_run (.new first) moves
      have kept : ((new first : Hub H).run moves).Kept := .run (.new first) moves
      rw [past_append] at known
      rw [run_append] at live ⊢
      obtain ⟨tight, fresh, booked⟩ := inductionHypothesis
        (fun made earlier => known made (List.mem_append_left _ earlier)) (live_of_live_step live)
      have knownNow : move.known ((new first : Hub H).run moves).next = true :=
        known ⟨_, move⟩ (List.mem_append_right _ List.mem_cons_self)
      rw [asked_snoc]
      exact ⟨tight_step kept tight move, fresh.step sound kept knownNow,
        booked.step sound kept fresh live⟩

/-- The registrations under a key that are of living subscribers. -/
def living (hub : Hub H) (key : Subscription) : List SubscriberId :=
  (hub.bus.registry.get key).filter fun id => (hub.members id.serial).isSome

theorem Sound.living_eq {hub : Hub H} (sound : hub.Sound) (key : Subscription) :
    hub.bus.living hub.mail key = hub.living key := by
  unfold GlobalBus.living Hub.living
  exact congrArg (List.filter · _) (funext fun id => sound.opened id.serial)

/-- **Registrations are kept exactly, each for itself.** In every run on a bus that is not shut
down, no key is held without a registration. A living subscriber has under each key as many
registrations as calls have registered it there, by hand or by its bindings, less the releases that
found one. A release takes the first registration of that very subscriber under that key, told by
its serial, and leaves all others where they stand; it is recorded as having found none exactly if
there is none.

Registrations of those who live no more are not counted, get no copy of an event, and are dropped by
an update that comes to their key, which drops no others.

That nobody is registered before being created is how registrations come about: it takes the
subscriber to register it. -/
theorem registered_as_asked (first : Nat) (moves : List (Move H))
    (known : ∀ made ∈ (new first : Hub H).past moves, made.move.known made.before.next = true)
    (live : ((new first : Hub H).run moves).bus.shutDown = false) :
    let hub := (new first : Hub H).run moves
    let asked := (new first : Hub H).asked moves
    hub.bus.registry.Tight ∧
    (∀ serial, (hub.members serial).isSome = true → ∀ key,
      asked.countP (Asked.releases key serial) ≤ asked.countP (Asked.enters key serial) ∧
      hub.bus.registrations key serial =
        asked.countP (Asked.enters key serial) - asked.countP (Asked.releases key serial)) ∧
    (∀ key id, hub.bus.TakesBack key id (hub.bus.unsubscribe key id)) ∧
    (∀ key, hub.bus.subscriberCount hub.mail key = (hub.living key).length) ∧
    ∀ event rest, hub.bus.queue = event :: rest →
      let updated := hub.bus.update hub.mail
      updated.copies =
        some ((hub.living (.uid event.uid)).length + (hub.living .all).length) ∧
      ∀ key, updated.bus.registry.get key =
        if key ∈ Subscription.route event.uid then hub.living key
          else hub.bus.registry.get key := by
  intro hub asked
  have sound : hub.Sound := sound_run (.new first) moves
  obtain ⟨tight, _, booked⟩ := booked_run first moves known live
  have counted (key : Subscription) :
      hub.bus.subscriberCount hub.mail key = (hub.living key).length :=
    congrArg List.length (sound.living_eq key)
  refine ⟨tight, fun serial lives key => ?_, GlobalBus.takesBack_unsubscribe live, counted,
    fun event rest queue => ⟨?_, fun key => ?_⟩⟩
  · have balance : hub.bus.registrations key serial + asked.countP (Asked.releases key serial) =
        asked.countP (Asked.enters key serial) := booked serial (.inl lives) key
    omega
  · rw [(GlobalBus.handsOut_update live queue hub.mail).copies, counted, counted]
  · rw [GlobalBus.registry_update live queue, sound.living_eq]

/-- Of two subscribers of one name one is registered past its table, and is dropped: a registration
of it remains, which is not counted and not handed to. The other one was registered twice and
released once, and not under the key that it had not been registered under. -/
theorem registered_as_asked_of_namesake :
    let event : Event := { uid := ⟨7⟩ }
    let own : Subscription := .uid ⟨7⟩
    let kept : SubscriberId := ⟨1, "reader"⟩
    let moves : List (Move Nat) :=
      [.create "reader", .create "reader", .bind 0 own 9, .subscribe own ⟨0, "reader"⟩,
        .subscribe own kept, .subscribe own kept, .unsubscribe own kept, .unsubscribe .all kept,
        .drop 0, .hook event]
    let hub := (new 0 : Hub Nat).run moves
    let updated := hub.bus.update hub.mail
    hub.bus.registry.get own = [⟨0, "reader"⟩, kept] ∧ hub.bus.registrations own 1 = 1 ∧
      hub.bus.subscriberCount hub.mail own = 1 ∧ updated.copies = some 1 ∧
      updated.bus.registry.get own = [kept] ∧
      hub.bus.TakesBack .all kept (hub.bus.unsubscribe .all kept) := by
  intro event own kept moves hub updated
  obtain ⟨_, booked, takesBack, counted, updates⟩ :=
    registered_as_asked 0 moves (by decide +kernel) (by decide +kernel)
  have one := (booked 1 (by decide +kernel) own).2
  have current := counted own
  obtain ⟨copies, registered⟩ := updates event [] (by decide +kernel)
  refine ⟨by decide +kernel, ?_, ?_, ?_, ?_, takesBack .all kept⟩
  · exact one.trans (by decide +kernel)
  · exact current.trans (by decide +kernel)
  · exact copies.trans (by decide +kernel)
  · dsimp only [updated, hub]
    exact (registered own).trans (by decide +kernel)

end Hub

end EventTransport
