import EventTransport.Bus.Subscriber

/-!
Contract: how a subscriber represents its handlers.

Owns:
- `Subscriber.WellFormed`, what the numbers in the table, the handlers and the tracker have to do
  with each other;
- `Subscriber.Gains` and `Subscriber.Releases`, everything that binding and unbinding do to a
  subscriber, and that both keep it well-formed.

Does not own: registrations on a bus.
-/

namespace EventTransport

theorem Registry.mem_keys_of_get {α : Type} {registry : Registry α} {key : Subscription}
    (held : registry.get key ≠ []) : key ∈ registry.keys := by
  unfold Registry.get at held
  cases found : registry.entries.lookup key with
  | none =>
      rw [found] at held
      exact absurd rfl held
  | some values =>
      obtain ⟨front, back, split, _⟩ := List.lookup_eq_some_iff.mp found
      unfold Registry.keys
      rw [split]
      simp

namespace Subscriber

variable {H : Type}

/-- Numbers have been given out before they stand in the table or in the tracker, and a number
stands for a handler exactly if it is under a key, which is then the only one. -/
structure WellFormed (subscriber : Subscriber H) : Prop where
  given : ∀ key, ∀ number ∈ subscriber.table.get key, number < subscriber.nextHandler
  once : ∀ key, (subscriber.table.get key).Nodup
  apart : ∀ {left right number}, number ∈ subscriber.table.get left →
    number ∈ subscriber.table.get right → left = right
  held : ∀ number, (subscriber.handlers.lookup number).isSome = true ↔
    ∃ key, number ∈ subscriber.table.get key
  trackerGiven : ∀ tracker, subscriber.tracker = some tracker →
    ∀ number ∈ tracker, number < subscriber.nextHandler

/-- Of the numbers that an event visits none is visited twice. -/
theorem WellFormed.nodup_route {subscriber : Subscriber H} (proper : subscriber.WellFormed)
    (uid : Uid) :
    (subscriber.table.get (.uid uid) ++ subscriber.table.get .all).Nodup := by
  refine List.nodup_append.mpr
    ⟨proper.once _, proper.once _, fun left inLeft right inRight same => ?_⟩
  rw [same] at inLeft
  exact Subscription.noConfusion (proper.apart inLeft inRight)

/-- The same bindings, whatever has become of the queue. -/
structure SameBindings (before after : Subscriber H) : Prop where
  table : after.table = before.table
  handlers : after.handlers = before.handlers
  nextHandler : after.nextHandler = before.nextHandler

theorem SameBindings.wellFormed {before after : Subscriber H} (same : SameBindings before after)
    (proper : before.WellFormed)
    (trackerGiven : ∀ tracker, after.tracker = some tracker →
      ∀ number ∈ tracker, number < before.nextHandler) : after.WellFormed where
  given := by
    rw [same.table, same.nextHandler]
    exact proper.given
  once := by
    rw [same.table]
    exact proper.once
  apart := by
    rw [same.table]
    exact proper.apart
  held := by
    rw [same.handlers, same.table]
    exact proper.held
  trackerGiven := by
    rw [same.nextHandler]
    exact trackerGiven

/-! ### Binding -/

/-- One more handler under a key. -/
structure Gains (key : Subscription) (handler : H) (before after : Subscriber H) : Prop where
  get : ∀ other, after.table.get other =
    if other = key then before.table.get key ++ [before.nextHandler] else before.table.get other
  lookup : ∀ number, after.handlers.lookup number =
    (before.handlers.lookup number).or
      (if number = before.nextHandler then some handler else none)
  queue : after.queue = before.queue
  tracker : after.tracker = before.tracker
  nextHandler : after.nextHandler = before.nextHandler + 1

theorem gains_bind (subscriber : Subscriber H) (bus : GlobalBus) (key : Subscription)
    (handler : H) : Gains key handler subscriber (subscriber.bind bus key handler).subscriber := by
  have lookup (number : HandlerNumber) :
      (subscriber.handlers ++ [(subscriber.nextHandler, handler)]).lookup number =
        (subscriber.handlers.lookup number).or
          (if number = subscriber.nextHandler then some handler else none) := by
    rw [List.lookup_append]
    by_cases same : number = subscriber.nextHandler
    · simp [same]
    · have apart : (number == subscriber.nextHandler) = false := by simpa using same
      simp [List.lookup_cons, apart, same]
  unfold bind
  dsimp only
  split
  · exact ⟨fun other => Registry.get_add .., lookup, rfl, rfl, rfl⟩
  · exact ⟨fun other => Registry.get_add .., lookup, rfl, rfl, rfl⟩

namespace Gains

variable {key : Subscription} {handler : H} {before after : Subscriber H}

theorem mem_get_iff (gains : Gains key handler before after) {other : Subscription}
    {number : HandlerNumber} :
    number ∈ after.table.get other ↔
      number ∈ before.table.get other ∨ (other = key ∧ number = before.nextHandler) := by
  rw [gains.get]
  by_cases here : other = key
  · subst here
    simp
  · simp [here]

theorem wellFormed (gains : Gains key handler before after) (proper : before.WellFormed) :
    after.WellFormed where
  given := by
    intro other number member
    rw [gains.nextHandler]
    rcases gains.mem_get_iff.mp member with old | ⟨_, rfl⟩
    · exact Nat.lt_succ_of_lt (proper.given other number old)
    · exact Nat.lt_succ_self _
  once := by
    intro other
    rw [gains.get]
    split
    · refine List.nodup_append.mpr ⟨proper.once key, by simp, ?_⟩
      intro number old fresh isFresh same
      have older := proper.given key number old
      rw [same, List.mem_singleton.mp isFresh] at older
      exact Nat.lt_irrefl _ older
    · exact proper.once other
  apart := by
    intro left right number inLeft inRight
    rcases gains.mem_get_iff.mp inLeft with leftOld | ⟨leftKey, fresh⟩
    · rcases gains.mem_get_iff.mp inRight with rightOld | ⟨_, fresh⟩
      · exact proper.apart leftOld rightOld
      · exact absurd fresh (Nat.ne_of_lt (proper.given left number leftOld))
    · rcases gains.mem_get_iff.mp inRight with rightOld | ⟨rightKey, _⟩
      · exact absurd fresh (Nat.ne_of_lt (proper.given right number rightOld))
      · exact leftKey.trans rightKey.symm
  held := by
    intro number
    rw [gains.lookup, Option.isSome_or, Bool.or_eq_true, proper.held]
    constructor
    · rintro (⟨other, member⟩ | fresh)
      · exact ⟨other, gains.mem_get_iff.mpr (.inl member)⟩
      · refine ⟨key, gains.mem_get_iff.mpr (.inr ⟨rfl, ?_⟩)⟩
        by_cases same : number = before.nextHandler
        · exact same
        · simp [same] at fresh
    · rintro ⟨other, member⟩
      rcases gains.mem_get_iff.mp member with old | ⟨_, fresh⟩
      · exact .inl ⟨other, old⟩
      · exact .inr (by simp [fresh])
  trackerGiven := by
    intro tracker tracked number member
    rw [gains.tracker] at tracked
    rw [gains.nextHandler]
    exact Nat.lt_succ_of_lt (proper.trackerGiven tracker tracked number member)

end Gains

/-! ### Unbinding -/

/-- The handlers of some keys given up. -/
structure Releases (lost : List Subscription) (before after : Subscriber H) : Prop where
  get : ∀ key, after.table.get key = if key ∈ lost then [] else before.table.get key
  lookup_lost : ∀ number, ∀ key ∈ lost, number ∈ before.table.get key →
    after.handlers.lookup number = none
  lookup_kept : ∀ number, (∀ key ∈ lost, number ∉ before.table.get key) →
    after.handlers.lookup number = before.handlers.lookup number
  queue : after.queue = before.queue
  tracker : after.tracker = before.tracker
  nextHandler : after.nextHandler = before.nextHandler

theorem releases_unbind (subscriber : Subscriber H) (bus : GlobalBus) (key : Subscription) :
    Releases [key] subscriber (subscriber.unbind bus key).subscriber := by
  unfold unbind
  split
  · refine ⟨?_, ?_, ?_, rfl, rfl, rfl⟩
    · intro other
      simp only [List.mem_singleton]
      exact Registry.get_erase ..
    · intro number other isKey member
      simp only [List.mem_singleton] at isKey
      subst isKey
      have gone := lookup_filter_fst (fun known => !(subscriber.table.get other).contains known)
        number subscriber.handlers
      simpa [member] using gone
    · intro number kept
      have stays := lookup_filter_fst (fun known => !(subscriber.table.get key).contains known)
        number subscriber.handlers
      simpa [kept key (List.mem_singleton_self key)] using stays
  · rename_i absent
    have nothing : subscriber.table.get key = [] := Registry.get_of_not_contains absent
    refine ⟨?_, ?_, fun _ _ => rfl, rfl, rfl, rfl⟩
    · intro other
      by_cases here : other = key
      · simp [here, nothing]
      · simp [here]
    · intro number other isKey member
      simp only [List.mem_singleton] at isKey
      rw [isKey, nothing] at member
      cases member

namespace Releases

variable {lost : List Subscription} {before after : Subscriber H}

theorem refl (subscriber : Subscriber H) : Releases [] subscriber subscriber :=
  ⟨fun _ => by simp, fun _ _ none => (List.not_mem_nil none).elim, fun _ _ => rfl, rfl, rfl, rfl⟩

theorem mem_get_iff (releases : Releases lost before after) {key : Subscription}
    {number : HandlerNumber} :
    number ∈ after.table.get key ↔ key ∉ lost ∧ number ∈ before.table.get key := by
  rw [releases.get]
  by_cases gone : key ∈ lost <;> simp [gone]

theorem trans {first second : List Subscription} {middle : Subscriber H}
    (front : Releases first before middle) (back : Releases second middle after) :
    Releases (first ++ second) before after where
  get := by
    intro key
    rw [back.get, front.get]
    by_cases inFirst : key ∈ first <;> by_cases inSecond : key ∈ second <;>
      simp [inFirst, inSecond]
  lookup_lost := by
    intro number key isLost member
    by_cases inFirst : key ∈ first
    · by_cases again : ∃ other ∈ second, number ∈ middle.table.get other
      · obtain ⟨other, inSecond, memberThere⟩ := again
        exact back.lookup_lost number other inSecond memberThere
      · rw [back.lookup_kept number fun other inSecond there => again ⟨other, inSecond, there⟩]
        exact front.lookup_lost number key inFirst member
    · have inSecond : key ∈ second := (List.mem_append.mp isLost).resolve_left inFirst
      exact back.lookup_lost number key inSecond (front.mem_get_iff.mpr ⟨inFirst, member⟩)
  lookup_kept := by
    intro number kept
    rw [back.lookup_kept number, front.lookup_kept number]
    · intro key inFirst
      exact kept key (List.mem_append_left second inFirst)
    · intro key inSecond member
      exact kept key (List.mem_append_right first inSecond) (front.mem_get_iff.mp member).2
  queue := back.queue.trans front.queue
  tracker := back.tracker.trans front.tracker
  nextHandler := back.nextHandler.trans front.nextHandler

theorem wellFormed (releases : Releases lost before after) (proper : before.WellFormed) :
    after.WellFormed where
  given := by
    intro key number member
    rw [releases.nextHandler]
    exact proper.given key number (releases.mem_get_iff.mp member).2
  once := by
    intro key
    rw [releases.get]
    split
    · exact List.nodup_nil
    · exact proper.once key
  apart := fun inLeft inRight =>
    proper.apart (releases.mem_get_iff.mp inLeft).2 (releases.mem_get_iff.mp inRight).2
  held := by
    intro number
    constructor
    · intro present
      have kept : ∀ key ∈ lost, number ∉ before.table.get key := by
        intro key isLost member
        rw [releases.lookup_lost number key isLost member] at present
        cases present
      rw [releases.lookup_kept number kept] at present
      obtain ⟨key, member⟩ := (proper.held number).mp present
      exact ⟨key, releases.mem_get_iff.mpr ⟨fun isLost => kept key isLost member, member⟩⟩
    · rintro ⟨key, member⟩
      obtain ⟨notLost, memberBefore⟩ := releases.mem_get_iff.mp member
      rw [releases.lookup_kept number]
      · exact (proper.held number).mpr ⟨key, memberBefore⟩
      · intro other isLost there
        exact notLost (proper.apart memberBefore there ▸ isLost)
  trackerGiven := by
    rw [releases.tracker, releases.nextHandler]
    exact proper.trackerGiven

end Releases

theorem releases_unbindEach (subscriber : Subscriber H) (bus : GlobalBus)
    (keys : List Subscription) :
    Releases keys subscriber (subscriber.unbindEach bus keys).subscriber := by
  induction keys generalizing subscriber bus with
  | nil => exact .refl subscriber
  | cons key keys inductionHypothesis =>
      exact (releases_unbind subscriber bus key).trans (inductionHypothesis _ _)

end Subscriber

end EventTransport
