import EventTransport.Proofs.Bus.Bookkeeping
import EventTransport.Proofs.Subscriber.Mortality
import EventTransport.Proofs.Subscriber.Owing

/-!
Contract: how the parts of a subscriber are kept in step.

Owns:
- `Subscriber.Coherent`, what table, handlers, tracker and queue have to do with each other;
- `Subscriber.Turns`, everything that a call can do where handlers may die;
- that every run is coherent and gives out the numbers one after the other.

Coherence is carried by `Subscriber.Steady`, which says the same of keys as `Subscriber.WellFormed`
does and of the lists that they are not repeated.

Does not own: which event a tracker is for.
-/

namespace EventTransport

/-! ### Values of a registry -/

namespace Registry

variable {α : Type} {registry : Registry α}

/-- The values of all keys, key by key. -/
def values (registry : Registry α) : List α := registry.entries.flatMap Prod.snd

theorem get_of_mem (distinct : registry.keys.Nodup) {entry : Subscription × List α}
    (member : entry ∈ registry.entries) : registry.get entry.1 = entry.2 := by
  obtain ⟨front, back, split⟩ := List.append_of_mem member
  have first : ∀ other ∈ front, entry.1 ≠ other.1 := by
    unfold keys at distinct
    rw [split, List.map_append, List.map_cons] at distinct
    intro other earlier same
    refine List.disjoint_of_nodup_append distinct (List.mem_map_of_mem earlier) ?_
    rw [← same]
    exact List.mem_cons_self
  have found : registry.entries.lookup entry.1 = some entry.2 :=
    List.lookup_eq_some_iff.mpr ⟨front, back, split, fun other earlier => by
      simpa using first other earlier⟩
  unfold get
  rw [found]
  rfl

theorem mem_values_iff (distinct : registry.keys.Nodup) {value : α} :
    value ∈ registry.values ↔ ∃ key, value ∈ registry.get key := by
  unfold values
  rw [List.mem_flatMap]
  constructor
  · rintro ⟨entry, member, inEntry⟩
    refine ⟨entry.1, ?_⟩
    rwa [get_of_mem distinct member]
  · rintro ⟨key, inKey⟩
    have held : key ∈ registry.keys := mem_keys_of_get (List.ne_nil_of_mem inKey)
    obtain ⟨entry, member, rfl⟩ := List.mem_map.mp held
    rw [get_of_mem distinct member] at inKey
    exact ⟨entry, member, inKey⟩

/-- Values that are once and only under one key are once among all. -/
theorem nodup_values (distinct : registry.keys.Nodup) (once : ∀ key, (registry.get key).Nodup)
    (apart : ∀ {left right value}, value ∈ registry.get left → value ∈ registry.get right →
      left = right) : registry.values.Nodup := by
  unfold values
  rw [List.nodup_flatMap]
  constructor
  · intro entry member
    rw [← get_of_mem distinct member]
    exact once entry.1
  · have keys : registry.entries.Pairwise fun left right => left.1 ≠ right.1 :=
      List.pairwise_map.mp distinct
    refine keys.imp_of_mem fun {left right} inLeft inRight different value leftHas rightHas => ?_
    rw [← get_of_mem distinct inLeft] at leftHas
    rw [← get_of_mem distinct inRight] at rightHas
    exact different (apart leftHas rightHas)

end Registry

namespace Subscriber

variable {H σ : Type}

/-! ### Coherence -/

/-- Under no key is there nothing. A number stands in the table once, exactly if it stands
for a handler, and was given out before. Whoever is tracked is tracked once, and there is an
event then. -/
structure Coherent (subscriber : Subscriber H) : Prop where
  tight : subscriber.table.Tight
  once : subscriber.table.values.Nodup
  distinct : (subscriber.handlers.map Prod.fst).Nodup
  held : ∀ number, number ∈ subscriber.handlers.map Prod.fst ↔ number ∈ subscriber.table.values
  given : ∀ number ∈ subscriber.table.values, number < subscriber.nextHandler
  tracked : ∀ tracker, subscriber.tracker = some tracker →
    tracker ≠ [] ∧ tracker.Nodup ∧ subscriber.queue ≠ []

/-- Keys and handlers are listed once. -/
structure Firm (subscriber : Subscriber H) : Prop where
  tight : subscriber.table.Tight
  distinct : (subscriber.handlers.map Prod.fst).Nodup

theorem mem_handlers_iff {subscriber : Subscriber H} {number : HandlerNumber} :
    number ∈ subscriber.handlers.map Prod.fst ↔ subscriber.isHeld number = true := by
  unfold isHeld
  rw [List.lookup_isSome_iff, List.mem_map]
  constructor
  · rintro ⟨entry, member, same⟩
    exact ⟨entry, member, beq_iff_eq.mpr same.symm⟩
  · rintro ⟨entry, member, same⟩
    exact ⟨entry, member, (eq_of_beq same).symm⟩

namespace Firm

variable {subscriber : Subscriber H}

theorem bind (firm : subscriber.Firm) (proper : subscriber.WellFormed) (bus : GlobalBus)
    (key : Subscription) (handler : H) : (subscriber.bind bus key handler).subscriber.Firm := by
  have fresh : subscriber.nextHandler ∉ subscriber.handlers.map Prod.fst := by
    intro old
    obtain ⟨other, member⟩ := (proper.held _).mp (mem_handlers_iff.mp old)
    exact Nat.lt_irrefl _ (proper.given other _ member)
  have distinct : ((subscriber.handlers ++ [(subscriber.nextHandler, handler)]).map
      Prod.fst).Nodup := by
    rw [List.map_append]
    refine List.nodup_append.mpr ⟨firm.distinct, List.nodup_singleton _, ?_⟩
    intro old member other isFresh same
    rw [same, List.mem_singleton.mp isFresh] at member
    exact fresh member
  have tight := firm.tight.add key subscriber.nextHandler
  unfold Subscriber.bind
  dsimp only
  split
  · exact ⟨tight, distinct⟩
  · exact ⟨tight, distinct⟩

theorem unbind (firm : subscriber.Firm) (bus : GlobalBus) (key : Subscription) :
    (subscriber.unbind bus key).subscriber.Firm := by
  unfold Subscriber.unbind
  split
  · exact ⟨firm.tight.erase key, firm.distinct.sublist (List.filter_sublist.map Prod.fst)⟩
  · exact firm

theorem unbindEach (firm : subscriber.Firm) (bus : GlobalBus) (keys : List Subscription) :
    (subscriber.unbindEach bus keys).subscriber.Firm := by
  induction keys generalizing subscriber bus with
  | nil => exact firm
  | cons key keys inductionHypothesis =>
      exact inductionHypothesis (firm.unbind bus key) (subscriber.unbind bus key).bus

end Firm

/-- A well-formed subscriber whose lists are without repetition, and that tracks somebody only while
there is an event. -/
structure Steady (subscriber : Subscriber (Numbered H)) : Prop where
  proper : subscriber.WellFormed
  knowsNumbers : subscriber.KnowsNumbers
  firm : subscriber.Firm
  tracked : ∀ tracker, subscriber.tracker = some tracker →
    tracker ≠ [] ∧ tracker.Nodup ∧ subscriber.queue ≠ []

namespace Steady

variable {subscriber : Subscriber (Numbered H)}

theorem coherent (steady : subscriber.Steady) : subscriber.Coherent where
  tight := steady.firm.tight
  once := Registry.nodup_values steady.firm.tight.distinct steady.proper.once steady.proper.apart
  distinct := steady.firm.distinct
  held number := by
    rw [mem_handlers_iff, Registry.mem_values_iff steady.firm.tight.distinct]
    exact steady.proper.held number
  given number member := by
    obtain ⟨key, inKey⟩ := (Registry.mem_values_iff steady.firm.tight.distinct).mp member
    exact steady.proper.given key number inKey
  tracked := steady.tracked

/-- Whoever is owed an event is owed it once. -/
theorem nodup_owed (steady : subscriber.Steady) (event : Event) :
    (subscriber.owed event).Nodup := by
  unfold owed
  cases isTracked : subscriber.tracker with
  | some tracker => exact (steady.tracked tracker isTracked).2.1
  | none =>
      show ([.uid event.uid, .all].flatMap subscriber.table.get).Nodup
      rw [List.flatMap_cons, List.flatMap_singleton]
      exact steady.proper.nodup_route event.uid

end Steady

/-! ### What a call can do -/

/-- The numbers that are given out by this. -/
def Happening.given : Happening → List HandlerNumber
  | bound _ number => [number]
  | _ => []

/-- What a call other than a step on the queue may do to a subscriber, its lists and numbers
included. -/
structure Reshapes (happening : Happening) (before after : Subscriber (Numbered H)) : Prop
    extends Alters happening before after where
  firm : before.WellFormed → before.Firm → after.Firm
  numbers : List.range before.nextHandler ++ happening.given = List.range after.nextHandler

/-- Everything that a call can do where handlers may die. -/
inductive Turns (before : Life H σ) : Call H σ → Life H σ → Prop where
  | reshaped {call : Call H σ} {ready after : Life H σ} {happening : Happening}
    (isReady : ready = before ∨ ready = before.collect)
    (reshapes : Reshapes happening ready.subscriber after.subscriber)
    (recorded : after.history = before.history ++ [happening]) : Turns before call after
  | attempted {visit : Visit} {after : Life H σ}
    (attempts : Attempts before.collect.subscriber visit after.subscriber)
    (recorded : after.history = before.history ++ [.processed visit]) : Turns before .process after

theorem reshapes_aside (subscriber : Subscriber (Numbered H)) :
    Reshapes .aside subscriber subscriber where
  toAlters := alters_aside subscriber
  firm _ firm := firm
  numbers := List.append_nil _

/-- Every call does one of these things. -/
theorem Life.turns_stepMortal (ask : H → Event → StateM (Surroundings σ) (Option Bool))
    {life : Life H σ} (knowsNumbers : life.subscriber.KnowsNumbers) (call : Call H σ) :
    Turns life call (life.stepMortal ask call) := by
  cases call with
  | bind key handler =>
      have gains := gains_bind life.subscriber life.around.bus key
        (Numbered.mk life.subscriber.nextHandler handler)
      refine .reshaped (.inl rfl)
        ⟨gains.alters, fun proper firm => firm.bind proper _ key _, ?_⟩ rfl
      exact (List.range_succ (n := life.subscriber.nextHandler)).symm.trans
        (congrArg List.range gains.nextHandler.symm)
  | unbind key =>
      have releases := releases_unbind life.subscriber life.around.bus key
      refine .reshaped (.inl rfl) ⟨alters_unbind .., fun _ firm => firm.unbind _ key, ?_⟩ rfl
      exact (List.append_nil _).trans (congrArg List.range releases.nextHandler.symm)
  | unbindAll =>
      have releases := releases_unbindEach life.subscriber life.around.bus
        life.subscriber.table.keys
      refine .reshaped (.inl rfl) ⟨alters_unbindAll .., fun _ firm => firm.unbindEach _ _, ?_⟩ rfl
      exact (List.append_nil _).trans (congrArg List.range releases.nextHandler.symm)
  | process => exact .attempted (life.attempts_attempt ask knowsNumbers) rfl
  | count => exact .reshaped (.inr rfl) (reshapes_aside _) rfl
  | hook | update | arrive | elsewhere => exact .reshaped (.inl rfl) (reshapes_aside _) rfl

/-! ### What a step on the queue leaves -/

namespace Attempts

variable {before after : Subscriber H} {visit : Visit}

theorem sameBindings (attempts : Attempts before visit after) : SameBindings before after := by
  cases attempts with
  | finished visits => cases visits <;> exact ⟨rfl, rfl, rfl⟩
  | cutShort => exact ⟨rfl, rfl, rfl⟩

/-- Whoever is asked is bound and owed the event at the front, and is asked about it. -/
theorem asked (attempts : Attempts before visit after) {answer : Asked}
    (member : answer ∈ visit.asked) :
    ∃ event rest, before.queue = event :: rest ∧ answer.event = event ∧
      answer.number ∈ before.owed event ∧ before.isHeld answer.number = true := by
  have ofNumbers {event : Event} {asked : List Asked} (isAsked : answer ∈ asked)
      (numbers : asked.map Asked.number = (before.owed event).filter before.isHeld) :
      answer.number ∈ before.owed event ∧ before.isHeld answer.number = true := by
    have among := List.mem_map_of_mem (f := Asked.number) isAsked
    rw [numbers] at among
    exact List.mem_filter.mp among
  cases attempts with
  | finished visits =>
      cases visits with
      | idle => cases member
      | undeliverable => cases member
      | settled front _ numbers events =>
          exact ⟨_, _, front, events answer member, ofNumbers member numbers⟩
      | pending front _ numbers events =>
          exact ⟨_, _, front, events answer member, ofNumbers member numbers⟩
  | cutShort front events numbers =>
      exact ⟨_, _, front, events answer member, List.mem_filter.mp (numbers answer member)⟩

/-- Whoever is tracked after a step was owed the event that it has left at the front,
and is bound. -/
theorem tracks (attempts : Attempts before visit after)
    (tracked : ∀ tracker, before.tracker = some tracker → before.queue ≠ [])
    {tracker : List HandlerNumber} (isTracker : after.tracker = some tracker) :
    ∃ event rest, before.queue = event :: rest ∧ after.queue = before.queue ∧
      visit.found = before.queue ∧ visit.left = before.queue ∧ tracker ≠ [] ∧
      tracker.Sublist ((before.owed event).filter before.isHeld) := by
  cases attempts with
  | finished visits =>
      cases visits with
      | idle nothing => exact absurd nothing (tracked tracker isTracker)
      | undeliverable => cases isTracker
      | settled => cases isTracker
      | pending front _ numbers _ notAll =>
          cases isTracker
          refine ⟨_, _, front, rfl, front.symm, front.symm, notAll, ?_⟩
          rw [← numbers]
          exact List.filter_sublist.map Asked.number
  | cutShort => cases isTracker

end Attempts

/-! ### Runs -/

theorem Steady.collect {life : Life H σ} (steady : life.subscriber.Steady) :
    life.collect.subscriber.Steady where
  proper := ⟨steady.proper.given, steady.proper.once, steady.proper.apart, steady.proper.held,
    steady.proper.trackerGiven⟩
  knowsNumbers := steady.knowsNumbers
  firm := ⟨steady.firm.tight, steady.firm.distinct⟩
  tracked tracker isTracker := by
    obtain ⟨some, once, queued⟩ := steady.tracked tracker isTracker
    exact ⟨some, once, List.append_ne_nil_of_left_ne_nil queued _⟩

theorem Steady.attempted {before after : Subscriber (Numbered H)} {visit : Visit}
    (steady : before.Steady) (attempts : Attempts before visit after) : after.Steady where
  proper := by
    apply attempts.sameBindings.wellFormed steady.proper
    intro tracker isTracker number isTracked
    obtain ⟨event, rest, -, -, -, -, -, ordered⟩ :=
      attempts.tracks (fun _ old => (steady.tracked _ old).2.2) isTracker
    have isHeld := (List.mem_filter.mp (ordered.subset isTracked)).2
    obtain ⟨key, member⟩ := (steady.proper.held number).mp isHeld
    exact steady.proper.given key number member
  knowsNumbers := attempts.sameBindings.knowsNumbers steady.knowsNumbers
  firm := by
    obtain ⟨table, handlers, -⟩ := attempts.sameBindings
    exact ⟨table ▸ steady.firm.tight, handlers ▸ steady.firm.distinct⟩
  tracked tracker isTracker := by
    obtain ⟨event, rest, front, queue, -, -, some, ordered⟩ :=
      attempts.tracks (fun _ old => (steady.tracked _ old).2.2) isTracker
    refine ⟨some, (steady.nodup_owed event).sublist (ordered.trans List.filter_sublist), ?_⟩
    rw [queue, front]
    exact List.cons_ne_nil event rest

namespace Turns

variable {before after : Life H σ} {call : Call H σ}

/-- Every call keeps a subscriber steady. -/
theorem steady (turns : Turns before call after) (steady : before.subscriber.Steady) :
    after.subscriber.Steady := by
  cases turns with
  | attempted attempts => exact steady.collect.attempted attempts
  | @reshaped _ ready _ _ isReady reshapes =>
      have readySteady : ready.subscriber.Steady := by
        rcases isReady with rfl | rfl
        · exact steady
        · exact steady.collect
      refine ⟨reshapes.wellFormed readySteady.proper,
        reshapes.knowsNumbers readySteady.proper readySteady.knowsNumbers,
        reshapes.firm readySteady.proper readySteady.firm, ?_⟩
      rw [reshapes.tracker, reshapes.queue]
      exact readySteady.tracked

/-- The numbers given out are the next ones. -/
theorem numbers (turns : Turns before call after)
    (given : before.history.flatMap Happening.given = List.range before.subscriber.nextHandler) :
    after.history.flatMap Happening.given = List.range after.subscriber.nextHandler := by
  cases turns with
  | attempted attempts recorded =>
      rw [recorded, List.flatMap_append, given, attempts.sameBindings.nextHandler]
      exact List.append_nil _
  | @reshaped _ ready _ happening isReady reshapes recorded =>
      have same : ready.subscriber.nextHandler = before.subscriber.nextHandler := by
        rcases isReady with rfl | rfl <;> rfl
      rw [recorded, List.flatMap_append, given, ← same, List.flatMap_singleton]
      exact reshapes.numbers

end Turns

section Runs

variable (ask : H → Event → StateM (Surroundings σ) (Option Bool))

theorem steady_start (id : SubscriberId) (around : Surroundings σ) :
    (Life.start id around : Life H σ).subscriber.Steady where
  proper := by constructor <;> simp [Life.start, Registry.get_empty]
  knowsNumbers _ _ found := nomatch found
  firm := ⟨.empty, List.nodup_nil⟩
  tracked _ isTracker := nomatch isTracker

theorem runMortal_snoc (life : Life H σ) (calls : List (Call H σ)) (call : Call H σ) :
    life.runMortal ask (calls ++ [call]) = (life.runMortal ask calls).stepMortal ask call :=
  List.foldl_append

theorem steady_run {life : Life H σ} (steady : life.subscriber.Steady) (calls : List (Call H σ)) :
    (life.runMortal ask calls).subscriber.Steady := by
  induction calls generalizing life with
  | nil => exact steady
  | cons call calls inductionHypothesis =>
      exact inductionHypothesis ((Life.turns_stepMortal ask steady.knowsNumbers call).steady steady)

/-- The numbers given out in a run are those below the next one, in this order. -/
theorem numbers_run (id : SubscriberId) (around : Surroundings σ) (calls : List (Call H σ)) :
    let life := (Life.start id around).runMortal ask calls
    life.history.flatMap Happening.given = List.range life.subscriber.nextHandler := by
  induction calls using List.reverseRecOn with
  | nil => rfl
  | append_singleton calls call inductionHypothesis =>
      have steady := steady_run ask (steady_start (H := H) id around) calls
      rw [runMortal_snoc]
      exact (Life.turns_stepMortal ask steady.knowsNumbers call).numbers inductionHypothesis

end Runs

end Subscriber

end EventTransport
