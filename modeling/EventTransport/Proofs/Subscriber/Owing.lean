import EventTransport.Proofs.Subscriber.Representation
import EventTransport.Proofs.Subscriber.Visiting
import Mathlib.Data.List.Induction
import Mathlib.Data.List.Nodup

/-!
Contract: what a subscriber owes to its handlers in the middle of an event.

Owns:
- histories that grow, and that after each of them at most one event is in progress;
- `Subscriber.Owes`, what is owed, in terms of what has happened before and since the event was
  first seen;
- `Subscriber.Alters`, what a call other than a step on the queue may do, and that what is owed
  shrinks by what is unbound.

Does not own: lives.
-/

namespace EventTransport

namespace Subscriber

variable {H : Type}

/-! ### Histories that grow -/

theorem boundUnder_snoc (key : Subscription) (history : List Happening) (happening : Happening) :
    boundUnder key (history ++ [happening]) =
      match happening with
      | .bound other number =>
        if other = key then boundUnder key history ++ [number] else boundUnder key history
      | _ => if happening.unbinds key then [] else boundUnder key history := by
  unfold boundUnder
  rw [List.foldl_append]
  rfl

theorem lastProgress_snoc (history : List Happening) (happening : Happening) :
    lastProgress (history ++ [happening]) =
      match happening with
      | .processed visit => some visit.progress
      | _ => lastProgress history := by
  unfold lastProgress
  rw [List.foldl_append]
  rfl

theorem isOwedStill_snoc (since : List Happening) (happening : Happening)
    (member : Subscription × HandlerNumber) :
    isOwedStill (since ++ [happening]) member =
      (isOwedStill since member &&
        (!happening.completes member.2 && !happening.unbinds member.1)) := by
  simp only [isOwedStill, List.any_append, List.any_cons, List.any_nil, Bool.or_false, Bool.not_or]
  cases since.any (Happening.completes member.2) <;>
    cases since.any (Happening.unbinds member.1) <;> simp

/-- Between two events nothing is in progress. -/
theorem InProgress.none {before : List Happening} (settled : lastProgress before ≠ some .pending) :
    InProgress before [] :=
  ⟨settled, by simp, by simp⟩

/-- What has begun goes on as long as no step settles it. -/
theorem InProgress.snoc {before since : List Happening} {happening : Happening}
    (inProgress : InProgress before since) (begun : since ≠ [])
    (unsettled : ∀ visit, happening = .processed visit → visit.progress = .pending) :
    InProgress before (since ++ [happening]) where
  firstSight := inProgress.firstSight
  begins := by
    rw [List.head?_append_of_ne_nil since begun]
    exact inProgress.begins
  unsettled := by
    intro visit member
    rcases List.mem_append.mp member with old | new
    · exact inProgress.unsettled visit old
    · exact unsettled visit (List.mem_singleton.mp new).symm

/-- After every history, one event is in progress or the next one is about to be seen. -/
theorem exists_inProgress (history : List Happening) :
    ∃ before since, history = before ++ since ∧ InProgress before since := by
  induction history using List.reverseRecOn with
  | nil => exact ⟨[], [], rfl, .none (by simp [lastProgress])⟩
  | append_singleton history happening inductionHypothesis =>
      obtain ⟨before, since, rfl, inProgress⟩ := inductionHypothesis
      by_cases unsettled : ∀ visit, happening = .processed visit → visit.progress = .pending
      · by_cases begun : since = []
        · subst begun
          rw [List.append_nil]
          by_cases isVisit : ∃ visit, happening = .processed visit
          · obtain ⟨visit, rfl⟩ := isVisit
            refine ⟨before, [.processed visit], rfl, inProgress.firstSight, ?_, ?_⟩
            · intro first isFirst
              exact ⟨visit, (Option.some.inj isFirst).symm⟩
            · intro other member
              exact unsettled other (List.mem_singleton.mp member).symm
          · refine ⟨before ++ [happening], [], (List.append_nil _).symm, .none ?_⟩
            rw [lastProgress_snoc]
            cases happening with
            | processed visit => exact absurd ⟨visit, rfl⟩ isVisit
            | _ => exact inProgress.firstSight
        · exact ⟨before, since ++ [happening], List.append_assoc ..,
            inProgress.snoc begun unsettled⟩
      · refine ⟨before ++ since ++ [happening], [], (List.append_nil _).symm, .none ?_⟩
        rw [lastProgress_snoc]
        cases happening with
        | processed visit =>
            intro isPending
            apply unsettled
            intro other same
            cases same
            exact Option.some.inj isPending
        | _ => exact absurd (fun _ same => nomatch same) unsettled

theorem exists_of_snoc {history before since : List Happening} {happening : Happening}
    (split : history ++ [happening] = before ++ since) (begun : since ≠ []) :
    ∃ earlier, since = earlier ++ [happening] ∧ history = before ++ earlier := by
  rcases List.eq_nil_or_concat since with none | ⟨earlier, last, isLast⟩
  · exact absurd none begun
  · rw [List.concat_eq_append] at isLast
    rw [isLast, ← List.append_assoc] at split
    obtain ⟨front, back⟩ := List.append_inj' split rfl
    cases back
    exact ⟨earlier, isLast, front⟩

/-- What is in progress after a step was in progress before it, or is seen for the first time. -/
theorem InProgress.of_snoc {before since : List Happening} {happening : Happening}
    (inProgress : InProgress before (since ++ [happening])) : InProgress before since where
  firstSight := inProgress.firstSight
  begins := by
    intro first isFirst
    apply inProgress.begins
    rw [List.head?_append, isFirst]
    rfl
  unsettled := by
    intro visit member
    exact inProgress.unsettled visit (List.mem_append_left _ member)

/-! ### What is owed -/

/-- What a subscriber in the middle of an event owes to its handlers: `before` is what had happened
when the event was first seen, `since` what has happened from then on. -/
structure Owes (subscriber : Subscriber H) (event : Event) (before since : List Happening) :
    Prop where
  given : ∀ member ∈ boundFor event.uid before, member.2 < subscriber.nextHandler
  once : ((boundFor event.uid before).map Prod.snd).Nodup
  bound : ∀ member ∈ boundFor event.uid before, ∀ key, member.2 ∈ subscriber.table.get key ↔
    key = member.1 ∧ since.any (Happening.unbinds member.1) = false
  owed : (subscriber.owed event).filter subscriber.isHeld =
    ((boundFor event.uid before).filter (isOwedStill since)).map Prod.snd
  nothing : subscriber.owed event = [] ↔ boundFor event.uid before = []
  earlier : ∀ visit, .processed visit ∈ since → visit.found.head? = some event

theorem mem_boundFor_iff {uid : Uid} {history : List Happening}
    {member : Subscription × HandlerNumber} :
    member ∈ boundFor uid history ↔
      (member.1 = .uid uid ∨ member.1 = .all) ∧ member.2 ∈ boundUnder member.1 history := by
  obtain ⟨key, number⟩ := member
  simp only [boundFor, List.mem_append, List.mem_map, Prod.mk.injEq]
  constructor
  · rintro (⟨other, member, rfl, rfl⟩ | ⟨other, member, rfl, rfl⟩)
    · exact ⟨.inl rfl, member⟩
    · exact ⟨.inr rfl, member⟩
  · rintro ⟨rfl | rfl, member⟩
    · exact .inl ⟨number, member, rfl, rfl⟩
    · exact .inr ⟨number, member, rfl, rfl⟩

theorem numbers_boundFor (uid : Uid) (history : List Happening) :
    (boundFor uid history).map Prod.snd = boundUnder (.uid uid) history ++
      boundUnder .all history := by
  simp [boundFor, Function.comp_def]

/-- An event seen for the first time is owed to everyone bound for it. -/
theorem Owes.first {subscriber : Subscriber H} {history : List Happening}
    (proper : subscriber.WellFormed)
    (bindings : ∀ key, subscriber.table.get key = boundUnder key history)
    (untracked : subscriber.tracker = none) (event : Event) :
    Owes subscriber event history [] := by
  have isBound : ∀ member ∈ boundFor event.uid history,
      member.2 ∈ subscriber.table.get member.1 := by
    intro member isMember
    rw [bindings]
    exact (mem_boundFor_iff.mp isMember).2
  have all : subscriber.owed event = (boundFor event.uid history).map Prod.snd := by
    rw [numbers_boundFor, ← bindings, ← bindings]
    simp [Subscriber.owed, untracked, Registry.route, Subscription.route]
  constructor
  case given =>
    intro member isMember
    exact proper.given member.1 member.2 (isBound member isMember)
  case once =>
    rw [numbers_boundFor, ← bindings, ← bindings]
    exact proper.nodup_route event.uid
  case bound =>
    intro member isMember key
    constructor
    · intro isThere
      exact ⟨proper.apart isThere (isBound member isMember), rfl⟩
    · rintro ⟨rfl, _⟩
      exact isBound member isMember
  case owed =>
    rw [all, List.filter_eq_self.mpr, List.filter_eq_self.mpr]
    · intro member _
      rfl
    · intro number isOwed
      obtain ⟨member, isMember, rfl⟩ := List.mem_map.mp isOwed
      exact (proper.held member.2).mpr ⟨member.1, isBound member isMember⟩
  case nothing =>
    rw [all, List.map_eq_nil_iff]
  case earlier =>
    intro visit none
    cases none

/-- What a call other than a step on the queue may do to a subscriber. -/
structure Alters (happening : Happening) (before after : Subscriber (Numbered H)) : Prop where
  get : ∀ key history, before.table.get key = boundUnder key history →
    after.table.get key = boundUnder key (history ++ [happening])
  older : ∀ key, ∀ number < before.nextHandler, number ∈ after.table.get key ↔
    number ∈ before.table.get key ∧ happening.unbinds key = false
  nextHandler : before.nextHandler ≤ after.nextHandler
  queue : after.queue = before.queue
  tracker : after.tracker = before.tracker
  completes : ∀ number, happening.completes number = false
  notVisit : ∀ visit, happening ≠ .processed visit
  wellFormed : before.WellFormed → after.WellFormed
  knowsNumbers : before.WellFormed → before.KnowsNumbers → after.KnowsNumbers

/-- Of the numbers given out before, those stay held that are not unbound. -/
theorem Alters.isHeld_iff {happening : Happening} {before after : Subscriber (Numbered H)}
    (alters : Alters happening before after) (proper : before.WellFormed) {number : HandlerNumber}
    (isGiven : number < before.nextHandler) :
    after.isHeld number = true ↔
      ∃ key, number ∈ before.table.get key ∧ happening.unbinds key = false := by
  rw [isHeld, (alters.wellFormed proper).held]
  exact exists_congr fun key => alters.older key number isGiven

/-- Whoever is tracked and held afterwards was held before. -/
theorem Alters.filter_isHeld {happening : Happening} {before after : Subscriber (Numbered H)}
    (alters : Alters happening before after) (proper : before.WellFormed)
    {tracker : List HandlerNumber} (tracked : before.tracker = some tracker) :
    tracker.filter after.isHeld = (tracker.filter before.isHeld).filter after.isHeld := by
  rw [List.filter_filter]
  apply List.filter_congr
  intro number isTracked
  have isGiven := proper.trackerGiven tracker tracked number isTracked
  cases isHeldAfter : after.isHeld number with
  | false => simp
  | true =>
      obtain ⟨key, member, _⟩ := (alters.isHeld_iff proper isGiven).mp isHeldAfter
      have isHeldBefore : before.isHeld number = true := (proper.held number).mpr ⟨key, member⟩
      simp [isHeldBefore]

/-- Whoever is still owed the event stays held unless his key is unbound. -/
theorem Owes.isHeld_eq {happening : Happening} {subscriber after : Subscriber (Numbered H)}
    {event : Event} {before since : List Happening} {member : Subscription × HandlerNumber}
    (owes : Owes subscriber event before since) (alters : Alters happening subscriber after)
    (proper : subscriber.WellFormed) (isMember : member ∈ boundFor event.uid before)
    (isOwed : isOwedStill since member = true) :
    after.isHeld member.2 = !happening.unbinds member.1 := by
  have stays : since.any (Happening.unbinds member.1) = false := by
    simp only [isOwedStill, Bool.and_eq_true, Bool.not_eq_true'] at isOwed
    exact isOwed.2
  rw [Bool.eq_iff_iff, alters.isHeld_iff proper (owes.given member isMember)]
  simp [owes.bound member isMember, stays]

/-- Between two steps on the queue, what is owed shrinks by what is unbound. -/
theorem Owes.between {happening : Happening} {subscriber after : Subscriber (Numbered H)}
    {event : Event} {before since : List Happening} {tracker : List HandlerNumber}
    (owes : Owes subscriber event before since) (alters : Alters happening subscriber after)
    (proper : subscriber.WellFormed) (tracked : subscriber.tracker = some tracker) :
    Owes after event before (since ++ [happening]) := by
  have tracker_eq : subscriber.owed event = tracker := by simp [Subscriber.owed, tracked]
  have tracker_after : after.owed event = tracker := by
    simp [Subscriber.owed, alters.tracker, tracked]
  constructor
  case given =>
    intro member isMember
    exact Nat.lt_of_lt_of_le (owes.given member isMember) alters.nextHandler
  case once => exact owes.once
  case bound =>
    intro member isMember key
    rw [alters.older key member.2 (owes.given member isMember), owes.bound member isMember key]
    simp only [List.any_append, List.any_cons, List.any_nil, Bool.or_false, Bool.or_eq_false_iff]
    constructor
    · rintro ⟨⟨rfl, stays⟩, kept⟩
      exact ⟨rfl, stays, kept⟩
    · rintro ⟨rfl, stays, kept⟩
      exact ⟨⟨rfl, stays⟩, kept⟩
  case owed =>
    rw [tracker_after, alters.filter_isHeld proper tracked, ← tracker_eq, owes.owed,
      List.filter_map, List.filter_filter]
    congr 1
    apply List.filter_congr
    intro member isMember
    rw [isOwedStill_snoc, alters.completes]
    cases isOwed : isOwedStill since member with
    | false => simp
    | true => simp [owes.isHeld_eq alters proper isMember isOwed]
  case nothing => rw [tracker_after, ← tracker_eq, owes.nothing]
  case earlier =>
    intro visit member
    rcases List.mem_append.mp member with old | new
    · exact owes.earlier visit old
    · exact absurd (List.mem_singleton.mp new).symm (alters.notVisit visit)

/-- Nobody who answered that he is done is among those still owed, and everybody else is. -/
theorem stillOwed_eq_filter {visit : Visit} (once : (visit.asked.map Asked.number).Nodup) :
    stillOwed visit.asked =
      (visit.asked.map Asked.number).filter
        fun number => !(Happening.processed visit).completes number := by
  rw [List.filter_map, stillOwed]
  congr 1
  apply List.filter_congr
  intro answer isAnswer
  simp only [Function.comp_apply, Happening.completes]
  congr 1
  rw [Bool.eq_iff_iff, List.any_eq_true]
  constructor
  · intro isDone
    exact ⟨answer, isAnswer, by simp [isDone]⟩
  · rintro ⟨other, isOther, answers⟩
    simp only [Bool.and_eq_true, decide_eq_true_eq] at answers
    have same : other = answer := List.inj_on_of_nodup_map once isOther isAnswer answers.1
    rw [← same]
    exact answers.2

/-- Those who are asked are exactly those who are owed the event. -/
theorem Owes.numbers_asked {subscriber : Subscriber H} {event : Event}
    {before since : List Happening} {asked : List Asked}
    (owes : Owes subscriber event before since)
    (numbers : asked.map Asked.number = (subscriber.owed event).filter subscriber.isHeld) :
    asked.map Asked.number =
      ((boundFor event.uid before).filter (isOwedStill since)).map Prod.snd :=
  numbers.trans owes.owed

/-- After a step that leaves the event at the front, it is owed to those who were asked and are not
done with it. -/
theorem Owes.pending {subscriber : Subscriber H} {event : Event} {before since : List Happening}
    {visit : Visit} (owes : Owes subscriber event before since)
    (numbers : visit.asked.map Asked.number =
      (subscriber.owed event).filter subscriber.isHeld)
    (someHandler : subscriber.owed event ≠ []) (notAll : stillOwed visit.asked ≠ [])
    (front : visit.found.head? = some event) :
    Owes { subscriber with tracker := some (stillOwed visit.asked) } event before
      (since ++ [.processed visit]) := by
  have asks := owes.numbers_asked numbers
  have once : (visit.asked.map Asked.number).Nodup := by
    rw [asks]
    exact owes.once.sublist (List.filter_sublist.map Prod.snd)
  have keeps := stillOwed_eq_filter once
  constructor
  case given => exact owes.given
  case once => exact owes.once
  case bound =>
    intro member isMember key
    have unbindsNothing : Happening.unbinds member.1 (.processed visit) = false := rfl
    rw [List.any_append, List.any_cons, List.any_nil, unbindsNothing, Bool.or_false, Bool.or_false]
    exact owes.bound member isMember key
  case owed =>
    have allHeld : (stillOwed visit.asked).filter subscriber.isHeld = stillOwed visit.asked := by
      rw [List.filter_eq_self, keeps, numbers]
      intro number isOwed
      exact (List.mem_filter.mp (List.mem_filter.mp isOwed).1).2
    show (stillOwed visit.asked).filter subscriber.isHeld = _
    rw [allHeld, keeps, asks, List.filter_map, List.filter_filter]
    congr 1
    apply List.filter_congr
    intro member _
    rw [isOwedStill_snoc, Bool.and_comm]
    simp [Happening.unbinds]
  case nothing =>
    show stillOwed visit.asked = [] ↔ _
    rw [← owes.nothing]
    exact ⟨fun none => absurd none notAll, fun none => absurd none someHandler⟩
  case earlier =>
    intro other member
    rcases List.mem_append.mp member with old | new
    · exact owes.earlier other old
    · cases List.mem_singleton.mp new
      exact front

/-! ### What other calls do -/

theorem SameBindings.knowsNumbers {before after : Subscriber (Numbered H)}
    (same : SameBindings before after) (knowsNumbers : before.KnowsNumbers) :
    after.KnowsNumbers := by
  unfold KnowsNumbers
  rw [same.handlers]
  exact knowsNumbers

theorem alters_aside (subscriber : Subscriber (Numbered H)) :
    Alters .aside subscriber subscriber where
  get := by
    intro key history bindings
    rw [bindings, boundUnder_snoc]
    rfl
  older := fun _ _ _ => (and_iff_left rfl).symm
  nextHandler := Nat.le_refl _
  queue := rfl
  tracker := rfl
  completes := fun _ => rfl
  notVisit := fun _ same => nomatch same
  wellFormed := fun proper => proper
  knowsNumbers := fun _ knows => knows

theorem Gains.alters {key : Subscription} {handler : H} {before after : Subscriber (Numbered H)}
    (gains : Gains key ⟨before.nextHandler, handler⟩ before after) :
    Alters (.bound key before.nextHandler) before after where
  get := by
    intro other history bindings
    rw [gains.get, boundUnder_snoc]
    by_cases here : other = key
    · subst here
      simp [bindings]
    · simp [here, Ne.symm here, bindings]
  older := by
    intro other number isGiven
    rw [gains.mem_get_iff]
    simp [Happening.unbinds, Nat.ne_of_lt isGiven]
  nextHandler := by
    rw [gains.nextHandler]
    exact Nat.le_succ _
  queue := gains.queue
  tracker := gains.tracker
  completes := fun _ => rfl
  notVisit := fun _ same => nomatch same
  wellFormed := gains.wellFormed
  knowsNumbers := by
    intro proper knows number numbered found
    rw [gains.lookup] at found
    rcases Option.or_eq_some_iff.mp found with old | ⟨_, new⟩
    · exact knows number numbered old
    · split at new
      · rename_i isNew
        cases new
        exact isNew.symm
      · cases new

theorem Releases.alters {happening : Happening} {lost : List Subscription}
    {before after : Subscriber (Numbered H)} (releases : Releases lost before after)
    (lostUnbound : ∀ key ∈ lost, happening.unbinds key = true)
    (keptBound : ∀ key, happening.unbinds key = true → key ∉ lost → before.table.get key = [])
    (unbinding : (∃ key, happening = .unbound key) ∨ happening = .unboundAll) :
    Alters happening before after where
  get := by
    intro key history bindings
    have shrinks : boundUnder key (history ++ [happening]) =
        if happening.unbinds key then [] else boundUnder key history := by
      rw [boundUnder_snoc]
      rcases unbinding with ⟨_, rfl⟩ | rfl <;> rfl
    rw [shrinks, releases.get, ← bindings]
    by_cases isLost : key ∈ lost
    · simp [isLost, lostUnbound key isLost]
    · by_cases unbinds : happening.unbinds key = true
      · simp [isLost, unbinds, keptBound key unbinds isLost]
      · simp [isLost, unbinds]
  older := by
    intro key number _
    rw [releases.mem_get_iff]
    constructor
    · rintro ⟨notLost, member⟩
      refine ⟨member, ?_⟩
      cases unbinds : happening.unbinds key with
      | false => rfl
      | true =>
          rw [keptBound key unbinds notLost] at member
          cases member
    · rintro ⟨member, kept⟩
      refine ⟨fun isLost => ?_, member⟩
      rw [lostUnbound key isLost] at kept
      cases kept
  nextHandler := Nat.le_of_eq releases.nextHandler.symm
  queue := releases.queue
  tracker := releases.tracker
  completes := by
    intro number
    rcases unbinding with ⟨_, rfl⟩ | rfl <;> rfl
  notVisit := by
    intro visit isVisit
    rcases unbinding with ⟨_, rfl⟩ | rfl <;> cases isVisit
  wellFormed := releases.wellFormed
  knowsNumbers := by
    intro proper knows number numbered found
    by_cases kept : ∀ key ∈ lost, number ∉ before.table.get key
    · rw [releases.lookup_kept number kept] at found
      exact knows number numbered found
    · simp only [not_forall, Decidable.not_not] at kept
      obtain ⟨key, isLost, member⟩ := kept
      rw [releases.lookup_lost number key isLost member] at found
      cases found

theorem alters_unbind (subscriber : Subscriber (Numbered H)) (bus : GlobalBus)
    (key : Subscription) :
    Alters (.unbound key) subscriber (subscriber.unbind bus key).subscriber := by
  apply (releases_unbind subscriber bus key).alters
  · intro other isLost
    simpa [Happening.unbinds] using (List.mem_singleton.mp isLost).symm
  · intro other unbinds notLost
    simp only [Happening.unbinds, decide_eq_true_eq] at unbinds
    exact absurd (List.mem_singleton.mpr unbinds.symm) notLost
  · exact .inl ⟨key, rfl⟩

theorem alters_unbindAll (subscriber : Subscriber (Numbered H)) (bus : GlobalBus) :
    Alters .unboundAll subscriber (subscriber.unbindAll bus).subscriber := by
  apply (releases_unbindEach subscriber bus subscriber.table.keys).alters
  · exact fun _ _ => rfl
  · intro key _ notLost
    by_cases nothing : subscriber.table.get key = []
    · exact nothing
    · exact absurd (Registry.mem_keys_of_get nothing) notLost
  · exact .inr rfl

end Subscriber

end EventTransport
