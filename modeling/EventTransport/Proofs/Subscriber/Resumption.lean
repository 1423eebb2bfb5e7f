import EventTransport.Proofs.Subscriber.Owing

/-!
Contract: which handlers a step on the queue asks, in terms of what has happened before.

Owns:
- `Life.Sound`, the invariant of a life: its state is the one its history tells of;
- the theorem that an event is handed to the handlers bound when it was first seen, to each of them
  until it is done with it or unbound, and leaves the queue when none of them is left.

The induction is on the calls of a life. Only a step on the queue changes what is owed, so all other
calls are treated alike, by what they leave of the numbers given out before.
-/

namespace EventTransport

namespace Subscriber

variable {H σ : Type}

/-! ### The invariant -/

namespace Life

/-- In the middle of an event: it is at the front, tracked, and owed to somebody. -/
def Resumes (life : Life H σ) (before since : List Happening) : Prop :=
  ∃ event rest, life.subscriber.queue = event :: rest ∧
    life.subscriber.tracker.isSome = true ∧ Owes life.subscriber event before since

/-- The state is the one of which the history tells. -/
structure Sound (life : Life H σ) : Prop where
  proper : life.subscriber.WellFormed
  knowsNumbers : life.subscriber.KnowsNumbers
  bindings : ∀ key, life.subscriber.table.get key = boundUnder key life.history
  tracked : life.subscriber.tracker.isSome = true ↔ lastProgress life.history = some .pending
  resumes : ∀ before since, life.history = before ++ since → since ≠ [] →
    InProgress before since → life.Resumes before since

theorem sound_start (id : SubscriberId) (around : Surroundings σ) :
    (start id around : Life H σ).Sound where
  proper := by
    constructor <;> simp [start, Registry.get_empty]
  knowsNumbers := by
    intro number numbered found
    cases found
  bindings := fun _ => rfl
  tracked := by simp [start, lastProgress]
  resumes := by
    intro before since split begun
    exact absurd (List.append_eq_nil_iff.mp split.symm).2 begun

/-- A call other than a step on the queue keeps the invariant. -/
theorem Sound.alters {life after : Life H σ} {happening : Happening} (sound : life.Sound)
    (recorded : after.history = life.history ++ [happening])
    (alters : Alters happening life.subscriber after.subscriber) : after.Sound where
  proper := alters.wellFormed sound.proper
  knowsNumbers := alters.knowsNumbers sound.proper sound.knowsNumbers
  bindings := by
    intro key
    rw [recorded]
    exact alters.get key life.history (sound.bindings key)
  tracked := by
    have same : lastProgress (life.history ++ [happening]) = lastProgress life.history := by
      rw [lastProgress_snoc]
      cases happening with
      | processed visit => exact absurd rfl (alters.notVisit visit)
      | _ => rfl
    rw [recorded, same, alters.tracker]
    exact sound.tracked
  resumes := by
    intro before since split begun inProgress
    rw [recorded] at split
    obtain ⟨earlier, rfl, splitBefore⟩ := exists_of_snoc split begun
    have begunBefore : earlier ≠ [] := by
      rintro rfl
      obtain ⟨visit, isVisit⟩ := inProgress.begins happening rfl
      exact alters.notVisit visit isVisit
    obtain ⟨event, rest, front, tracked, owes⟩ :=
      sound.resumes before earlier splitBefore begunBefore inProgress.of_snoc
    obtain ⟨tracker, isTracker⟩ := Option.isSome_iff_exists.mp tracked
    refine ⟨event, rest, alters.queue.trans front, ?_, owes.between alters sound.proper isTracker⟩
    rw [alters.tracker]
    exact tracked

/-- Emptying the mailbox keeps the invariant. -/
theorem Sound.collect {life : Life H σ} (sound : life.Sound) : life.collect.Sound where
  proper := ⟨sound.proper.given, sound.proper.once, sound.proper.apart, sound.proper.held,
    sound.proper.trackerGiven⟩
  knowsNumbers := sound.knowsNumbers
  bindings := sound.bindings
  tracked := sound.tracked
  resumes := by
    intro before since split begun inProgress
    obtain ⟨event, rest, front, tracked, owes⟩ := sound.resumes before since split begun inProgress
    refine ⟨event, rest ++ life.around.mail.waiting life.subscriber.id.serial, ?_, tracked, ?_⟩
    · show life.subscriber.queue ++ _ = _
      rw [front]
      rfl
    · exact ⟨owes.given, owes.once, owes.bound, owes.owed, owes.nothing, owes.earlier⟩

/-- What a step on the queue finds at the front is owed as the history tells. -/
theorem Sound.owes {life : Life H σ} (sound : life.Sound) {before since : List Happening}
    (split : life.history = before ++ since) (inProgress : InProgress before since) {event : Event}
    {rest : List Event} (front : life.subscriber.queue = event :: rest) :
    Owes life.subscriber event before since := by
  by_cases begun : since = []
  · subst begun
    rw [List.append_nil] at split
    have untracked : life.subscriber.tracker = none := by
      cases isTracked : life.subscriber.tracker with
      | none => rfl
      | some tracker =>
          have pending := sound.tracked.mp (by rw [isTracked]; rfl)
          rw [split] at pending
          exact absurd pending inProgress.firstSight
    rw [← split]
    exact .first sound.proper sound.bindings untracked event
  · obtain ⟨other, otherRest, otherFront, _, owes⟩ :=
      sound.resumes before since split begun inProgress
    rw [front] at otherFront
    cases otherFront
    exact owes

/-- With nothing queued, nothing is tracked. -/
theorem Sound.untracked {life : Life H σ} (sound : life.Sound)
    (nothing : life.subscriber.queue = []) : life.subscriber.tracker.isSome = false := by
  rw [Bool.eq_false_iff]
  intro isTracked
  obtain ⟨before, since, split, inProgress⟩ := exists_inProgress life.history
  have pending := sound.tracked.mp isTracked
  have begun : since ≠ [] := by
    rintro rfl
    rw [split, List.append_nil] at pending
    exact inProgress.firstSight pending
  obtain ⟨event, rest, front, _⟩ := sound.resumes before since split begun inProgress
  rw [nothing] at front
  cases front

/-- A step that does not leave its event pending leaves nothing in progress. -/
theorem Sound.settled {life after : Life H σ} {visit : Visit} (sound : life.Sound)
    (recorded : after.history = life.history ++ [.processed visit])
    (same : SameBindings life.subscriber after.subscriber)
    (untracked : after.subscriber.tracker.isSome = false) (settled : visit.progress ≠ .pending) :
    after.Sound where
  proper := by
    apply same.wellFormed sound.proper
    intro tracker isTracker
    rw [isTracker] at untracked
    cases untracked
  knowsNumbers := same.knowsNumbers sound.knowsNumbers
  bindings := by
    intro key
    rw [recorded, boundUnder_snoc, same.table]
    exact sound.bindings key
  tracked := by
    rw [recorded, lastProgress_snoc, untracked]
    simpa using settled
  resumes := by
    intro before since split begun inProgress
    rw [recorded] at split
    obtain ⟨earlier, rfl, _⟩ := exists_of_snoc split begun
    exact absurd (inProgress.unsettled visit (by simp)) settled

/-- A step that leaves its event pending leaves it in progress. -/
theorem Sound.pending {life after : Life H σ} {visit : Visit} {event : Event} {rest : List Event}
    (sound : life.Sound) (recorded : after.history = life.history ++ [.processed visit])
    (front : life.subscriber.queue = event :: rest)
    (someHandler : life.subscriber.owed event ≠ [])
    (numbers : visit.asked.map Asked.number =
      (life.subscriber.owed event).filter life.subscriber.isHeld)
    (notAll : stillOwed visit.asked ≠ []) (found : visit.found.head? = some event)
    (isPending : visit.progress = .pending)
    (state : after.subscriber =
      { life.subscriber with tracker := some (stillOwed visit.asked) }) : after.Sound where
  proper := by
    have same : SameBindings life.subscriber after.subscriber := by
      rw [state]
      exact ⟨rfl, rfl, rfl⟩
    apply same.wellFormed sound.proper
    intro tracker isTracker number isTracked
    rw [state] at isTracker
    cases isTracker
    -- Whoever was asked is bound, and so has a number that was given out.
    have isAsked : number ∈ visit.asked.map Asked.number :=
      (List.filter_sublist.map Asked.number).subset isTracked
    rw [numbers] at isAsked
    obtain ⟨key, member⟩ := (sound.proper.held number).mp (List.mem_filter.mp isAsked).2
    exact sound.proper.given key number member
  knowsNumbers := by
    rw [state]
    exact sound.knowsNumbers
  bindings := by
    intro key
    rw [recorded, boundUnder_snoc, state]
    exact sound.bindings key
  tracked := by
    rw [recorded, lastProgress_snoc, state]
    exact ⟨fun _ => congrArg some isPending, fun _ => rfl⟩
  resumes := by
    intro before since split begun inProgress
    rw [recorded] at split
    obtain ⟨earlier, rfl, splitBefore⟩ := exists_of_snoc split begun
    have owes := sound.owes splitBefore inProgress.of_snoc front
    unfold Resumes
    rw [state]
    exact ⟨event, rest, front, rfl, owes.pending numbers someHandler notAll found⟩

/-- A step on the queue keeps the invariant. -/
theorem Sound.visit (ask : H → Event → StateM (Surroundings σ) Bool) {life : Life H σ}
    (sound : life.Sound) : (life.visit ask).2.Sound := by
  have visits := life.visits_visit ask sound.knowsNumbers
  have recorded : (life.visit ask).2.history =
      life.collect.history ++ [.processed (life.visit ask).1] := rfl
  have ready := sound.collect
  generalize life.collect = before at visits recorded ready
  generalize (life.visit ask).2 = after at visits recorded ⊢
  generalize (life.visit ask).1 = visit at visits recorded
  generalize isState : after.subscriber = state at visits
  cases visits with
  | idle nothing =>
      apply ready.settled recorded (by rw [isState]; exact ⟨rfl, rfl, rfl⟩) _ (by simp)
      rw [isState]
      exact ready.untracked nothing
  | undeliverable front noHandler =>
      apply ready.settled recorded (by rw [isState]; exact ⟨rfl, rfl, rfl⟩) _ (by simp)
      rw [isState]
      rfl
  | settled front someHandler numbers events allDone =>
      apply ready.settled recorded (by rw [isState]; exact ⟨rfl, rfl, rfl⟩) _ (by simp)
      rw [isState]
      rfl
  | pending front someHandler numbers events notAll =>
      exact ready.pending recorded front someHandler numbers notAll rfl rfl isState

/-- Every call keeps the invariant. -/
theorem Sound.step (ask : H → Event → StateM (Surroundings σ) Bool) {life : Life H σ}
    (sound : life.Sound) (call : Call H σ) : (life.step ask call).Sound := by
  cases call with
  | bind key handler => exact sound.alters rfl (gains_bind ..).alters
  | unbind key => exact sound.alters rfl (alters_unbind ..)
  | unbindAll => exact sound.alters rfl (alters_unbindAll ..)
  | process => exact sound.visit ask
  | count => exact sound.collect.alters rfl (alters_aside _)
  | hook event => exact sound.alters rfl (alters_aside _)
  | update => exact sound.alters rfl (alters_aside _)
  | arrive event => exact sound.alters rfl (alters_aside _)
  | elsewhere change => exact sound.alters rfl (alters_aside _)

/-- Every run keeps the invariant. -/
theorem Sound.run (ask : H → Event → StateM (Surroundings σ) Bool) {life : Life H σ}
    (sound : life.Sound) (calls : List (Call H σ)) : (life.run ask calls).Sound := by
  induction calls generalizing life with
  | nil => exact sound
  | cons call calls inductionHypothesis => exact inductionHypothesis (sound.step ask call)

end Life

/-! ### Resumption -/

/-- What a step does about the event that it finds, in terms of what is owed. -/
theorem Owes.visited {subscriber after : Subscriber H} {visit : Visit} {event : Event}
    {rest : List Event} {before since : List Happening}
    (owes : Owes subscriber event before since) (visits : Visits subscriber visit after)
    (found : visit.found = event :: rest) :
    let members := boundFor event.uid before
    (members = [] → visit.asked = [] ∧ visit.progress = .undeliverable ∧ visit.left = rest) ∧
    (members ≠ [] →
      visit.asked.map Asked.number = (members.filter (isOwedStill since)).map Prod.snd ∧
      (∀ answer ∈ visit.asked, answer.event = event) ∧
      (visit.progress, visit.left) =
        if visit.asked.all Asked.isDone then (.done, rest) else (.pending, event :: rest)) := by
  intro members
  cases visits with
  | idle nothing => cases found
  | undeliverable front noHandler =>
      cases found
      have noMember : members = [] := owes.nothing.mp noHandler
      exact ⟨fun _ => ⟨rfl, rfl, rfl⟩, fun someMember => absurd noMember someMember⟩
  | settled front someHandler numbers events allDone =>
      cases found
      refine ⟨fun none => absurd (owes.nothing.mpr none) someHandler, fun _ => ?_⟩
      exact ⟨owes.numbers_asked numbers, events, by rw [if_pos (stillOwed_eq_nil_iff.mp allDone)]⟩
  | pending front someHandler numbers events notAll =>
      cases found
      refine ⟨fun none => absurd (owes.nothing.mpr none) someHandler, fun _ => ?_⟩
      have someoneNot := mt stillOwed_eq_nil_iff.mpr notAll
      exact ⟨owes.numbers_asked numbers, events, by rw [if_neg someoneNot]⟩

/-- **An event is handed to the handlers bound when it was first seen.** In every run, a step on the
queue that finds an event at the front asks those of them that are still owed it, once each, in the
order of binding and about this event; it removes the event if all of them are done, and otherwise
leaves it where it is. Without such handlers the event is dropped. Every history tells when the
event was first seen. -/
theorem visit_resumes (ask : H → Event → StateM (Surroundings σ) Bool) (id : SubscriberId)
    (around : Surroundings σ) (calls : List (Call H σ)) {event : Event} {rest : List Event}
    (found : (((Life.start id around).run ask calls).visit ask).1.found = event :: rest) :
    let life := (Life.start id around).run ask calls
    let visit := (life.visit ask).1
    (∃ before since, life.history = before ++ since ∧ InProgress before since) ∧
    ∀ before since, life.history = before ++ since → InProgress before since →
      let members := boundFor event.uid before
      (∀ earlier, .processed earlier ∈ since → earlier.found.head? = some event) ∧
      (members.map Prod.snd).Nodup ∧
      (members = [] → visit.asked = [] ∧ visit.progress = .undeliverable ∧ visit.left = rest) ∧
      (members ≠ [] →
        visit.asked.map Asked.number = (members.filter (isOwedStill since)).map Prod.snd ∧
        (∀ answer ∈ visit.asked, answer.event = event) ∧
        (visit.progress, visit.left) =
          if visit.asked.all Asked.isDone then (.done, rest) else (.pending, event :: rest)) := by
  intro life visit
  have sound : life.Sound := (Life.sound_start id around).run ask calls
  refine ⟨exists_inProgress life.history, ?_⟩
  intro before since recorded inProgress members
  have visits := life.visits_visit ask sound.knowsNumbers
  have ready := sound.collect
  have front : life.collect.subscriber.queue = event :: rest := found
  have owes := ready.owes recorded inProgress front
  obtain ⟨dropped, asked⟩ := owes.visited visits found
  exact ⟨owes.earlier, owes.once, dropped, asked⟩

/-- A handler that is done once so many questions have been asked. -/
def askPatient (patience : Nat) (_ : Event) : StateM (Surroundings Nat) Bool := fun around =>
  (decide (patience ≤ around.memory), { around with memory := around.memory + 1 })

/-- Of three handlers one is done at once and one is unbound; the handler bound in its place has not
seen the event arrive, and is not asked about it. -/
theorem visit_resumes_of_rebound :
    let event : Event := { uid := ⟨7⟩ }
    let own : Subscription := .uid ⟨7⟩
    let around : Surroundings Nat := ⟨GlobalBus.empty, Mailboxes.empty.openBox 0, 0⟩
    let calls : List (Call Nat Nat) :=
      [.bind own 9, .bind .all 0, .bind .all 9, .arrive event, .process, .unbind own, .bind own 0]
    let visit := (((Life.start ⟨0, "reader"⟩ around).run askPatient calls).visit askPatient).1
    visit.asked.map Asked.number = [2] ∧ visit.progress = .pending ∧ visit.left = [event] := by
  intro event own around calls visit
  let seen : Visit :=
    { found := [event]
      asked := [⟨0, event, false⟩, ⟨1, event, true⟩, ⟨2, event, false⟩]
      progress := .pending
      left := [event] }
  have inProgress :
      InProgress [.bound own 0, .bound .all 1, .bound .all 2, .aside]
        [.processed seen, .unbound own, .bound own 3] := by
    refine ⟨by decide, ?_, ?_⟩
    · intro happening isFirst
      exact ⟨seen, (Option.some.inj isFirst).symm⟩
    · intro other member
      simp only [List.mem_cons, Happening.processed.injEq, reduceCtorEq, List.not_mem_nil,
        or_false] at member
      rw [member]
  have found : visit.found = [event] := by decide +kernel
  obtain ⟨_, resumes⟩ := visit_resumes askPatient ⟨0, "reader"⟩ around calls found
  obtain ⟨_, _, _, asks⟩ := resumes _ _ (by decide +kernel) inProgress
  obtain ⟨numbers, _, outcome⟩ := asks (by decide)
  have notAll : visit.asked.all Asked.isDone = false := by decide +kernel
  rw [if_neg (Bool.eq_false_iff.mp notAll)] at outcome
  obtain ⟨progress, left⟩ := Prod.mk.inj outcome
  exact ⟨numbers.trans (by decide), progress, left⟩

end Subscriber

end EventTransport
