import EventTransport.Proofs.Subscriber.Coherence

/-!
Contract: whom a subscriber tracks, and for which event.

Owns:
- `Life.Builds`, when and of whom a tracker was made;
- that every tracker of a run was made for the event at the front, and that nobody is asked who has
  been unbound.

The induction is from the end of a run: a call makes a tracker, keeps some of one, or leaves none.

Does not own: which of the handlers that are owed an event are asked about it.
-/

namespace EventTransport

namespace Subscriber

variable {H σ : Type}

/-! ### Where a tracker comes from -/

/-- A tracker was made in the step that came after `seen`, of those who were bound then for the
event that the step found at the front. The event is there still: no step from then on has taken one
from the queue. -/
structure Life.Builds (seen now : Life H σ) (event : Event) (tracker : List HandlerNumber) :
    Prop where
  untracked : seen.subscriber.tracker = none
  front : seen.subscriber.queue.head? = some event
  ordered : tracker.Sublist (seen.subscriber.table.route event.uid)
  remains : seen.subscriber.queue <+: now.subscriber.queue
  kept : ∃ since, now.history = seen.history ++ since ∧
    ∀ visit, .processed visit ∈ since → visit.found.head? = some event ∧ visit.left = visit.found

namespace Life.Builds

variable {seen now after : Life H σ} {event : Event} {tracker fewer : List HandlerNumber}

theorem head_of_isPrefix (builds : seen.Builds now event tracker) {queue : List Event}
    (grows : now.subscriber.queue <+: queue) : queue.head? = some event := by
  obtain ⟨more, split⟩ := builds.remains.trans grows
  rw [← split, List.head?_append, builds.front]
  rfl

/-- What has begun goes on as long as nothing is taken from the queue. -/
theorem goesOn (builds : seen.Builds now event tracker) (shrinks : fewer.Sublist tracker)
    {happening : Happening} (recorded : after.history = now.history ++ [happening])
    (grows : now.subscriber.queue <+: after.subscriber.queue)
    (keeps : ∀ visit, happening = .processed visit →
      visit.found.head? = some event ∧ visit.left = visit.found) :
    seen.Builds after event fewer where
  untracked := builds.untracked
  front := builds.front
  ordered := shrinks.trans builds.ordered
  remains := builds.remains.trans grows
  kept := by
    obtain ⟨since, history, kept⟩ := builds.kept
    refine ⟨since ++ [happening], by rw [recorded, history, List.append_assoc], ?_⟩
    intro visit member
    rcases List.mem_append.mp member with old | new
    · exact kept visit old
    · exact keeps visit (List.mem_singleton.mp new).symm

end Life.Builds

section

variable (ask : H → Event → StateM (Surroundings σ) (Option Bool))

/-- Every tracker was made by a step of the run, for the event that is at the front. -/
theorem exists_builds (id : SubscriberId) (around : Surroundings σ) (calls : List (Call H σ))
    {tracker : List HandlerNumber}
    (isTracker : ((Life.start id around).runMortal ask calls).subscriber.tracker = some tracker) :
    ∃ front back event, calls = front ++ .process :: back ∧
      ((Life.start id around).runMortal ask front).collect.Builds
        ((Life.start id around).runMortal ask calls) event tracker := by
  induction calls using List.reverseRecOn generalizing tracker with
  | nil => cases isTracker
  | append_singleton calls call inductionHypothesis =>
      have steady := steady_run ask (steady_start (H := H) id around) calls
      rw [runMortal_snoc] at isTracker ⊢
      have turns := Life.turns_stepMortal ask steady.knowsNumbers call
      generalize Life.stepMortal ask _ call = after at turns isTracker ⊢
      generalize now : (Life.start id around).runMortal ask calls = life
        at steady turns inductionHypothesis
      have collects : life.subscriber.queue <+: life.collect.subscriber.queue :=
        List.prefix_append ..
      cases turns with
      | @reshaped _ ready _ happening isReady reshapes recorded =>
          rw [reshapes.tracker] at isTracker
          have same : ready.subscriber.tracker = life.subscriber.tracker ∧
              life.subscriber.queue <+: ready.subscriber.queue := by
            rcases isReady with rfl | rfl
            · exact ⟨rfl, List.prefix_rfl⟩
            · exact ⟨rfl, collects⟩
          obtain ⟨front, back, event, split, builds⟩ := inductionHypothesis (same.1 ▸ isTracker)
          refine ⟨front, back ++ [call], event, by rw [split]; simp, ?_⟩
          refine builds.goesOn (List.Sublist.refl _) recorded (reshapes.queue ▸ same.2) ?_
          exact fun visit isVisit => absurd isVisit (reshapes.notVisit visit)
      | @attempted visit _ attempts recorded =>
          obtain ⟨event, rest, front, queue, found, left, -, ordered⟩ :=
            attempts.tracks (fun _ old => (steady.collect.tracked _ old).2.2) isTracker
          have fewer := ordered.trans List.filter_sublist
          cases tracked : life.subscriber.tracker with
          | none =>
              -- This very step has made it.
              have owed : life.collect.subscriber.owed event =
                  life.collect.subscriber.table.route event.uid := by
                show life.subscriber.tracker.getD _ = _
                rw [tracked]
                rfl
              refine ⟨calls, [], event, rfl, ?_⟩
              rw [now]
              refine ⟨tracked, by rw [front]; rfl, owed ▸ fewer, queue ▸ List.prefix_rfl,
                [_], recorded, ?_⟩
              intro other member
              cases List.mem_singleton.mp member
              exact ⟨by rw [found, front]; rfl, left.trans found.symm⟩
          | some old =>
              obtain ⟨earlier, back, same, split, builds⟩ := inductionHypothesis tracked
              have owed : life.collect.subscriber.owed event = old := by
                show life.subscriber.tracker.getD _ = _
                rw [tracked]
                rfl
              refine ⟨earlier, back ++ [.process], same, by rw [split]; simp, ?_⟩
              refine builds.goesOn (owed ▸ fewer) recorded (queue ▸ collects) ?_
              rintro other isVisit
              cases isVisit
              exact ⟨found ▸ builds.head_of_isPrefix collects, left.trans found.symm⟩

/-! ### Who is unbound -/

/-- A number that was given out, and stands for nobody any more. -/
def Gone (subscriber : Subscriber H) (number : HandlerNumber) : Prop :=
  number < subscriber.nextHandler ∧ ∀ key, number ∉ subscriber.table.get key

/-- Nothing that was asked by this was asked of a number. -/
def Happening.spares (number : HandlerNumber) (happening : Happening) : Prop :=
  ∀ visit, happening = .processed visit → ∀ answer ∈ visit.asked, answer.number ≠ number

/-- Who is gone stays gone, and is not asked. -/
theorem Turns.gone {before after : Life H σ} {call : Call H σ} {number : HandlerNumber}
    (turns : Turns before call after) (steady : before.subscriber.Steady)
    (gone : before.subscriber.Gone number) :
    after.subscriber.Gone number ∧
      ∃ happening, after.history = before.history ++ [happening] ∧ happening.spares number := by
  cases turns with
  | @reshaped _ ready _ happening isReady reshapes recorded =>
      have readyGone : ready.subscriber.Gone number := by
        rcases isReady with rfl | rfl <;> exact gone
      refine ⟨⟨Nat.lt_of_lt_of_le readyGone.1 reshapes.nextHandler, fun key member => ?_⟩,
        happening,
        recorded, fun visit isVisit => absurd isVisit (reshapes.notVisit visit)⟩
      exact readyGone.2 key ((reshapes.older key number readyGone.1).mp member).1
  | @attempted visit _ attempts recorded =>
      have same := attempts.sameBindings
      refine ⟨⟨same.nextHandler ▸ gone.1, fun key => same.table ▸ gone.2 key⟩, _, recorded, ?_⟩
      rintro other isVisit answer member rfl
      cases isVisit
      obtain ⟨-, -, -, -, -, isHeld⟩ := attempts.asked member
      obtain ⟨key, inKey⟩ := (steady.proper.held answer.number).mp isHeld
      exact gone.2 key inKey

theorem gone_run {life : Life H σ} {number : HandlerNumber} (steady : life.subscriber.Steady)
    (gone : life.subscriber.Gone number) (later : List (Call H σ)) :
    ∃ since, (life.runMortal ask later).history = life.history ++ since ∧
      ∀ happening ∈ since, happening.spares number := by
  induction later generalizing life with
  | nil => exact ⟨[], (List.append_nil _).symm, fun _ none => nomatch none⟩
  | cons call later inductionHypothesis =>
      have turns := Life.turns_stepMortal ask steady.knowsNumbers call
      obtain ⟨stillGone, happening, recorded, spared⟩ := turns.gone steady gone
      obtain ⟨since, history, spares⟩ := inductionHypothesis (turns.steady steady) stillGone
      refine ⟨happening :: since, ?_, List.forall_mem_cons.mpr ⟨spared, spares⟩⟩
      exact history.trans (by rw [recorded, List.append_assoc]; rfl)

/-- Whose key is unbound is gone. -/
theorem gone_of_release {life : Life H σ} (steady : life.subscriber.Steady) {key : Subscription}
    {number : HandlerNumber} (member : number ∈ life.subscriber.table.get key) {release : Call H σ}
    (unbinds : release = .unbind key ∨ release = .unbindAll) :
    (life.stepMortal ask release).subscriber.Gone number := by
  have given := steady.proper.given key number member
  rcases unbinds with rfl | rfl
  · have releases := releases_unbind life.subscriber life.around.bus key
    refine ⟨releases.nextHandler ▸ given, fun other still => ?_⟩
    obtain ⟨notLost, inOther⟩ := releases.mem_get_iff.mp still
    exact notLost (List.mem_singleton.mpr (steady.proper.apart inOther member))
  · have releases :=
      releases_unbindEach life.subscriber life.around.bus life.subscriber.table.keys
    refine ⟨releases.nextHandler ▸ given, fun other still => ?_⟩
    obtain ⟨notLost, inOther⟩ := releases.mem_get_iff.mp still
    exact notLost (Registry.mem_keys_of_get (List.ne_nil_of_mem inOther))

/-- **Table, handlers, tracker and queue are kept in step.** After every run, whatever handlers do
and whether or not they die of it, no key is held without a number, and the numbers in the table are
those of the handlers, each there once and given out before; numbers are given out one after the
other, and so none a second time. Whoever is tracked is tracked once and in the order in which the
tracker was made, which a step of the run did for the event that is at the front now, and has been
there since. A step asks only handlers that are bound and owed the event at the front, and only
about it. Who has been unbound is never asked again. -/
theorem kept_in_step (id : SubscriberId) (around : Surroundings σ) (calls : List (Call H σ)) :
    let start : Life H σ := .start id around
    let life := start.runMortal ask calls
    life.subscriber.Coherent ∧
    life.history.flatMap Happening.given = List.range life.subscriber.nextHandler ∧
    (∀ tracker, life.subscriber.tracker = some tracker → ∃ front back event,
      calls = front ++ .process :: back ∧ life.subscriber.queue.head? = some event ∧
      (start.runMortal ask front).collect.Builds life event tracker) ∧
    (∀ answer ∈ (life.attempt ask).1.asked, ∃ event rest,
      life.collect.subscriber.queue = event :: rest ∧ answer.event = event ∧
      answer.number ∈ life.subscriber.owed event ∧ life.subscriber.isHeld answer.number = true) ∧
    ∀ key, ∀ number ∈ life.subscriber.table.get key, ∀ release : Call H σ,
      release = .unbind key ∨ release = .unbindAll → ∀ later,
      let released := life.stepMortal ask release
      ∃ since, (released.runMortal ask later).history = released.history ++ since ∧
        ∀ happening ∈ since, happening.spares number := by
  intro start life
  have steady : life.subscriber.Steady := steady_run ask (steady_start id around) calls
  refine ⟨steady.coherent, numbers_run ask id around calls, fun tracker isTracker => ?_,
    fun answer member => ?_, fun key number member release unbinds later => ?_⟩
  · obtain ⟨front, back, event, split, builds⟩ := exists_builds ask id around calls isTracker
    exact ⟨front, back, event, split, builds.head_of_isPrefix List.prefix_rfl, builds⟩
  · exact (life.attempts_attempt ask steady.knowsNumbers).asked member
  · have turns := Life.turns_stepMortal ask steady.knowsNumbers release
    exact gone_run ask (turns.steady steady) (gone_of_release ask steady member unbinds) later

/-- A tracker goes stale on purpose: who has been unbound is tracked until the next step finds it
out. -/
example :
    let event : Event := { uid := ⟨7⟩ }
    let around : Surroundings Nat := ⟨GlobalBus.empty, Mailboxes.empty.openBox 0, 0⟩
    let calls : List (Call Nat Nat) :=
      [.bind (.uid ⟨7⟩) 9, .bind .all 9, .arrive event, .process, .unbind (.uid ⟨7⟩)]
    let life := (Life.start ⟨0, "reader"⟩ around).runMortal (fun _ _ => pure (some false)) calls
    life.subscriber.tracker = some [0, 1] ∧ life.subscriber.handlers.map Prod.fst = [1] := by
  decide +kernel

end

end Subscriber

end EventTransport
