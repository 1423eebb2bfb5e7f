import EventTransport.Proofs.Subscriber.Life

/-!
Contract: what one step on the queue of a subscriber does.

Owns:
- `Subscriber.Visits`, everything a step can do, handler calls included;
- `Life.visits_visit`, every step of a life is of one of its kinds.

Does not own: how one step follows from the steps before it.
-/

namespace EventTransport

namespace Subscriber

variable {H σ : Type}

/-- Every bound handler knows the number it was bound as. -/
def KnowsNumbers (subscriber : Subscriber (Numbered H)) : Prop :=
  ∀ number numbered, subscriber.handlers.lookup number = some numbered → numbered.number = number

/-- Whether a number stands for a bound handler. -/
def isHeld (subscriber : Subscriber H) (number : HandlerNumber) : Bool :=
  (subscriber.handlers.lookup number).isSome

/-- The handlers that were asked and are not done. -/
def stillOwed (asked : List Asked) : List HandlerNumber :=
  (asked.filter fun answer => !answer.isDone).map Asked.number

theorem stillOwed_eq_nil_iff {asked : List Asked} :
    stillOwed asked = [] ↔ asked.all Asked.isDone = true := by
  simp [stillOwed]

/-- Everything that a step on the queue can do. -/
inductive Visits (before : Subscriber H) : Visit → Subscriber H → Prop where
  | idle (nothing : before.queue = []) :
    Visits before { found := [], asked := [], progress := .idle, left := [] } before
  | undeliverable {event : Event} {rest : List Event} (front : before.queue = event :: rest)
    (noHandler : before.owed event = []) :
    Visits before { found := event :: rest, asked := [], progress := .undeliverable, left := rest }
      before.advance
  | settled {event : Event} {rest : List Event} {asked : List Asked}
    (front : before.queue = event :: rest) (someHandler : before.owed event ≠ [])
    (numbers : asked.map Asked.number = (before.owed event).filter before.isHeld)
    (events : ∀ answer ∈ asked, answer.event = event) (allDone : stillOwed asked = []) :
    Visits before { found := event :: rest, asked := asked, progress := .done, left := rest }
      before.advance
  | pending {event : Event} {rest : List Event} {asked : List Asked}
    (front : before.queue = event :: rest) (someHandler : before.owed event ≠ [])
    (numbers : asked.map Asked.number = (before.owed event).filter before.isHeld)
    (events : ∀ answer ∈ asked, answer.event = event) (notAll : stillOwed asked ≠ []) :
    Visits before
      { found := event :: rest, asked := asked, progress := .pending, left := event :: rest }
      { before with tracker := some (stillOwed asked) }

/-- The numbered handlers that are bound are asked once each, in order, and those that are not done
are kept. -/
theorem visit_record (ask : H → Event → StateM (Surroundings σ) Bool)
    {handlers : List (HandlerNumber × Numbered H)}
    (knowsNumbers : ∀ number numbered, handlers.lookup number = some numbered →
      numbered.number = number)
    (event : Event) (numbers : List HandlerNumber) (around : Surroundings σ) (log : List Asked) :
    ∃ asked after,
      (visit (record ask) handlers event numbers).run (around, log) =
        (stillOwed asked, after, log ++ asked) ∧
      asked.map Asked.number =
        numbers.filter (fun number => (handlers.lookup number).isSome) ∧
      ∀ answer ∈ asked, answer.event = event := by
  induction numbers generalizing around log with
  | nil => exact ⟨[], around, by rw [List.append_nil]; rfl, rfl, by simp⟩
  | cons number numbers inductionHypothesis =>
      cases bound : handlers.lookup number with
      | none =>
          obtain ⟨asked, after, outcome, asksBound, asksAbout⟩ := inductionHypothesis around log
          refine ⟨asked, after, ?_, ?_, asksAbout⟩
          · rw [visit, bound]
            exact outcome
          · rw [List.filter_cons_of_neg (by simp [bound])]
            exact asksBound
      | some numbered =>
          let answer := ask numbered.handler event around
          let first : Asked := ⟨numbered.number, event, answer.1⟩
          obtain ⟨asked, after, outcome, asksBound, asksAbout⟩ :=
            inductionHypothesis answer.2 (log ++ [first])
          refine ⟨first :: asked, after, ?_, ?_, ?_⟩
          · have step : (visit (record ask) handlers event (number :: numbers)).run (around, log) =
                let later := (visit (record ask) handlers event numbers).run
                  (answer.2, log ++ [first])
                (if answer.1 then later.1 else number :: later.1, later.2) := by
              rw [visit, bound]
              rfl
            rw [step, outcome, List.append_assoc]
            have same : numbered.number = number := knowsNumbers number numbered bound
            cases isDone : answer.1 <;> simp [stillOwed, first, isDone, same]
          · have same : first.number = number := knowsNumbers number numbered bound
            rw [List.filter_cons_of_pos (by simp [bound]), List.map_cons, asksBound, same]
          · intro other member
            rcases List.mem_cons.mp member with rfl | later
            · rfl
            · exact asksAbout other later

theorem visits_process (ask : H → Event → StateM (Surroundings σ) Bool)
    (subscriber : Subscriber (Numbered H)) (knowsNumbers : subscriber.KnowsNumbers)
    (around : Surroundings σ) :
    let outcome := (subscriber.process (record ask)).run (around, [])
    Visits subscriber
      { found := subscriber.queue
        asked := outcome.2.2
        progress := outcome.1.progress
        left := outcome.1.subscriber.queue }
      outcome.1.subscriber := by
  obtain ⟨id, queue, handlers, table, tracker, nextHandler⟩ := subscriber
  cases queue with
  | nil => exact .idle rfl
  | cons event rest =>
      generalize isReady : Subscriber.mk id (event :: rest) handlers table tracker
        nextHandler = ready
        at knowsNumbers
      have front : ready.queue = event :: rest := by rw [← isReady]
      have behind : ready.advance.queue = rest := by rw [← isReady]; rfl
      by_cases noHandler : ready.owed event = []
      · have outcome : (ready.process (record ask)).run (around, []) =
            ({ subscriber := ready.advance, progress := .undeliverable,
               warnings := [.undeliverable ready.id event.uid] }, around, []) := by
          unfold process
          simp only [front, noHandler]
          rfl
        simp only [outcome, front, behind]
        exact .undeliverable front noHandler
      · obtain ⟨asked, after, visited, asksBound, asksAbout⟩ :=
          visit_record ask knowsNumbers event (ready.owed event) around []
        have outcome : (ready.process (record ask)).run (around, []) =
            (ready.settle (stillOwed asked), after, asked) := by
          have notEmpty : (ready.owed event).isEmpty = false := by simpa using noHandler
          have steps : (ready.process (record ask)).run (around, []) =
              let visited :=
                (visit (record ask) ready.handlers event (ready.owed event)).run (around, [])
              (ready.settle visited.1, visited.2) := by
            unfold process
            simp only [front, notEmpty]
            rfl
          rw [steps, visited]
          rfl
        simp only [outcome]
        by_cases allDone : stillOwed asked = []
        · have settled : ready.settle (stillOwed asked) =
              { subscriber := ready.advance, progress := .done } := by simp [settle, allDone]
          simp only [settled, front, behind]
          exact .settled front noHandler asksBound asksAbout allDone
        · have settled : ready.settle (stillOwed asked) =
              { subscriber := { ready with tracker := some (stillOwed asked) }
                progress := .pending } := by simp [settle, allDone]
          simp only [settled, front]
          exact front ▸ .pending front noHandler asksBound asksAbout allDone

/-- Every step of a life on its queue is of one of the kinds above. -/
theorem Life.visits_visit (ask : H → Event → StateM (Surroundings σ) Bool) (life : Life H σ)
    (knowsNumbers : life.subscriber.KnowsNumbers) :
    Visits life.collect.subscriber (life.visit ask).1 (life.visit ask).2.subscriber :=
  visits_process ask life.collect.subscriber knowsNumbers life.collect.around

end Subscriber

end EventTransport
