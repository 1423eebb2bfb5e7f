import EventTransport.Proofs.Subscriber.Visiting

/-!
Contract: handlers that may die while they are called.

Owns:
- `Life.attempt` and `Life.stepMortal`, a step on the queue and a call where handlers may die;
- `Subscriber.Attempts`, everything that such a step can do;
- that handlers that do not die make it the step of a life without deaths.

A death cuts the step short in which it happens. The event stays at the front of the queue, and who
was still owed it is forgotten, so that the next step begins with it anew.

Does not own: who catches a death.
-/

namespace EventTransport

namespace Subscriber

variable {H σ : Type}

section Steps

variable (ask : H → Event → StateM (Surroundings σ) (Option Bool))

/-- A handler asked that gives no answer if it dies of it. What it was asked is written down, and
who dies is not done. -/
def recordMortal (numbered : Numbered H) (event : Event) :
    OptionT (StateM (Surroundings σ × List Asked)) Bool := OptionT.mk fun state =>
  let answer := ask numbered.handler event state.1
  (answer.1, answer.2, state.2 ++ [⟨numbered.number, event, answer.1.getD false⟩])

namespace Life

/-- One step on the queue, and what it was about. A step that is cut short leaves the event where it
is and nobody tracked; it is written down as one that leaves its event pending. -/
def attempt (life : Life H σ) : Visit × Life H σ :=
  let ready := life.collect
  let outcome := (ready.subscriber.process (recordMortal ask)).run (ready.around, [])
  let after := outcome.1.getD
    { subscriber := { ready.subscriber with tracker := none }, progress := .pending }
  let visit : Visit :=
    { found := ready.subscriber.queue
      asked := outcome.2.2
      progress := after.progress
      left := after.subscriber.queue }
  (visit,
    { subscriber := after.subscriber
      around := outcome.2.1
      history := life.history ++ [.processed visit] })

/-- One call where handlers may die. -/
def stepMortal (life : Life H σ) : Call H σ → Life H σ
  | .process => (life.attempt ask).2
  -- No other call asks anybody.
  | call => life.step (fun _ _ => pure true) call

/-- Calls one after the other. -/
def runMortal (life : Life H σ) (calls : List (Call H σ)) : Life H σ :=
  calls.foldl (stepMortal ask) life

end Life

end Steps

/-- Handlers that answer in any case; who would have died is not done. -/
def total (ask : H → Event → StateM (Surroundings σ) (Option Bool)) (handler : H) (event : Event) :
    StateM (Surroundings σ) Bool := fun around =>
  let answer := ask handler event around
  (answer.1.getD false, answer.2)

/-- Handlers that do not die. -/
def deathless (ask : H → Event → StateM (Surroundings σ) Bool) (handler : H) (event : Event) :
    StateM (Surroundings σ) (Option Bool) := fun around =>
  let answer := ask handler event around
  (some answer.1, answer.2)

theorem total_deathless (ask : H → Event → StateM (Surroundings σ) Bool) :
    total (deathless ask) = ask := rfl

/-! ### Visits -/

/-- What has no answer is not gone on with. -/
theorem run_bind {S α β : Type} (first : OptionT (StateM S) α) (next : α → OptionT (StateM S) β)
    (state : S) :
    (first >>= next).run state =
      (first.run state).1.elim (none, (first.run state).2) fun value =>
        (next value).run (first.run state).2 := by
  rw [OptionT.run_bind]
  show (first.run state).1.elim (pure none) (fun value => (next value).run) (first.run state).2 = _
  cases (first.run state).1 <;> rfl

section

variable {ask : H → Event → StateM (Surroundings σ) (Option Bool)}
  {handlers : List (HandlerNumber × Numbered H)}

theorem run_visit_of_death (event : Event) {number : HandlerNumber} {numbered : Numbered H}
    (bound : handlers.lookup number = some numbered) (numbers : List HandlerNumber)
    (around : Surroundings σ) (log : List Asked)
    (dies : (ask numbered.handler event around).1 = none) :
    (visit (recordMortal ask) handlers event (number :: numbers)).run (around, log) =
      (none, (ask numbered.handler event around).2, log ++ [⟨numbered.number, event, false⟩]) := by
  have recorded : (recordMortal ask numbered event).run (around, log) =
      (none, (ask numbered.handler event around).2, log ++ [⟨numbered.number, event, false⟩]) := by
    show ((ask numbered.handler event around).1, _, log ++ [Asked.mk _ _ _]) = _
    rw [dies]
    rfl
  rw [visit, bound]
  simp only [run_bind, recorded, Option.elim_none]

theorem run_visit_of_answer (event : Event) {number : HandlerNumber} {numbered : Numbered H}
    (bound : handlers.lookup number = some numbered) (numbers : List HandlerNumber)
    (around : Surroundings σ) (log : List Asked) {isDone : Bool}
    (answers : (ask numbered.handler event around).1 = some isDone) :
    (visit (recordMortal ask) handlers event (number :: numbers)).run (around, log) =
      let later := (visit (recordMortal ask) handlers event numbers).run
        ((ask numbered.handler event around).2, log ++ [⟨numbered.number, event, isDone⟩])
      (later.1.map fun kept => if isDone then kept else number :: kept, later.2) := by
  have recorded : (recordMortal ask numbered event).run (around, log) =
      (some isDone, (ask numbered.handler event around).2,
        log ++ [⟨numbered.number, event, isDone⟩]) := by
    show ((ask numbered.handler event around).1, _, log ++ [Asked.mk _ _ _]) = _
    rw [answers]
    rfl
  rw [visit, bound]
  simp only [run_bind, recorded, Option.elim_some]
  cases ((visit (recordMortal ask) handlers event numbers).run
    ((ask numbered.handler event around).2, log ++ [⟨numbered.number, event, isDone⟩])).1 <;> rfl

/-- A visit in which nobody dies is the visit of handlers that answer in any case. -/
theorem run_visit_of_isSome (event : Event) (numbers : List HandlerNumber) (around : Surroundings σ)
    (log : List Asked)
    (nobodyDies : ((visit (recordMortal ask) handlers event numbers).run (around, log)).1.isSome) :
    (visit (recordMortal ask) handlers event numbers).run (around, log) =
      let visited := (visit (record (total ask)) handlers event numbers).run (around, log)
      (some visited.1, visited.2) := by
  induction numbers generalizing around log with
  | nil => rfl
  | cons number numbers inductionHypothesis =>
      cases bound : handlers.lookup number with
      | none =>
          rw [visit, bound] at nobodyDies ⊢
          rw [visit, bound]
          exact inductionHypothesis around log nobodyDies
      | some numbered =>
          cases answer : (ask numbered.handler event around).1 with
          | none =>
              rw [run_visit_of_death event bound numbers around log answer] at nobodyDies
              cases nobodyDies
          | some isDone =>
              have step : (visit (record (total ask)) handlers event (number :: numbers)).run
                  (around, log) =
                  let later := (visit (record (total ask)) handlers event numbers).run
                    ((ask numbered.handler event around).2,
                      log ++ [⟨numbered.number, event, isDone⟩])
                  (if isDone then later.1 else number :: later.1, later.2) := by
                have answered : isDone = (ask numbered.handler event around).1.getD false := by
                  rw [answer]
                  rfl
                rw [visit, bound, answered]
                rfl
              rw [run_visit_of_answer event bound numbers around log answer] at nobodyDies ⊢
              rw [step, inductionHypothesis _ _ (by simpa using nobodyDies)]
              rfl

/-- Whoever is asked, whether or not somebody dies of it, is one of the numbered handlers that are
bound. -/
theorem asked_of_visit (ask : H → Event → StateM (Surroundings σ) (Option Bool))
    (knowsNumbers : ∀ number numbered, handlers.lookup number = some numbered →
      numbered.number = number) (event : Event) (numbers : List HandlerNumber)
    (around : Surroundings σ) (log : List Asked) :
    ∃ asked, ((visit (recordMortal ask) handlers event numbers).run (around, log)).2.2 =
        log ++ asked ∧
      ∀ answer ∈ asked, answer.event = event ∧
        answer.number ∈ numbers.filter fun number => (handlers.lookup number).isSome := by
  induction numbers generalizing around log with
  | nil => exact ⟨[], (List.append_nil log).symm, fun _ none => nomatch none⟩
  | cons number numbers inductionHypothesis =>
      cases bound : handlers.lookup number with
      | none =>
          rw [visit, bound, List.filter_cons_of_neg (by simp [bound])]
          exact inductionHypothesis around log
      | some numbered =>
          rw [List.filter_cons_of_pos (by simp [bound])]
          have same : numbered.number = number := knowsNumbers number numbered bound
          cases answer : (ask numbered.handler event around).1 with
          | none =>
              rw [run_visit_of_death event bound numbers around log answer]
              refine ⟨_, rfl, fun other member => ?_⟩
              rw [List.mem_singleton.mp member]
              exact ⟨rfl, same ▸ List.mem_cons_self⟩
          | some isDone =>
              rw [run_visit_of_answer event bound numbers around log answer]
              obtain ⟨asked, logged, asks⟩ := inductionHypothesis
                (ask numbered.handler event around).2 (log ++ [⟨numbered.number, event, isDone⟩])
              refine ⟨⟨numbered.number, event, isDone⟩ :: asked, ?_, ?_⟩
              · exact logged.trans (List.append_assoc ..)
              · refine List.forall_mem_cons.mpr
                  ⟨⟨rfl, same ▸ List.mem_cons_self⟩, fun other later => ?_⟩
                exact ⟨(asks other later).1, List.mem_cons_of_mem number (asks other later).2⟩

end

/-! ### Steps -/

/-- Everything that a step on the queue can do where handlers may die. -/
inductive Attempts (before : Subscriber H) : Visit → Subscriber H → Prop where
  | finished {visit : Visit} {after : Subscriber H} (visits : Visits before visit after) :
    Attempts before visit after
  | cutShort {event : Event} {rest : List Event} {asked : List Asked}
    (front : before.queue = event :: rest) (events : ∀ answer ∈ asked, answer.event = event)
    (numbers : ∀ answer ∈ asked, answer.number ∈ (before.owed event).filter before.isHeld) :
    Attempts before
      { found := before.queue, asked := asked, progress := .pending, left := before.queue }
      { before with tracker := none }

section

variable {ask : H → Event → StateM (Surroundings σ) (Option Bool)}

theorem run_process_of_front {subscriber : Subscriber (Numbered H)} {event : Event}
    {rest : List Event} (front : subscriber.queue = event :: rest)
    (someHandler : subscriber.owed event ≠ []) (around : Surroundings σ) :
    (subscriber.process (recordMortal ask)).run (around, []) =
      let visited := (visit (recordMortal ask) subscriber.handlers event
        (subscriber.owed event)).run
        (around, [])
      (visited.1.map subscriber.settle, visited.2) := by
  have notEmpty : (subscriber.owed event).isEmpty = false := by simpa using someHandler
  unfold process
  simp only [front, notEmpty, Bool.false_eq_true, if_false, run_bind]
  cases ((visit (recordMortal ask) subscriber.handlers event (subscriber.owed event)).run
    (around, [])).1 <;> rfl

/-- A step in which nobody dies is the step of handlers that answer in any case. -/
theorem run_process_of_isSome {subscriber : Subscriber (Numbered H)} {around : Surroundings σ}
    (nobodyDies : ((subscriber.process (recordMortal ask)).run (around, [])).1.isSome) :
    (subscriber.process (recordMortal ask)).run (around, []) =
      let processed := (subscriber.process (record (total ask))).run (around, [])
      (some processed.1, processed.2) := by
  cases front : subscriber.queue with
  | nil =>
      unfold process
      simp only [front]
      rfl
  | cons event rest =>
      by_cases noHandler : subscriber.owed event = []
      · unfold process
        simp only [front, noHandler]
        rfl
      · rw [run_process_of_front front noHandler, Option.isSome_map] at nobodyDies
        have notEmpty : (subscriber.owed event).isEmpty = false := by simpa using noHandler
        rw [run_process_of_front front noHandler, run_visit_of_isSome event _ around [] nobodyDies]
        unfold process
        simp only [front, notEmpty]
        rfl

theorem front_of_death {subscriber : Subscriber (Numbered H)} {around : Surroundings σ}
    (death : ((subscriber.process (recordMortal ask)).run (around, [])).1 = none) :
    ∃ event rest, subscriber.queue = event :: rest ∧ subscriber.owed event ≠ [] := by
  cases front : subscriber.queue with
  | nil =>
      unfold process at death
      simp only [front] at death
      cases death
  | cons event rest =>
      refine ⟨event, rest, rfl, fun noHandler => ?_⟩
      unfold process at death
      simp only [front, noHandler] at death
      cases death

namespace Life

theorem attempt_of_isSome {life : Life H σ}
    (nobodyDies : ((life.collect.subscriber.process (recordMortal ask)).run
      (life.collect.around, [])).1.isSome) :
    life.attempt ask = life.visit (total ask) := by
  unfold attempt visit
  dsimp only
  rw [run_process_of_isSome nobodyDies]
  rfl

/-- Every step of a life on its queue is of one of the kinds above. -/
theorem attempts_attempt (ask : H → Event → StateM (Surroundings σ) (Option Bool)) (life : Life H σ)
    (knowsNumbers : life.subscriber.KnowsNumbers) :
    Attempts life.collect.subscriber (life.attempt ask).1 (life.attempt ask).2.subscriber := by
  cases outcome : ((life.collect.subscriber.process (recordMortal ask)).run
      (life.collect.around, [])).1 with
  | some stepped =>
      rw [attempt_of_isSome (by rw [outcome]; rfl)]
      exact .finished (life.visits_visit (total ask) knowsNumbers)
  | none =>
      -- Only a visit can be cut short, and so there is an event, and somebody to have it.
      obtain ⟨event, rest, front, someHandler⟩ := front_of_death outcome
      obtain ⟨asked, logged, asks⟩ := asked_of_visit ask knowsNumbers event
        (life.collect.subscriber.owed event) life.collect.around []
      have log : ((life.collect.subscriber.process (recordMortal ask)).run
          (life.collect.around, [])).2.2 = asked := by
        rw [run_process_of_front front someHandler]
        exact logged
      unfold attempt
      dsimp only
      rw [outcome, log]
      exact .cutShort front (fun answer member => (asks answer member).1)
        fun answer member => (asks answer member).2

end Life

end

/-! ### Lives without deaths -/

section

variable (ask : H → Event → StateM (Surroundings σ) Bool)

theorem isSome_visit_deathless (handlers : List (HandlerNumber × Numbered H)) (event : Event)
    (numbers : List HandlerNumber) (around : Surroundings σ) (log : List Asked) :
    ((visit (recordMortal (deathless ask)) handlers event numbers).run (around, log)).1.isSome := by
  induction numbers generalizing around log with
  | nil => rfl
  | cons number numbers inductionHypothesis =>
      cases bound : handlers.lookup number with
      | none =>
          rw [visit, bound]
          exact inductionHypothesis around log
      | some numbered =>
          rw [run_visit_of_answer event bound numbers around log rfl, Option.isSome_map]
          exact inductionHypothesis _ _

theorem isSome_process_deathless (subscriber : Subscriber (Numbered H)) (around : Surroundings σ) :
    ((subscriber.process (recordMortal (deathless ask))).run (around, [])).1.isSome := by
  rw [Option.isSome_iff_ne_none]
  intro death
  obtain ⟨event, rest, front, someHandler⟩ := front_of_death death
  have answered := isSome_visit_deathless ask subscriber.handlers event (subscriber.owed event)
    around []
  rw [run_process_of_front front someHandler, Option.map_eq_none_iff] at death
  rw [death] at answered
  cases answered

namespace Life

theorem stepMortal_deathless (life : Life H σ) (call : Call H σ) :
    life.stepMortal (deathless ask) call = life.step ask call := by
  cases call with
  | process =>
      show (life.attempt (deathless ask)).2 = (life.visit ask).2
      rw [attempt_of_isSome (isSome_process_deathless ask _ _), total_deathless]
  | _ => rfl

/-- Where nobody dies, calls make the life of which `Life.run` tells. -/
theorem runMortal_deathless (life : Life H σ) (calls : List (Call H σ)) :
    life.runMortal (deathless ask) calls = life.run ask calls := by
  unfold runMortal run
  rw [show stepMortal (deathless ask) = step ask from
    funext fun life => funext fun call => stepMortal_deathless ask life call]

end Life

end

end Subscriber

end EventTransport
