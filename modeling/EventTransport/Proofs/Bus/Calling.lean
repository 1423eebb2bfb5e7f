import EventTransport.Proofs.Bus.Activations

/-!
Contract: moves of a local bus within one another.

Owns:
- `LocalBus.Makes`, moves by somebody who is as free after them as before, which do from every such
  stage on what they do from one;
- `LocalBus.Serves`, moves that hand an event on its way to the handlers that it still has to go to;
- that the calls of handlers, with what these do, make up a dispatch or an event handed out at once.

Does not own: what runs of moves are like, who makes them.
-/

namespace EventTransport

namespace LocalBus

variable {H : Type}

namespace Stage

/-- What a stage is like after somebody has made moves who was free to do so: what was on its way
stands where it stood, and there are further answers and calls. -/
structure Onward (stage later : Stage H) (told : List Bool) (calls : List (H × Event)) : Prop where
  stack : later.stack = stage.stack
  grown : stage.activations <+: later.activations
  answers : later.answers = stage.answers ++ told
  calls : later.calls.map Call.pair = stage.calls.map Call.pair ++ calls

end Stage

/-- Moves from one state of a bus to another, by whoever is free to make them, with the answers of
dispatches and the calls of handlers among them. -/
def Makes (moves : List (Move H)) (told : List Bool) (calls : List (H × Event))
    (before after : LocalBus H) : Prop :=
  ∀ stage : Stage H, stage.bus = before → stage.isFree → ∃ later, stage.run moves = some later ∧
    later.bus = after ∧ stage.Onward later told calls

/-- Moves that hand the innermost event to the handlers it still has to go to. If one of them dies,
it is the last of them that is called. -/
def Serves (moves : List (Move H)) (told : List Bool) (calls : List (H × Event)) (event : Event)
    (handlers : List H) (before after : LocalBus H) (isWhole : Bool) : Prop :=
  ∀ (stage : Stage H) (earlier later : List (Activation H)) (outer : List Nat)
    (opening : Opening H) (called : List H), opening.event = event →
    stage.bus = before → stage.stack = earlier.length :: outer →
    stage.activations = earlier ++ ⟨opening, called, handlers, .resting⟩ :: later →
    ∃ served, stage.run moves = some served ∧ served.bus = after ∧
      served.answers = stage.answers ++ told ∧
      served.calls.map Call.pair = stage.calls.map Call.pair ++ calls ∧
      if isWhole then served.stack = stage.stack ∧ ∃ others, served.activations =
        earlier ++ ⟨opening, called ++ handlers, [], .resting⟩ :: others
      else served.stack = outer ∧ earlier <+: served.activations

namespace Stage

variable {stage : Stage H} {earlier later : List (Activation H)} {outer : List Nat}
  {activation : Activation H}

theorem innermost?_of_top (top : stage.stack = earlier.length :: outer)
    (there : stage.activations = earlier ++ activation :: later) :
    stage.innermost? = some (earlier.length, activation) := by
  refine innermost?_eq_some_iff.mpr ⟨⟨outer, top⟩, ?_⟩
  rw [there, List.getElem?_append_right (Nat.le_refl _), Nat.sub_self]
  rfl

theorem activations_alter (there : stage.activations = earlier ++ activation :: later)
    (changed : Activation H) :
    (stage.alter earlier.length changed).activations = earlier ++ changed :: later := by
  show stage.activations.set earlier.length changed = _
  rw [there, List.set_append_right _ _ (Nat.le_refl _), Nat.sub_self]
  rfl

/-- Who was free is so as long as nothing becomes of the events on their way. -/
theorem isFree_of_extends {after : Stage H} (free : stage.isFree)
    (stack : after.stack = stage.stack)
    (grown : stage.activations <+: after.activations) : after.isFree := by
  unfold isFree at free ⊢
  rw [stack]
  split at free
  · rfl
  · rename_i number _ _
    obtain ⟨activation, found, atWork⟩ := (Option.any_eq_true _ _).mp free
    obtain ⟨others, same⟩ := grown
    obtain ⟨inside, _⟩ := List.getElem?_eq_some_iff.mp found
    rw [← same, List.getElem?_append_left inside, found]
    exact atWork

end Stage

/-- Nothing happened. -/
theorem Stage.Onward.refl (stage : Stage H) : stage.Onward stage [] [] :=
  ⟨rfl, List.prefix_refl _, (List.append_nil _).symm, (List.append_nil _).symm⟩

namespace Serves

theorem nil (event : Event) (bus : LocalBus H) : Serves [] [] [] event [] bus bus true := by
  intro stage earlier later outer opening called _ same _ there
  refine ⟨stage, rfl, same, (List.append_nil _).symm, (List.append_nil _).symm, rfl, later, ?_⟩
  rw [there, List.append_nil]

end Serves

variable {moves others : List (Move H)} {told more : List Bool} {calls further : List (H × Event)}
  {before between after : LocalBus H} {event : Event} {handler : H} {handlers : List H}
  {isWhole : Bool}

/-- What a handler does between its call and its end. -/
theorem Makes.within (made : Makes moves told calls before after) {stage : Stage H}
    {earlier later : List (Activation H)} {outer : List Nat} {opening : Opening H} {called : List H}
    (same : stage.bus = before) (top : stage.stack = earlier.length :: outer)
    (there : stage.activations = earlier ++
      ⟨opening, called, handler :: handlers, .resting⟩ :: later) :
    ∃ reached, stage.run (.call :: moves) = some reached ∧ reached.bus = after ∧
      reached.stack = stage.stack ∧ reached.answers = stage.answers ++ told ∧
      reached.calls.map Call.pair =
        stage.calls.map Call.pair ++ (handler, opening.event) :: calls ∧
      ∃ others, reached.activations =
        earlier ++ ⟨opening, called ++ [handler], handlers, .atWork⟩ :: others := by
  let begun : Stage H :=
    { stage.alter earlier.length ⟨opening, called ++ [handler], handlers, .atWork⟩ with
      calls := stage.calls ++ [⟨earlier.length, handler, opening.event⟩] }
  have stepped : stage.step .call = some begun := by
    simp only [Stage.step, Stage.innermost?_of_top top there]
    rfl
  have isThere : begun.activations =
      earlier ++ ⟨opening, called ++ [handler], handlers, .atWork⟩ :: later :=
    Stage.activations_alter there _
  have free : begun.isFree := by
    have stack : begun.stack = earlier.length :: outer := top
    have found := (Stage.innermost?_eq_some_iff.mp (Stage.innermost?_of_top stack isThere)).2
    simp [Stage.isFree, stack, found]
  obtain ⟨reached, ran, bus, stack, ⟨others, grown⟩, answers, called⟩ := made begun same free
  refine ⟨reached, ?_, bus, stack, answers, ?_, later ++ others, ?_⟩
  · rw [Stage.run, stepped]
    exact ran
  · rw [called]
    simp [begun, Call.pair]
  · rw [← grown, isThere, List.append_assoc, List.cons_append]

namespace Serves

/-- The next handler called, which comes back. -/
theorem cons (made : Makes moves told calls before between)
    (serves : Serves others more further event handlers between after isWhole) :
    Serves (.call :: moves ++ .returned :: others) (told ++ more)
      ((handler, event) :: calls ++ further) event (handler :: handlers) before after isWhole := by
  rintro stage earlier later outer opening called rfl same top there
  obtain ⟨reached, ran, bus, stack, answers, calls, behind, isThere⟩ := made.within same top there
  let back := reached.alter earlier.length ⟨opening, called ++ [handler], handlers, .resting⟩
  have stepped : reached.step .returned = some back := by
    simp only [Stage.step, Stage.innermost?_of_top (stack.trans top) isThere]
    rfl
  obtain ⟨served, ranOn, busAfter, answersOn, callsOn, result⟩ :=
    serves back earlier behind outer opening (called ++ [handler]) rfl bus (stack.trans top)
      (Stage.activations_alter isThere _)
  refine ⟨served, ?_, busAfter, ?_, ?_, ?_⟩
  · rw [Stage.run_append, ran, Option.bind_some, Stage.run, stepped]
    exact ranOn
  · rw [answersOn, ← List.append_assoc]
    exact congrArg (· ++ more) answers
  · rw [callsOn, ← List.append_assoc]
    exact congrArg (· ++ further) calls
  · cases isWhole with
    | false => exact result
    | true =>
      obtain ⟨stackAfter, others, isThereAfter⟩ := result
      refine ⟨stackAfter.trans stack, others, ?_⟩
      rw [isThereAfter, List.append_assoc, List.singleton_append]

/-- The next handler called, which dies. -/
theorem died (made : Makes moves told calls before after) :
    Serves (.call :: moves ++ [.died]) told ((handler, event) :: calls) event (handler :: handlers)
      before after false := by
  rintro stage earlier later outer opening called rfl same top there
  obtain ⟨reached, ran, bus, stack, answers, calls, behind, isThere⟩ := made.within same top there
  let broken := reached.alter earlier.length ⟨opening, called ++ [handler], handlers, .brokenOff⟩
  have stepped : reached.step .died = some { broken with stack := reached.stack.tail } := by
    simp only [Stage.step, Stage.innermost?_of_top (stack.trans top) isThere]
    rfl
  refine ⟨{ broken with stack := reached.stack.tail }, ?_, bus, answers, calls, ?_⟩
  · rw [Stage.run_append, ran, Option.bind_some, Stage.run_singleton]
    exact stepped
  · refine ⟨congrArg List.tail (stack.trans top), ?_⟩
    show earlier <+: broken.activations
    rw [Stage.activations_alter isThere]
    exact List.prefix_append _ _

/-- The end of an event on its way, unless a handler died. -/
def ending (isWhole : Bool) : List (Move H) := if isWhole then [.finish] else []

/-- An event from its beginning to its end. -/
theorem begun (opening : Opening H)
    (serves : Serves moves told calls opening.event opening.handlers before after isWhole)
    (stage : Stage H) (same : stage.bus = before) :
    ∃ finished, (stage.begin opening).run (moves ++ ending isWhole) = some finished ∧
      finished.bus = after ∧
      stage.Onward finished (told ++ if isWhole && opening.isQueued then [true] else []) calls := by
  obtain ⟨served, ran, bus, answers, calls, result⟩ := serves (stage.begin opening)
    stage.activations [] stage.stack opening [] rfl same rfl rfl
  cases isWhole with
  | false =>
    obtain ⟨stack, kept⟩ := result
    refine ⟨served, ?_, bus, stack, kept, ?_, calls⟩
    · rw [ending, if_neg Bool.false_ne_true, List.append_nil]
      exact ran
    · rw [answers]
      exact congrArg (stage.answers ++ ·) (List.append_nil told).symm
  | true =>
    obtain ⟨stack, others, isThere⟩ := result
    let ended := served.alter stage.activations.length ⟨opening, opening.handlers, [], .ended⟩
    let finished : Stage H :=
      { ended with
        stack := served.stack.tail
        answers := if opening.isQueued then served.answers ++ [true] else served.answers }
    have stepped : served.step .finish = some finished := by
      simp only [Stage.step, Stage.innermost?_of_top stack isThere]
      rfl
    refine ⟨finished, ?_, bus, congrArg List.tail stack, ?_, ?_, calls⟩
    · rw [Stage.run_append, ran, Option.bind_some]
      exact (Stage.run_singleton served .finish).trans stepped
    · show stage.activations <+: ended.activations
      rw [Stage.activations_alter isThere]
      exact List.prefix_append _ _
    · show (if opening.isQueued then served.answers ++ [true] else served.answers) = _
      rw [answers]
      cases opening.isQueued <;> simp [Stage.begin]

end Serves

namespace Makes

theorem nil (bus : LocalBus H) : Makes [] [] [] bus bus := fun stage same _ =>
  ⟨stage, rfl, same, .refl stage⟩

/-- Moves made where a run has led to. -/
theorem after_run {stage : Stage H} {past : List (Move H)} (ran : Stage.run {} past = some stage)
    (free : stage.isFree) (made : Makes moves told calls stage.bus after) :
    ∃ later, Stage.run {} (past ++ moves) = some later ∧ later.bus = after ∧
      stage.Onward later told calls := by
  obtain ⟨later, ranOn, bus, onward⟩ := made stage rfl free
  refine ⟨later, ?_, bus, onward⟩
  rw [Stage.run_append, ran]
  exact ranOn

theorem append (made : Makes moves told calls before between)
    (makes : Makes others more further between after) :
    Makes (moves ++ others) (told ++ more) (calls ++ further) before after := by
  intro stage same free
  obtain ⟨reached, ran, busBetween, onward⟩ := made stage same free
  have stillFree := Stage.isFree_of_extends free onward.stack onward.grown
  obtain ⟨later, ranOn, busAfter, onwardOn⟩ := makes reached busBetween stillFree
  refine ⟨later, ?_, busAfter, onwardOn.stack.trans onward.stack,
    onward.grown.trans onwardOn.grown, ?_, ?_⟩
  · rw [Stage.run_append, ran]
    exact ranOn
  · rw [onwardOn.answers, onward.answers, List.append_assoc]
  · rw [onwardOn.calls, onward.calls, List.append_assoc]

/-- A move that only changes the bus. -/
theorem onBus {move : Move H} (stepped : ∀ stage : Stage H, stage.bus = before → stage.isFree →
    stage.step move = some { stage with bus := after }) : Makes [move] [] [] before after := by
  intro stage same free
  refine ⟨{ stage with bus := after }, ?_, rfl, rfl, List.prefix_refl _, (List.append_nil _).symm,
    (List.append_nil _).symm⟩
  rw [Stage.run_singleton]
  exact stepped stage same free

theorem bind (bus : LocalBus H) (key : Subscription) (handler : H) :
    Makes [.bind key handler] [] [] bus (bus.bind key handler) :=
  onBus fun _ same free => same ▸ if_pos free

theorem unbind (bus : LocalBus H) (key : Subscription) :
    Makes [.unbind key] [] [] bus (bus.unbind key).1 :=
  onBus fun _ same free => same ▸ if_pos free

theorem reset (bus : LocalBus H) : Makes [.reset] [] [] bus bus.reset :=
  onBus fun _ same free => same ▸ if_pos free

theorem deliver (bus : LocalBus H) (event : Event) :
    Makes [.deliver event] [] [] bus (bus.enqueue event) :=
  onBus fun _ same free => same ▸ if_pos free

/-- An event handed out at once. -/
theorem present
    (serves : Serves moves told calls event (before.handlersFor event) before after isWhole) :
    Makes (.present event :: (moves ++ Serves.ending isWhole)) told calls before after := by
  rintro stage rfl free
  let opening : Opening H := ⟨event, stage.bus.handlersFor event, false⟩
  obtain ⟨finished, ran, bus, onward⟩ := Serves.begun opening serves stage rfl
  have stepped : stage.step (.present event) = some (stage.begin opening) := if_pos free
  refine ⟨finished, ?_, bus, onward.stack, onward.grown, ?_, onward.calls⟩
  · rw [Stage.run, stepped]
    exact ran
  · rw [onward.answers]
    simp [opening]

/-- The oldest event handed out. -/
theorem dispatch {rest : LocalBus H} (taken : before.take? = some (event, handlers, rest))
    (serves : Serves moves told calls event handlers rest after isWhole) :
    Makes (.dispatch :: (moves ++ Serves.ending isWhole)) (told ++ if isWhole then [true] else [])
      calls before after := by
  rintro stage rfl free
  let opening : Opening H := ⟨event, handlers, true⟩
  obtain ⟨finished, ran, bus, onward⟩ :=
    Serves.begun opening serves { stage with bus := rest } rfl
  have stepped : stage.step .dispatch = some ({ stage with bus := rest }.begin opening) := by
    simp only [Stage.step, free, if_true, taken]
    rfl
  refine ⟨finished, ?_, bus, onward.stack, onward.grown, ?_, onward.calls⟩
  · rw [Stage.run, stepped]
    exact ran
  · rw [onward.answers]
    simp [opening]

theorem dispatchNothing (nothing : before.take? = none) :
    Makes [.dispatch] [false] [] before before := by
  rintro stage rfl free
  refine ⟨{ stage with answers := stage.answers ++ [false] }, ?_, rfl, rfl, List.prefix_refl _, rfl,
    (List.append_nil _).symm⟩
  rw [Stage.run_singleton]
  simp only [Stage.step, free, if_true, nothing]

end Makes

end LocalBus

end EventTransport
