import EventTransport.Proofs.Bus.Activations
import Mathlib.Data.List.Induction

/-!
Contract: to whom a local bus has handed which events, after every run.

Owns:
- `LocalBus.Stage.Recorded`, what the moves of a run say about bindings, the queue and the events
  that have left it, kept by every move;
- `LocalBus.Stage.Attended`, what has become of these events, kept by every move;
- `LocalBus.Stage.HandsOut`, that events leave the queue in order and one by one, each of them for
  the handlers bound then, and that it is so after every run.

Does not own: what a move can do.
-/

namespace EventTransport

/-- A changed element counts in the place of the one before it. -/
theorem countP_set_add {α : Type} (counts : α → Bool) {elements : List α} {before : α}
    {number : Nat}
    (there : elements[number]? = some before) (after : α) :
    (elements.set number after).countP counts + (counts before).toNat =
      elements.countP counts + (counts after).toNat := by
  obtain ⟨inside, rfl⟩ := List.getElem?_eq_some_iff.mp there
  have atLeast := List.boole_getElem_le_countP (p := counts) inside
  rw [List.countP_set inside]
  generalize elements.countP counts = total at atLeast ⊢
  generalize counts elements[number] = counted at atLeast ⊢
  cases counted <;> cases counts after <;> simp at atLeast ⊢ <;> omega

namespace LocalBus

variable {H : Type}

/-- The handlers under a key after some moves, in the order of binding. -/
def boundUnder (key : Subscription) (moves : List (Move H)) : List H :=
  moves.foldl (fun handlers move =>
    match move with
    | .bind other handler => if key = other then handlers ++ [handler] else handlers
    | .unbind other => if key = other then [] else handlers
    | .reset => []
    | _ => handlers) []

theorem boundUnder_snoc (key : Subscription) (moves : List (Move H)) (move : Move H) :
    boundUnder key (moves ++ [move]) =
      match move with
      | .bind other handler =>
        if key = other then boundUnder key moves ++ [handler] else boundUnder key moves
      | .unbind other => if key = other then [] else boundUnder key moves
      | .reset => []
      | _ => boundUnder key moves := by
  unfold boundUnder
  rw [List.foldl_append]
  rfl

namespace Stage

variable {stage after : Stage H} {moves : List (Move H)} {move : Move H}

/-! ### What a move does to the queue and to the events on their way -/

theorem openings_begin (stage : Stage H) (opening : Opening H) :
    (stage.begin opening).openings = stage.openings ++ [opening] :=
  List.map_append

theorem openings_alter {number : Nat} {activation changed : Activation H}
    (found : stage.activations[number]? = some activation)
    (same : changed.opening = activation.opening) :
    (stage.alter number changed).openings = stage.openings := by
  have still : (stage.activations.map Activation.opening)[number]? = some changed.opening := by
    rw [List.getElem?_map, found, same]
    rfl
  obtain ⟨_, atNumber⟩ := List.getElem?_eq_some_iff.mp still
  show (stage.activations.set number changed).map Activation.opening = stage.openings
  rw [List.map_set, ← atNumber, List.set_getElem_self]
  rfl

/-- A move hands out an event to the handlers bound now, which is the front of the queue unless it
is handed out at once, or no event at all. -/
theorem openings_of_follows (follows : Follows stage move after) :
    (after.openings = stage.openings ∧ move.presented? = none ∧
        after.bus.queue = stage.bus.queue ++ move.delivered?.toList) ∨
      ∃ opening, move = opening.opener ∧ after.openings = stage.openings ++ [opening] ∧
        opening.handlers = stage.bus.handlersFor opening.event ∧
        stage.bus.queue =
          if opening.isQueued then opening.event :: after.bus.queue else after.bus.queue := by
  cases follows with
  | bind | unbind | reset | dispatchNothing => exact .inl ⟨rfl, rfl, by simp [Move.delivered?]⟩
  | deliver => exact .inl ⟨rfl, rfl, rfl⟩
  | present _ event =>
    exact .inr ⟨⟨event, stage.bus.handlersFor event, false⟩, rfl, openings_begin _ _, rfl, rfl⟩
  | @dispatch _ event _ queue =>
    exact .inr ⟨⟨event, stage.bus.handlersFor event, true⟩, rfl, openings_begin _ _, rfl, queue⟩
  | call _ found | returned _ found | died _ found | finish _ found =>
    exact .inl ⟨openings_alter found rfl, rfl, (List.append_nil _).symm⟩

theorem taken_of_openings (same : after.openings = stage.openings) : after.taken = stage.taken := by
  unfold taken
  rw [same]

theorem taken_of_opening {opening : Opening H}
    (grown : after.openings = stage.openings ++ [opening]) :
    after.taken = stage.taken ++ if opening.isQueued then [opening.event] else [] := by
  unfold taken
  rw [grown, List.filter_append, List.map_append]
  cases isQueued : opening.isQueued <;> simp [isQueued]

/-! ### What the moves of a run say -/

/-- An event on its way was handed out by one of the moves, for the handlers that were bound then:
those of its kind, and those of every event. -/
def Opened (moves : List (Move H)) (number : Nat) (opening : Opening H) : Prop :=
  ∃ earlier later before, moves = earlier ++ opening.opener :: later ∧
    run {} earlier = some before ∧ before.activations.length = number ∧
    opening.handlers = boundUnder (.uid opening.event.uid) earlier ++ boundUnder .all earlier

theorem Opened.extend {number : Nat} {opening : Opening H} (opened : Opened moves number opening)
    (move : Move H) : Opened (moves ++ [move]) number opening := by
  obtain ⟨earlier, later, before, split, ran, count, handlers⟩ := opened
  refine ⟨earlier, later ++ [move], before, ?_, ran, count, handlers⟩
  rw [split, List.append_assoc]
  rfl

/-- What some moves say about the stage that they lead to. -/
structure Recorded (moves : List (Move H)) (stage : Stage H) : Prop where
  bound : ∀ key, stage.bus.bindings.get key = boundUnder key moves
  queue : moves.filterMap Move.delivered? = stage.taken ++ stage.bus.queue
  presented : moves.filterMap Move.presented? =
    (stage.openings.filter fun opening => !opening.isQueued).map Opening.event
  opened : ∀ number opening, stage.openings[number]? = some opening → Opened moves number opening

namespace Recorded

theorem fresh : Recorded [] ({} : Stage H) where
  bound := fun _ => rfl
  queue := rfl
  presented := rfl
  opened := fun _ _ found => nomatch found

theorem bound_of_follows (recorded : Recorded moves stage) (follows : Follows stage move after)
    (key : Subscription) : after.bus.bindings.get key = boundUnder key (moves ++ [move]) := by
  rw [boundUnder_snoc]
  cases follows with
  | bind _ other handler =>
    rw [get_bind, recorded.bound, recorded.bound]
    by_cases same : key = other
    · subst same
      rfl
    · simp only [same, if_false]
  | unbind => rw [get_unbind, recorded.bound]
  | reset => rfl
  | dispatch _ _ bindings =>
      exact (congrArg (Registry.get · key) bindings).trans (recorded.bound key)
  | deliver | present | dispatchNothing | call | returned | died | finish =>
      exact recorded.bound key

/-- What the handlers of an event are is what the moves before say. -/
theorem handlersFor_eq (recorded : Recorded moves stage) (event : Event) :
    stage.bus.handlersFor event = boundUnder (.uid event.uid) moves ++ boundUnder .all moves := by
  rw [← recorded.bound, ← recorded.bound]
  simp [handlersFor, Registry.route, Subscription.route]

theorem step (recorded : Recorded moves stage) (ran : run {} moves = some stage)
    (follows : Follows stage move after) : Recorded (moves ++ [move]) after := by
  have bound := recorded.bound_of_follows follows
  rcases openings_of_follows follows with
    ⟨same, presents, queue⟩ | ⟨opening, rfl, grown, handlers, queue⟩
  · refine ⟨bound, ?_, ?_, ?_⟩
    · rw [List.filterMap_append, recorded.queue, taken_of_openings same, queue]
      cases brought : move.delivered? <;> simp [brought]
    · rw [List.filterMap_append, recorded.presented, same]
      simp [presents]
    · intro number opening found
      rw [same] at found
      exact (recorded.opened number opening found).extend move
  · refine ⟨bound, ?_, ?_, ?_⟩
    · rw [List.filterMap_append, recorded.queue, taken_of_opening grown, queue]
      cases isQueued : opening.isQueued <;> simp [Opening.opener, Move.delivered?, isQueued]
    · rw [List.filterMap_append, recorded.presented, grown]
      cases isQueued : opening.isQueued <;> simp [Opening.opener, Move.presented?, isQueued]
    · intro number other found
      rw [grown] at found
      rcases found_or_new_of_snoc found with old | ⟨rfl, rfl⟩
      · exact (recorded.opened number other old).extend _
      · have sameCount : stage.activations.length = stage.openings.length := by simp [openings]
        exact ⟨moves, [], stage, rfl, ran, sameCount, handlers.trans (recorded.handlersFor_eq _)⟩

end Recorded

/-! ### What has become of the events handed out -/

/-- What has become of the events that have been handed out, with the calls of handlers. -/
structure Attended (moves : List (Move H)) (stage : Stage H) : Prop where
  called : ∀ number activation, stage.activations[number]? = some activation →
    stage.calls.filter (fun call => call.number = number) =
      activation.called.map fun handler => ⟨number, handler, activation.opening.event⟩
  numbered : ∀ call ∈ stage.calls, call.number < stage.activations.length
  given : ∀ activation ∈ stage.activations,
    activation.called ++ activation.waiting = activation.opening.handlers ∧
      (activation.phase = .ended → activation.waiting = [])
  unbroken : .died ∉ moves → ∀ activation ∈ stage.activations, activation.phase ≠ .brokenOff
  answered : stage.taken.length =
    stage.answers.count true + stage.activations.countP Activation.isPending

/-- What a move makes of an activation: some of the handlers that it waits for are called. -/
structure Advances (move : Move H) (before after : Activation H) (handlers : List H) : Prop where
  opening : after.opening = before.opening
  called : after.called = before.called ++ handlers
  waiting : before.waiting = handlers ++ after.waiting
  ended : after.phase = .ended → after.waiting = []
  broken : after.phase = .brokenOff → move = .died

namespace Advances

variable (opening : Opening H) (called waiting : List H)

theorem call (handler : H) : Advances .call ⟨opening, called, handler :: waiting, .resting⟩
    ⟨opening, called ++ [handler], waiting, .atWork⟩ [handler] :=
  ⟨rfl, rfl, rfl, Phase.noConfusion, Phase.noConfusion⟩

theorem returned : Advances .returned ⟨opening, called, waiting, .atWork⟩
    ⟨opening, called, waiting, .resting⟩ [] :=
  ⟨rfl, (List.append_nil called).symm, rfl, Phase.noConfusion, Phase.noConfusion⟩

theorem died : Advances .died ⟨opening, called, waiting, .atWork⟩
    ⟨opening, called, waiting, .brokenOff⟩ [] :=
  ⟨rfl, (List.append_nil called).symm, rfl, Phase.noConfusion, fun _ => rfl⟩

theorem finish : Advances .finish ⟨opening, called, [], .resting⟩
    ⟨opening, called, [], .ended⟩ [] :=
  ⟨rfl, (List.append_nil called).symm, rfl, fun _ => rfl, Phase.noConfusion⟩

end Advances

namespace Attended

theorem fresh : Attended [] ({} : Stage H) where
  called := fun _ _ found => nomatch found
  numbered := fun _ member => nomatch member
  given := fun _ member => nomatch member
  unbroken := fun _ _ member => nomatch member
  answered := rfl

/-- No event on its way is concerned. -/
theorem aside (attended : Attended moves stage)
    (activations : after.activations = stage.activations)
    (calls : after.calls = stage.calls)
    (answers : after.answers.count true = stage.answers.count true) :
    Attended (moves ++ [move]) after := by
  have taken : after.taken = stage.taken := taken_of_openings (congrArg (List.map _) activations)
  refine ⟨?_, ?_, ?_, ?_, ?_⟩
  · rw [activations, calls]
    exact attended.called
  · rw [activations, calls]
    exact attended.numbered
  · rw [activations]
    exact attended.given
  · rw [activations]
    exact fun noDeath => attended.unbroken (mt (List.mem_append_left _) noDeath)
  · rw [taken, answers, activations]
    exact attended.answered

/-- An event is handed out, to handlers of which none has been called. -/
theorem begin (attended : Attended moves stage) (opening : Opening H) (bus : LocalBus H) :
    Attended (moves ++ [move]) ({ stage with bus := bus }.begin opening) where
  called := by
    intro number activation found
    rcases found_or_new_of_snoc found with old | ⟨rfl, rfl⟩
    · exact attended.called number activation old
    · exact List.filter_eq_nil_iff.mpr fun call member same =>
        Nat.ne_of_lt (attended.numbered call member) (of_decide_eq_true same)
  numbered := by
    intro call member
    rw [length_begin]
    exact Nat.lt_succ_of_lt (attended.numbered call member)
  given := by
    intro activation member
    rcases List.mem_append.mp member with before | new
    · exact attended.given activation before
    · cases List.mem_singleton.mp new
      exact ⟨rfl, Phase.noConfusion⟩
  unbroken := by
    intro noDeath activation member
    rcases List.mem_append.mp member with before | new
    · exact attended.unbroken (mt (List.mem_append_left _) noDeath) activation before
    · cases List.mem_singleton.mp new
      exact Phase.noConfusion
  answered := by
    have grown : ({ stage with bus := bus }.begin opening).openings = stage.openings ++ [opening] :=
      openings_begin _ opening
    rw [taken_of_opening grown, List.length_append, attended.answered]
    show _ = stage.answers.count true + (stage.activations ++ [_]).countP Activation.isPending
    cases isQueued : opening.isQueued <;> simp [Activation.isPending, isQueued, Nat.add_assoc]

section

variable {number : Nat} {activation changed : Activation H} {handlers : List H}

theorem calls_alter (attended : Attended moves stage)
    (found : stage.activations[number]? = some activation)
    (advances : Advances move activation changed handlers) {other : Nat} {altered : Activation H}
    (there : (stage.alter number changed).activations[other]? = some altered) :
    (stage.calls ++ handlers.map fun handler =>
        (⟨number, handler, activation.opening.event⟩ : Call H)).filter
        (fun call => call.number = other) =
      altered.called.map fun handler => ⟨other, handler, altered.opening.event⟩ := by
  rw [List.filter_append]
  rw [getElem?_alter] at there
  split at there
  · rename_i same
    subst same
    obtain ⟨before, isThere, rfl⟩ := Option.map_eq_some_iff.mp there
    rw [attended.called number activation found, advances.called, advances.opening]
    simp
  · rename_i apart
    rw [attended.called other altered there]
    simp [apart]

/-- An event on its way goes on. -/
theorem alter (attended : Attended moves stage)
    (found : stage.activations[number]? = some activation)
    (advances : Advances move activation changed handlers) {stack : List Nat} {answers : List Bool}
    {calls : List (Call H)} (noted : calls =
      stage.calls ++ handlers.map fun handler => ⟨number, handler, activation.opening.event⟩)
    (answered : answers.count true + changed.isPending.toNat =
      stage.answers.count true + activation.isPending.toNat) :
    Attended (moves ++ [move])
      { stage.alter number changed with stack := stack, answers := answers, calls := calls } where
  called := fun other altered there => noted ▸ attended.calls_alter found advances there
  numbered := by
    intro call member
    show call.number < (stage.alter number changed).activations.length
    rw [length_alter]
    rw [noted] at member
    rcases List.mem_append.mp member with before | new
    · exact attended.numbered call before
    · obtain ⟨_, _, rfl⟩ := List.mem_map.mp new
      exact (List.getElem?_eq_some_iff.mp found).1
  given := by
    intro other member
    rcases List.mem_or_eq_of_mem_set member with before | rfl
    · exact attended.given other before
    · refine ⟨?_, advances.ended⟩
      rw [advances.called, advances.opening, List.append_assoc, ← advances.waiting]
      exact (attended.given activation (List.mem_of_getElem? found)).1
  unbroken := by
    intro noDeath other member
    rcases List.mem_or_eq_of_mem_set member with before | rfl
    · exact attended.unbroken (mt (List.mem_append_left _) noDeath) other before
    · intro isBroken
      have died := (advances.broken isBroken).symm
      exact noDeath (List.mem_append_right _ (List.mem_singleton.mpr died))
  answered := by
    have same : (stage.alter number changed).taken = stage.taken :=
      taken_of_openings (openings_alter found advances.opening)
    have before := attended.answered
    have counted := countP_set_add Activation.isPending found changed
    show (stage.alter number changed).taken.length =
      answers.count true + (stage.activations.set number changed).countP Activation.isPending
    rw [same]
    omega

end

theorem step (attended : Attended moves stage) (follows : Follows stage move after) :
    Attended (moves ++ [move]) after := by
  cases follows with
  | bind | unbind | reset | deliver => exact attended.aside rfl rfl rfl
  | dispatchNothing => exact attended.aside rfl rfl (by simp)
  | present => exact attended.begin _ stage.bus
  | dispatch => exact attended.begin _ _
  | call _ found => exact attended.alter found (.call ..) rfl rfl
  | returned _ found => exact attended.alter found (.returned ..) (List.append_nil _).symm rfl
  | died _ found => exact attended.alter found (.died ..) (List.append_nil _).symm rfl
  | @finish _ _ _ opening _ found =>
    refine attended.alter found (.finish ..) (List.append_nil _).symm ?_
    cases isQueued : opening.isQueued <;> simp [Activation.isPending, isQueued]

end Attended

/-! ### Every run -/

theorem records_of_run (ran : run {} moves = some stage) :
    Recorded moves stage ∧ Attended moves stage ∧ stage.Nested := by
  induction moves using List.reverseRecOn generalizing stage with
  | nil =>
    cases ran
    exact ⟨.fresh, .fresh, .fresh⟩
  | append_singleton moves move inductionHypothesis =>
    rw [run_append] at ran
    obtain ⟨before, ranBefore, ranOn⟩ := Option.bind_eq_some_iff.mp ran
    obtain ⟨recorded, attended, nested⟩ := inductionHypothesis ranBefore
    have follows : Follows before move stage :=
      follows_of_step ((run_singleton before move).symm.trans ranOn)
    exact ⟨recorded.step ranBefore follows, attended.step follows, nested.step follows⟩

/-- Whoever may act can dispatch, which takes the oldest event, or answers at once that
none waits. -/
theorem dispatch_of_isFree (free : stage.isFree) :
    ∃ after, stage.step .dispatch = some after ∧
      (stage.bus.queue = [] ∧ after = { stage with answers := stage.answers ++ [false] } ∨
        ∃ event, stage.bus.queue = event :: after.bus.queue ∧
          after.taken = stage.taken ++ [event] ∧ after.answers = stage.answers) := by
  simp only [step, free, if_true]
  cases taken : stage.bus.take? with
  | none => exact ⟨_, rfl, .inl ⟨queue_of_take?_eq_none taken, rfl⟩⟩
  | some front =>
    obtain ⟨event, handlers, bus⟩ := front
    obtain ⟨queue, _, _⟩ := take?_eq_some_iff.mp taken
    exact ⟨_, rfl, .inr ⟨event, queue, taken_of_opening (openings_begin _ _), rfl⟩⟩

/-- Nothing but a dispatch takes an event from the queue, and nothing else answers that
none waits. -/
theorem queue_of_step (other : move ≠ .dispatch) (stepped : stage.step move = some after) :
    after.bus.queue = stage.bus.queue ++ move.delivered?.toList ∧ after.taken = stage.taken ∧
      after.answers.count false = stage.answers.count false := by
  have follows := follows_of_step stepped
  have answers : after.answers.count false = stage.answers.count false := by
    cases follows with
    | dispatchNothing => exact absurd rfl other
    | @finish _ _ _ opening => cases opening.isQueued <;> simp
    | _ => rfl
  rcases openings_of_follows follows with
    ⟨same, _, queue⟩ | ⟨⟨event, handlers, isQueued⟩, rfl, grown, _, queue⟩
  · exact ⟨queue, taken_of_openings same, answers⟩
  · cases isQueued with
    | true => exact absurd rfl other
    | false =>
      refine ⟨?_, (taken_of_opening grown).trans (List.append_nil _), answers⟩
      exact queue.symm.trans (List.append_nil _).symm

/-- How events have left a bus that began empty, whatever handlers did to it while they were at
work. -/
structure HandsOut (stage : Stage H) (moves : List (Move H)) : Prop where
  /-- What was delivered has left the queue from its front, or waits. -/
  inOrder : moves.filterMap Move.delivered? = stage.taken ++ stage.bus.queue
  /-- An event has been taken for each dispatch that answered so or has not answered yet. -/
  oneByOne : stage.taken.length =
    stage.answers.count true + stage.activations.countP Activation.isPending
  /-- Who may act can dispatch. That answers at once if the queue is empty, and takes its front
  else. -/
  dispatches : stage.isFree → ∃ after, stage.step .dispatch = some after ∧
    (stage.bus.queue = [] ∧ after = { stage with answers := stage.answers ++ [false] } ∨
      ∃ event, stage.bus.queue = event :: after.bus.queue ∧
        after.taken = stage.taken ++ [event] ∧ after.answers = stage.answers)
  /-- Nothing else takes an event, and nothing else answers that there was none. -/
  leavesQueue : ∀ move after, move ≠ .dispatch → stage.step move = some after →
    after.bus.queue = stage.bus.queue ++ move.delivered?.toList ∧ after.taken = stage.taken ∧
      after.answers.count false = stage.answers.count false
  presented : moves.filterMap Move.presented? =
    (stage.openings.filter fun opening => !opening.isQueued).map Opening.event
  /-- An event handed out is for the handlers bound by then. They are called in that order, each
  once and with that event, and all of them once it is over. -/
  toBound : ∀ number activation, stage.activations[number]? = some activation →
    Opened moves number activation.opening ∧
      activation.called <+: activation.opening.handlers ∧
      (activation.phase = .ended → activation.called = activation.opening.handlers) ∧
      stage.calls.filter (fun call => call.number = number) =
        activation.called.map fun handler => ⟨number, handler, activation.opening.event⟩
  /-- Somebody may always act, or the innermost event goes on. -/
  goesOn : stage.isFree ∨ (∃ later, stage.step .call = some later) ∨
    ∃ later, stage.step .finish = some later
  /-- Once nobody is at work, every event is over, unless a handler died. -/
  ends : stage.stack = [] → .died ∉ moves →
    ∀ activation ∈ stage.activations, activation.phase = .ended

theorem handsOut_of_run (ran : run {} moves = some stage) : stage.HandsOut moves := by
  obtain ⟨recorded, attended, nested⟩ := records_of_run ran
  refine ⟨recorded.queue, attended.answered, dispatch_of_isFree, fun _ _ => queue_of_step,
    recorded.presented, ?_, nested.goes_on, ?_⟩
  · intro number activation found
    have opened : stage.openings[number]? = some activation.opening := by
      simp [openings, found]
    obtain ⟨given, ended⟩ := attended.given activation (List.mem_of_getElem? found)
    refine ⟨recorded.opened number activation.opening opened, ⟨activation.waiting, given⟩, ?_,
      attended.called number activation found⟩
    intro isOver
    rw [← given, ended isOver, List.append_nil]
  · intro nobody noDeath activation member
    obtain ⟨number, found⟩ := List.getElem?_of_mem member
    have aside : ¬ activation.isUnderWay := by
      rw [← nested.underWay number activation found, nobody]
      exact List.not_mem_nil
    have unbroken := attended.unbroken noDeath activation member
    obtain ⟨opening, called, waiting, phase⟩ := activation
    cases phase with
    | ended => rfl
    | brokenOff => exact absurd rfl unbroken
    | resting | atWork => simp [Activation.isUnderWay] at aside

end Stage

end LocalBus

end EventTransport
