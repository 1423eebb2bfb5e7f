import EventTransport.Bus.LocalBus

/-!
Contract: a local bus under handlers that call it while they run.

Owns:
- `LocalBus.Stage`, a bus with the events that are being handed to handlers and those that have
  been, `LocalBus.Stage.step` and `LocalBus.Stage.run`;
- `LocalBus.Stage.Follows`, everything that a move can do;
- `LocalBus.Stage.Nested`, kept by every move, by which somebody may always go on.

An event is handed to one handler after the other. A handler at work may do all that can be done to
the bus, and what it hands out in turn is over before it goes on; so the innermost event is the only
one with which something happens. Handlers are names here, and what they do is whatever moves come
between their call and their end.

Does not own: what a run says about the events and about who they are for, what handlers do to
anything else.
-/

namespace EventTransport

namespace LocalBus

variable {H : Type}

/-- An event on its way to handlers: by a dispatch, which took it from the queue, or at once. -/
structure Opening (H : Type) where
  event : Event
  /-- The handlers that the event is for. -/
  handlers : List H
  isQueued : Bool
deriving DecidableEq

inductive Phase where
  | resting
  /-- A handler runs. -/
  | atWork
  | ended
  /-- A handler died, and the others are not called any more. -/
  | brokenOff
deriving DecidableEq

/-- What has become of an event on its way. -/
structure Activation (H : Type) where
  opening : Opening H
  called : List H := []
  waiting : List H
  phase : Phase := .resting

namespace Activation

/-- Whether an event was taken from the queue by a dispatch that has not answered. -/
def isPending (activation : Activation H) : Bool :=
  activation.opening.isQueued && activation.phase ≠ .ended

def isUnderWay (activation : Activation H) : Bool :=
  activation.phase = .resting || activation.phase = .atWork

end Activation

/-- A handler called with an event, for the activation of that number. -/
structure Call (H : Type) where
  number : Nat
  handler : H
  event : Event
deriving DecidableEq

/-- A call without what it was for. -/
def Call.pair (call : Call H) : H × Event := (call.handler, call.event)

/-- A bus, with every event that has been handed to handlers. -/
structure Stage (H : Type) where
  bus : LocalBus H := {}
  activations : List (Activation H) := []
  calls : List (Call H) := []
  /-- Those that are not over by their numbers, the innermost first. -/
  stack : List Nat := []
  /-- What dispatches have answered. -/
  answers : List Bool := []

inductive Move (H : Type) where
  | bind (key : Subscription) (handler : H)
  | unbind (key : Subscription)
  | reset
  | deliver (event : Event)
  /-- An event handed out at once, past the queue. -/
  | present (event : Event)
  | dispatch
  /-- The next handler of the innermost event called. -/
  | call
  | returned
  | died
  /-- The innermost event has been with all its handlers. -/
  | finish
deriving DecidableEq

namespace Move

def delivered? : Move H → Option Event
  | deliver event => some event
  | _ => none

def presented? : Move H → Option Event
  | present event => some event
  | _ => none

end Move

/-- The move that an event was handed out by. -/
def Opening.opener (opening : Opening H) : Move H :=
  if opening.isQueued then .dispatch else .present opening.event

namespace Stage

def openings (stage : Stage H) : List (Opening H) := stage.activations.map Activation.opening

/-- The events that have left the queue, in order. -/
def taken (stage : Stage H) : List Event :=
  (stage.openings.filter Opening.isQueued).map Opening.event

/-- The activation that is innermost, with its number. -/
def innermost? (stage : Stage H) : Option (Nat × Activation H) :=
  stage.stack.head?.bind fun number =>
    stage.activations[number]?.map fun activation => (number, activation)

/-- Whether somebody is there to do something to the bus: who calls it from outside, or
a handler. -/
def isFree (stage : Stage H) : Bool :=
  match stage.stack with
  | [] => true
  | number :: _ => stage.activations[number]?.any fun activation => activation.phase = .atWork

/-- An event on its way to some handlers. -/
def begin (stage : Stage H) (opening : Opening H) : Stage H :=
  { stage with
    activations := stage.activations ++ [{ opening := opening, waiting := opening.handlers }]
    stack := stage.activations.length :: stage.stack }

/-- What becomes of an activation. -/
def alter (stage : Stage H) (number : Nat) (activation : Activation H) : Stage H :=
  { stage with activations := stage.activations.set number activation }

/-- One move, if it can be made now. -/
def step (stage : Stage H) : Move H → Option (Stage H)
  | .bind key handler =>
    if stage.isFree then some { stage with bus := stage.bus.bind key handler } else none
  | .unbind key => if stage.isFree
      then some { stage with bus := (stage.bus.unbind key).1 } else none
  | .reset => if stage.isFree then some { stage with bus := stage.bus.reset } else none
  | .deliver event =>
    if stage.isFree then some { stage with bus := stage.bus.enqueue event } else none
  | .present event =>
    if stage.isFree then some (stage.begin ⟨event, stage.bus.handlersFor event, false⟩) else none
  | .dispatch =>
    if stage.isFree then
      match stage.bus.take? with
      | none => some { stage with answers := stage.answers ++ [false] }
      | some (event, handlers, after) =>
        some ({ stage with bus := after }.begin ⟨event, handlers, true⟩)
    else none
  | .call =>
    match stage.innermost? with
    | some (number, ⟨opening, called, handler :: waiting, .resting⟩) =>
      some { stage.alter number ⟨opening, called ++ [handler], waiting, .atWork⟩ with
        calls := stage.calls ++ [⟨number, handler, opening.event⟩] }
    | _ => none
  | .returned =>
    match stage.innermost? with
    | some (number, ⟨opening, called, waiting, .atWork⟩) =>
      some (stage.alter number ⟨opening, called, waiting, .resting⟩)
    | _ => none
  | .died =>
    match stage.innermost? with
    | some (number, ⟨opening, called, waiting, .atWork⟩) =>
      some { stage.alter number ⟨opening, called, waiting, .brokenOff⟩ with
        stack := stage.stack.tail }
    | _ => none
  | .finish =>
    match stage.innermost? with
    | some (number, ⟨opening, called, [], .resting⟩) =>
      some { stage.alter number ⟨opening, called, [], .ended⟩ with
        stack := stage.stack.tail
        answers := if opening.isQueued then stage.answers ++ [true] else stage.answers }
    | _ => none

def run (stage : Stage H) : List (Move H) → Option (Stage H)
  | [] => some stage
  | move :: moves => (stage.step move).bind fun after => after.run moves

/-- Everything that a move can do. -/
inductive Follows (before : Stage H) : Move H → Stage H → Prop where
  | bind (free : before.isFree) (key : Subscription) (handler : H) :
      Follows before (.bind key handler) { before with bus := before.bus.bind key handler }
  | unbind (free : before.isFree) (key : Subscription) :
      Follows before (.unbind key) { before with bus := (before.bus.unbind key).1 }
  | reset (free : before.isFree) : Follows before .reset { before with bus := before.bus.reset }
  | deliver (free : before.isFree) (event : Event) :
      Follows before (.deliver event) { before with bus := before.bus.enqueue event }
  | present (free : before.isFree) (event : Event) :
      Follows before (.present event) (before.begin ⟨event, before.bus.handlersFor event, false⟩)
  | dispatchNothing (free : before.isFree) (empty : before.bus.queue = []) :
      Follows before .dispatch { before with answers := before.answers ++ [false] }
  | dispatch (free : before.isFree) {event : Event} {after : LocalBus H}
      (queue : before.bus.queue = event :: after.queue)
      (bindings : after.bindings = before.bus.bindings) :
      Follows before .dispatch
        ({ before with bus := after }.begin ⟨event, before.bus.handlersFor event, true⟩)
  | call {number : Nat} {outer : List Nat} (top : before.stack = number :: outer)
      {opening : Opening H} {called waiting : List H} {handler : H}
      (found : before.activations[number]? = some ⟨opening, called, handler :: waiting, .resting⟩) :
      Follows before .call
        { before.alter number ⟨opening, called ++ [handler], waiting, .atWork⟩ with
          calls := before.calls ++ [⟨number, handler, opening.event⟩] }
  | returned {number : Nat} {outer : List Nat} (top : before.stack = number :: outer)
      {opening : Opening H} {called waiting : List H}
      (found : before.activations[number]? = some ⟨opening, called, waiting, .atWork⟩) :
      Follows before .returned (before.alter number ⟨opening, called, waiting, .resting⟩)
  | died {number : Nat} {outer : List Nat} (top : before.stack = number :: outer)
      {opening : Opening H} {called waiting : List H}
      (found : before.activations[number]? = some ⟨opening, called, waiting, .atWork⟩) :
      Follows before .died
        { before.alter number ⟨opening, called, waiting, .brokenOff⟩ with
          stack := before.stack.tail }
  | finish {number : Nat} {outer : List Nat} (top : before.stack = number :: outer)
      {opening : Opening H} {called : List H}
      (found : before.activations[number]? = some ⟨opening, called, [], .resting⟩) :
      Follows before .finish
        { before.alter number ⟨opening, called, [], .ended⟩ with
          stack := before.stack.tail
          answers := if opening.isQueued then before.answers ++ [true] else before.answers }

theorem innermost?_eq_some_iff {stage : Stage H} {number : Nat} {activation : Activation H} :
    stage.innermost? = some (number, activation) ↔
      (∃ outer, stage.stack = number :: outer) ∧ stage.activations[number]? = some activation := by
  unfold innermost?
  cases stage.stack with
  | nil => simp
  | cons top outer =>
    simp only [List.head?_cons, Option.bind_some, Option.map_eq_some_iff, Prod.mk.injEq,
      List.cons.injEq]
    constructor
    · rintro ⟨there, found, rfl, rfl⟩
      exact ⟨⟨outer, rfl, rfl⟩, found⟩
    · rintro ⟨⟨_, rfl, rfl⟩, found⟩
      exact ⟨activation, found, rfl, rfl⟩

theorem follows_of_step {stage after : Stage H} {move : Move H}
    (stepped : stage.step move = some after) : Follows stage move after := by
  cases move <;> dsimp only [step] at stepped
  case bind key handler =>
    split at stepped <;> cases stepped
    rename_i free
    exact .bind free key handler
  case unbind key =>
    split at stepped <;> cases stepped
    rename_i free
    exact .unbind free key
  case reset =>
    split at stepped <;> cases stepped
    rename_i free
    exact .reset free
  case deliver event =>
    split at stepped <;> cases stepped
    rename_i free
    exact .deliver free event
  case present event =>
    split at stepped <;> cases stepped
    rename_i free
    exact .present free event
  case dispatch =>
    split at stepped
    · rename_i free
      split at stepped
      · rename_i nothing
        cases stepped
        exact .dispatchNothing free (queue_of_take?_eq_none nothing)
      · rename_i event handlers bus taken
        cases stepped
        obtain ⟨queue, bindings, rfl⟩ := take?_eq_some_iff.mp taken
        exact .dispatch free queue bindings
    · cases stepped
  case call =>
    split at stepped <;> cases stepped
    rename_i innermost
    obtain ⟨⟨_, top⟩, found⟩ := innermost?_eq_some_iff.mp innermost
    exact .call top found
  case returned =>
    split at stepped <;> cases stepped
    rename_i innermost
    obtain ⟨⟨_, top⟩, found⟩ := innermost?_eq_some_iff.mp innermost
    exact .returned top found
  case died =>
    split at stepped <;> cases stepped
    rename_i innermost
    obtain ⟨⟨_, top⟩, found⟩ := innermost?_eq_some_iff.mp innermost
    exact .died top found
  case finish =>
    split at stepped <;> cases stepped
    rename_i innermost
    obtain ⟨⟨_, top⟩, found⟩ := innermost?_eq_some_iff.mp innermost
    exact .finish top found

theorem length_begin (stage : Stage H) (opening : Opening H) :
    (stage.begin opening).activations.length = stage.activations.length + 1 :=
  List.length_append

theorem length_alter (stage : Stage H) (number : Nat) (changed : Activation H) :
    (stage.alter number changed).activations.length = stage.activations.length :=
  List.length_set

/-- The activations other than an altered one are as they were. -/
theorem getElem?_alter (stage : Stage H) (number other : Nat) (changed : Activation H) :
    (stage.alter number changed).activations[other]? =
      if number = other then stage.activations[other]?.map fun _ => changed
      else stage.activations[other]? := by
  show (stage.activations.set number changed)[other]? = _
  rw [List.getElem?_set]
  split
  · rename_i same
    subst same
    by_cases there : number < stage.activations.length <;> simp [there]
  · rfl

/-! ### Runs within runs -/

/-- An event that a handler hands out is over before the handler goes on. -/
structure Nested (stage : Stage H) : Prop where
  descending : stage.stack.Pairwise fun inner outer => outer < inner
  below : ∀ number ∈ stage.stack, number < stage.activations.length
  underWay : ∀ number activation, stage.activations[number]? = some activation →
    (number ∈ stage.stack ↔ activation.isUnderWay)
  atWork : ∀ number ∈ stage.stack.tail, ∀ activation, stage.activations[number]? = some activation →
    activation.phase = .atWork

namespace Nested

variable {stage : Stage H}

theorem fresh : Nested ({} : Stage H) where
  descending := .nil
  below := fun _ member => nomatch member
  underWay := fun _ _ found => nomatch found
  atWork := fun _ member => nomatch member

/-- Only the events on their way count. -/
theorem of_same (nested : Nested stage) {after : Stage H} (stack : after.stack = stage.stack)
    (activations : after.activations = stage.activations) : Nested after := by
  obtain ⟨descending, below, underWay, atWork⟩ := nested
  rw [← stack, ← activations] at below underWay atWork
  exact ⟨stack ▸ descending, below, underWay, atWork⟩

/-- Whoever hands out an event within another is a handler at work. -/
theorem atWork_of_isFree (nested : Nested stage) (free : stage.isFree) :
    ∀ number ∈ stage.stack, ∀ activation, stage.activations[number]? = some activation →
      activation.phase = .atWork := by
  intro number member activation found
  unfold isFree at free
  cases stack : stage.stack with
  | nil =>
    rw [stack] at member
    cases member
  | cons top outer =>
    rw [stack] at member free
    rcases List.mem_cons.mp member with rfl | inside
    · simpa [found] using free
    · exact nested.atWork number (by rwa [stack]) activation found

theorem begin (nested : Nested stage) (free : stage.isFree) (opening : Opening H) :
    Nested (stage.begin opening) where
  descending := List.pairwise_cons.mpr ⟨nested.below, nested.descending⟩
  below := by
    intro number member
    rw [length_begin]
    rcases List.mem_cons.mp member with rfl | before
    · exact Nat.lt_succ_self _
    · exact Nat.lt_succ_of_lt (nested.below number before)
  underWay := by
    intro number activation found
    rcases found_or_new_of_snoc found with old | ⟨rfl, rfl⟩
    · have inside : number < stage.activations.length := (List.getElem?_eq_some_iff.mp old).1
      rw [← nested.underWay number activation old]
      exact ⟨fun member => (List.mem_cons.mp member).resolve_left (Nat.ne_of_lt inside),
        List.mem_cons_of_mem _⟩
    · exact ⟨fun _ => rfl, fun _ => List.mem_cons_self⟩
  atWork := by
    intro number member activation found
    have there : stage.activations[number]? = some activation := by
      rw [← List.getElem?_append_left (nested.below number member)]
      exact found
    exact nested.atWork_of_isFree free number member activation there

theorem onward (nested : Nested stage) {number : Nat} {outer : List Nat}
    (top : stage.stack = number :: outer) {changed : Activation H} (underWay : changed.isUnderWay) :
    Nested (stage.alter number changed) where
  descending := nested.descending
  below := by
    intro other member
    rw [length_alter]
    exact nested.below other member
  underWay := by
    intro other activation found
    rw [getElem?_alter] at found
    split at found
    · rename_i same
      subst same
      obtain ⟨_, _, rfl⟩ := Option.map_eq_some_iff.mp found
      have isTop : number ∈ stage.stack := by
        rw [top]
        exact List.mem_cons_self
      exact ⟨fun _ => underWay, fun _ => isTop⟩
    · exact nested.underWay other activation found
  atWork := by
    intro other member activation found
    have inside : other ∈ outer := by
      have tail : stage.stack.tail = outer := congrArg List.tail top
      rw [← tail]
      exact member
    have descending := nested.descending
    rw [top] at descending
    have apart : number ≠ other := Nat.ne_of_gt (List.rel_of_pairwise_cons descending inside)
    rw [getElem?_alter, if_neg apart] at found
    exact nested.atWork other member activation found

theorem leave (nested : Nested stage) {number : Nat} {outer : List Nat}
    (top : stage.stack = number :: outer) {changed : Activation H} (isOver : ¬ changed.isUnderWay)
    (answers : List Bool) :
    Nested { stage.alter number changed with stack := stage.stack.tail, answers := answers } := by
  have descending := nested.descending
  have below := nested.below
  have underWay := nested.underWay
  have atWork := nested.atWork
  simp only [top] at descending below underWay atWork ⊢
  have aside : ∀ other ∈ outer, number ≠ other := fun other inside =>
    Nat.ne_of_gt (List.rel_of_pairwise_cons descending inside)
  refine ⟨descending.of_cons, ?_, ?_, ?_⟩
  · intro other member
    rw [length_alter]
    exact below other (List.mem_cons_of_mem number member)
  · intro other activation found
    rw [getElem?_alter] at found
    split at found
    · rename_i same
      subst same
      obtain ⟨_, _, rfl⟩ := Option.map_eq_some_iff.mp found
      exact ⟨fun member => absurd rfl (aside number member), fun under => absurd under isOver⟩
    · rename_i apart
      rw [← underWay other activation found]
      exact ⟨List.mem_cons_of_mem number,
        fun member => (List.mem_cons.mp member).resolve_left (Ne.symm apart)⟩
  · intro other member activation found
    have inside : other ∈ outer := List.mem_of_mem_tail member
    rw [getElem?_alter, if_neg (aside other inside)] at found
    exact atWork other inside activation found

theorem step (nested : Nested stage) {move : Move H} {after : Stage H}
    (follows : Follows stage move after) : Nested after := by
  cases follows with
  | bind | unbind | reset | deliver | dispatchNothing => exact nested.of_same rfl rfl
  | present free event => exact nested.begin free _
  | @dispatch free event bus =>
    have taken : Nested { stage with bus := bus } := nested.of_same rfl rfl
    exact taken.begin free _
  | call top => exact (nested.onward top rfl).of_same rfl rfl
  | returned top => exact nested.onward top rfl
  | died top => exact nested.leave top (by simp [Activation.isUnderWay]) _
  | finish top => exact nested.leave top (by simp [Activation.isUnderWay]) _

/-- Somebody may do something to the bus, or the innermost event goes on. -/
theorem goes_on (nested : Nested stage) :
    stage.isFree ∨ (∃ later, stage.step .call = some later) ∨
      ∃ later, stage.step .finish = some later := by
  cases stack : stage.stack with
  | nil => exact .inl (by simp [isFree, stack])
  | cons number outer =>
    have isTop : number ∈ stage.stack := by
      rw [stack]
      exact List.mem_cons_self
    obtain ⟨activation, found⟩ : ∃ activation, stage.activations[number]? = some activation :=
      ⟨_, List.getElem?_eq_getElem (nested.below number isTop)⟩
    have innermost : stage.innermost? = some (number, activation) :=
      innermost?_eq_some_iff.mpr ⟨⟨outer, stack⟩, found⟩
    have underWay := (nested.underWay number activation found).mp isTop
    obtain ⟨opening, called, waiting, phase⟩ := activation
    cases phase with
    | atWork => exact .inl (by simp [isFree, stack, found])
    | resting =>
      refine .inr ?_
      cases waiting with
      | nil => exact .inr ⟨_, by simp only [Stage.step, innermost]; rfl⟩
      | cons handler waiting => exact .inl ⟨_, by simp only [Stage.step, innermost]; rfl⟩
    | ended => simp [Activation.isUnderWay] at underWay
    | brokenOff => simp [Activation.isUnderWay] at underWay

end Nested

theorem run_append (stage : Stage H) (moves others : List (Move H)) :
    stage.run (moves ++ others) = (stage.run moves).bind fun later => later.run others := by
  induction moves generalizing stage with
  | nil => rfl
  | cons move moves inductionHypothesis =>
    simp only [List.cons_append, run]
    cases stage.step move with
    | none => rfl
    | some after => exact inductionHypothesis after

theorem run_singleton (stage : Stage H) (move : Move H) : stage.run [move] = stage.step move :=
  Option.bind_fun_some (stage.step move)

end Stage

end LocalBus

end EventTransport
