import EventTransport.Proofs.Channel.Delivery
import EventTransport.Proofs.Channel.Writing

/-!
Contract: what a strand does about the operations submitted to it.

Owns:
- what a record tells of operations submitted, of those that the strand takes up, and of what it
  does about them: calls of handlers, their returns, and single bytes;
- `Channel.Serves`, the invariant of every session in which the strand alone dispatches and no
  handler dies, with one lemma for each thing that moves do to it.

The record is told in two parts, of what happened before the strand left its loop and of what
happened after. A dispatch is known by the event that it was submitted with, although it takes
whichever is the oldest.

Does not own: what is in the bytes read, whether the strand gets through.
-/

namespace EventTransport

namespace Channel

variable {H : Type}

/-! ### What a record tells -/

/-- An operation, and the event that it was submitted for. -/
inductive Work where
  | dispatch (event : Event)
  | write (event : Event)
deriving DecidableEq

namespace Work

def operation : Work → Operation
  | dispatch _ => .dispatch
  | write event => .write event

def delivered? : Work → Option Event
  | dispatch event => some event
  | write _ => none

def isDispatch : Work → Bool
  | dispatch _ => true
  | write _ => false

theorem front_of_write {works : List Work} {event : Event} {later : List Operation}
    (operations : works.map operation = .write event :: later) :
    ∃ rest, works = write event :: rest ∧ rest.map operation = later := by
  obtain ⟨work, rest, rfl, same, further⟩ := List.map_eq_cons_iff.mp operations
  cases work with
  | dispatch other => cases same
  | write other =>
      cases same
      exact ⟨rest, rfl, further⟩

theorem front_of_dispatch {works : List Work} {later : List Operation}
    (operations : works.map operation = .dispatch :: later) :
    ∃ event rest, works = dispatch event :: rest ∧ rest.map operation = later := by
  obtain ⟨work, rest, rfl, same, further⟩ := List.map_eq_cons_iff.mp operations
  cases work with
  | dispatch event => exact ⟨event, rest, rfl, further⟩
  | write event => cases same

end Work

/-- What the strand does that others can see. -/
inductive Effect (H : Type) where
  | called (event : Event) (handler : H)
  | returned
  | wrote (byte : UInt8)
deriving DecidableEq

/-- An operation that the strand has taken up. -/
inductive Job (H : Type) where
  | dispatch (event : Event) (handlers : List H)
  | write (event : Event) (frame : Bytes)
  /-- A write of an event that cannot be framed. -/
  | unframed (event : Event)

def callEffects (event : Event) (handlers : List H) : List (Effect H) :=
  handlers.flatMap fun handler => [.called event handler, .returned]

namespace Job

def work : Job H → Work
  | dispatch event _ => .dispatch event
  | write event _ => .write event
  | unframed event => .write event

def effects : Job H → List (Effect H)
  | dispatch event handlers => callEffects event handlers
  | write _ frame => frame.map .wrote
  | unframed _ => []

end Job

/-- Whether a move leaves dispatching to the strand, and the strand alive. -/
def Move.isOrderly : Move H → Bool
  | act .dispatch => false
  | died => false
  | _ => true

namespace Made

/-- What was submitted by a call, or by the read loop with an event that it put into the queue. -/
def submitted (made : Made H) : List Work :=
  match made.move with
  | .act (.send event) => if made.before.state = .closed then [] else [.write event]
  | .act (.deliver event) => [.dispatch event]
  | .readerTurn => (made.after.bus.queue.drop made.before.bus.queue.length).map .dispatch
  | _ => []

def begun (made : Made H) : List (Job H) :=
  match made.move, made.before.strand, made.before.operations, made.after.strand with
  | .strandTurn, .between _, .dispatch :: _, .calling _ event handlers => [.dispatch event handlers]
  | .strandTurn, .between .running, .write event :: _, .writing _ frame => [.write event frame]
  | .strandTurn, .between .running, .write event :: _, .between _ =>
    if made.before.cancelled then [] else [.unframed event]
  | _, _, _, _ => []

def effects (made : Made H) : List (Effect H) :=
  match made.move, made.before.strand with
  | .call, .calling _ event (handler :: _) => [.called event handler]
  | .returned, _ => [.returned]
  | .wrote count, .writing _ bytes => (bytes.take count).map .wrote
  | _, _ => []

def isLate (made : Made H) : Bool := hasLeft made.before.strand

end Made

end Channel

namespace Session

open Channel

variable {H : Type}

/-! Moves are in time until the strand has left its loop, and late from then on. What is submitted
counts as long as the strand takes anything. -/

def inTime (session : Session H) : List (Made H) :=
  session.past.filter fun made => !made.isLate

def late (session : Session H) : List (Made H) := session.past.filter Made.isLate

def submitted (session : Session H) : List Work := session.inTime.flatMap Made.submitted

def executed (session : Session H) : List (Job H) := session.inTime.flatMap Made.begun

def performed (session : Session H) : List (Effect H) := session.inTime.flatMap Made.effects

def drained (session : Session H) : List (Job H) := session.late.flatMap Made.begun

def performedLate (session : Session H) : List (Effect H) := session.late.flatMap Made.effects

def isRefused (session : Session H) : Bool := session.past.any Made.isRefused

end Session

namespace Channel

variable {H : Type}

/-! ### The invariant -/

/-- What the strand is still to do about the operation that it has taken up. -/
def effectsLeft : Strand H → List (Effect H)
  | .calling _ event handlers => callEffects event handlers
  | .writing _ rest => rest.map .wrote
  | _ => []

/-- The same, with a handler at work that is to return first. -/
def unfinished (strand : Strand H) (atWork : Bool) : List (Effect H) :=
  (if atWork then [.returned] else []) ++ effectsLeft strand

/-- What a record tells of a session. -/
structure Tale (H : Type) where
  submitted : List Work := []
  executed : List (Job H) := []
  performed : List (Effect H) := []
  drained : List (Job H) := []
  performedLate : List (Effect H) := []
  refused : Bool := false

def Tale.tell (tale : Tale H) (made : Made H) : Tale H :=
  if made.isLate then
    { tale with
      drained := tale.drained ++ made.begun
      performedLate := tale.performedLate ++ made.effects
      refused := tale.refused || made.isRefused }
  else
    { tale with
      submitted := tale.submitted ++ made.submitted
      executed := tale.executed ++ made.begun
      performed := tale.performed ++ made.effects
      refused := tale.refused || made.isRefused }

theorem Tale.tell_of_inTime (tale : Tale H) {made : Made H}
    (stays : hasLeft made.before.strand = false) :
    tale.tell made =
      { tale with
        submitted := tale.submitted ++ made.submitted
        executed := tale.executed ++ made.begun
        performed := tale.performed ++ made.effects
        refused := tale.refused || made.isRefused } :=
  if_neg (Bool.eq_false_iff.mp stays)

theorem Tale.tell_of_late (tale : Tale H) {made : Made H}
    (left : hasLeft made.before.strand = true) :
    tale.tell made =
      { tale with
        drained := tale.drained ++ made.begun
        performedLate := tale.performedLate ++ made.effects
        refused := tale.refused || made.isRefused } :=
  if_pos left

/-- What is submitted waits in that order until it is taken up, and of what has been taken up
everything has been done but what is unfinished. -/
inductive Serves (channel : Channel H) (atWork : Bool) (tale : Tale H) : Prop where
  /-- The strand is in its loop, or has not begun. -/
  | inTime (waiting : List Work) (stays : hasLeft channel.strand = false)
    (accepting : channel.accepting = true)
    (submitted : tale.submitted = tale.executed.map Job.work ++ waiting)
    (operations : channel.operations = waiting.map Work.operation)
    (queue : channel.bus.queue = waiting.filterMap Work.delivered?)
    (performed : tale.performed ++ unfinished channel.strand atWork =
      tale.executed.flatMap Job.effects)
    (notDrained : tale.drained = []) (notLate : tale.performedLate = [])
  /-- The strand has left its loop; some of what had waited has been dealt with since. -/
  | late (passed waiting : List Work) (later : List Event) (left : hasLeft channel.strand = true)
    (refuses : channel.accepting = false)
    (through : isThrough channel.strand = true → waiting = [])
    (submitted : tale.submitted = tale.executed.map Job.work ++ (passed ++ waiting))
    (operations : channel.operations = waiting.map Work.operation)
    (queue : channel.bus.queue = waiting.filterMap Work.delivered? ++ later)
    (performed : tale.performed <+: tale.executed.flatMap Job.effects)
    (whole : tale.refused = false → tale.performed = tale.executed.flatMap Job.effects)
    (drained : tale.drained.map Job.work = passed.filter Work.isDispatch)
    (performedLate : tale.performedLate ++ unfinished channel.strand atWork =
      tale.drained.flatMap Job.effects)

theorem operations_post_eq (channel : Channel H) (operation : Operation) :
    (channel.post operation).operations =
      if channel.accepting then channel.operations ++ [operation] else channel.operations := by
  unfold post
  split <;> rfl

namespace Serves

variable {channel : Channel H} {atWork : Bool} {tale : Tale H}

theorem fresh (config : Config) (codec : Codec) :
    Serves ({ config := config, codec := codec } : Channel H) false {} :=
  .inTime [] rfl rfl (List.append_nil _).symm rfl rfl rfl rfl rfl

/-- A move by which nothing is taken up, and of what is unfinished at most the beginning is done. -/
theorem goOn (made : Made H) {afterAtWork : Bool} (serves : made.before.Serves atWork tale)
    (submitsNothing : made.submitted = []) (beginsNothing : made.begun = [])
    (notRefused : made.isRefused = false)
    (operations : made.after.operations = made.before.operations)
    (accepting : made.after.accepting = made.before.accepting)
    (queue : made.after.bus.queue = made.before.bus.queue)
    (left : hasLeft made.after.strand = hasLeft made.before.strand)
    (through : isThrough made.after.strand = true →
      isThrough made.before.strand = true ∨ made.before.operations = [])
    (does : made.effects ++ unfinished made.after.strand afterAtWork =
      unfinished made.before.strand atWork) :
    made.after.Serves afterAtWork (tale.tell made) := by
  cases serves with
  | inTime waiting stays accepts submitted waits queued performed notDrained notLate =>
      rw [Tale.tell_of_inTime tale stays, submitsNothing, beginsNothing, notRefused,
        List.append_nil, List.append_nil]
      refine .inTime waiting (left.trans stays) (accepting.trans accepts) submitted
        (operations.trans waits) (queue.trans queued) ?_ notDrained notLate
      rw [← performed, ← does, ← List.append_assoc]
  | late passed waiting later hasLeft refuses isThrough submitted waits queued performed whole
      drained performedLate =>
      rw [Tale.tell_of_late tale hasLeft, beginsNothing, notRefused, List.append_nil,
        Bool.or_false]
      refine .late passed waiting later (left.trans hasLeft) (accepting.trans refuses) ?_ submitted
        (operations.trans waits) (queue.trans queued) performed whole drained ?_
      · intro through'
        rcases through through' with already | nothing
        · exact isThrough already
        · rw [waits] at nothing
          exact List.map_eq_nil_iff.mp nothing
      · rw [← performedLate, ← does, ← List.append_assoc]

theorem submit (made : Made H) (serves : made.before.Serves atWork tale) {work : Work}
    (submits : made.submitted = [work]) (beginsNothing : made.begun = [])
    (doesNothing : made.effects = []) (notRefused : made.isRefused = false)
    (strand : made.after.strand = made.before.strand)
    (accepting : made.after.accepting = made.before.accepting)
    (operations : made.after.operations =
      if made.before.accepting then made.before.operations ++ [work.operation]
      else made.before.operations)
    (queue : made.after.bus.queue = made.before.bus.queue ++ work.delivered?.toList) :
    made.after.Serves atWork (tale.tell made) := by
  cases serves with
  | inTime waiting stays accepts submitted waits queued performed notDrained notLate =>
      rw [Tale.tell_of_inTime tale stays, submits, beginsNothing, doesNothing, notRefused,
        List.append_nil, List.append_nil]
      rw [accepts, if_pos rfl, waits] at operations
      have arrived : made.after.bus.queue = (waiting ++ [work]).filterMap Work.delivered? := by
        rw [queue, queued, List.filterMap_append]
        cases work <;> rfl
      refine .inTime (waiting ++ [work]) ?_ (accepting.trans accepts) ?_ ?_ arrived ?_ notDrained
        notLate
      · rw [strand]
        exact stays
      · show tale.submitted ++ [work] = _
        rw [submitted, List.append_assoc]
      · rw [operations, List.map_append]
        rfl
      · rw [strand]
        exact performed
  | late passed waiting later left refuses isThrough submitted waits queued performed whole
      drained performedLate =>
      -- Nothing is taken any more; only the queue of the bus still grows.
      rw [Tale.tell_of_late tale left, beginsNothing, doesNothing, notRefused, List.append_nil,
        List.append_nil, Bool.or_false]
      rw [refuses, if_neg Bool.false_ne_true] at operations
      rw [queued, List.append_assoc] at queue
      rw [← strand] at left isThrough performedLate
      exact .late passed waiting (later ++ work.delivered?.toList) left (accepting.trans refuses)
        isThrough submitted (operations.trans waits) queue performed whole drained performedLate

theorem takeUp (made : Made H) (serves : made.before.Serves false tale) {stage : StrandStage}
    {job : Job H} (strand : made.before.strand = .between stage)
    (submitsNothing : made.submitted = []) (begins : made.begun = [job])
    (doesNothing : made.effects = []) (notRefused : made.isRefused = false)
    (front : ∀ waiting later, made.before.operations = waiting.map Work.operation →
      made.before.bus.queue = waiting.filterMap Work.delivered? ++ later →
      ∃ rest, waiting = job.work :: rest ∧ made.after.operations = rest.map Work.operation ∧
        made.after.bus.queue = rest.filterMap Work.delivered? ++ later)
    (accepting : made.after.accepting = made.before.accepting)
    (left : hasLeft made.after.strand = hasLeft made.before.strand)
    (notThrough : isThrough made.after.strand = false)
    (onlyDispatches : hasLeft made.before.strand = true → job.work.isDispatch = true)
    (todo : unfinished made.after.strand false = job.effects) :
    made.after.Serves false (tale.tell made) := by
  have idle : unfinished made.before.strand false = [] := by
    rw [strand]
    rfl
  cases serves with
  | inTime waiting stays accepts submitted waits queued performed notDrained notLate =>
      rw [← List.append_nil (waiting.filterMap _)] at queued
      obtain ⟨rest, rfl, operations, queue⟩ := front waiting [] waits queued
      rw [List.append_nil] at queue
      rw [idle, List.append_nil] at performed
      rw [Tale.tell_of_inTime tale stays, submitsNothing, begins, doesNothing, notRefused,
        List.append_nil, List.append_nil]
      refine .inTime rest (left.trans stays) (accepting.trans accepts) ?_ operations queue ?_
        notDrained notLate
      · show tale.submitted = (tale.executed ++ [job]).map Job.work ++ rest
        rw [submitted, List.map_append, List.append_assoc]
        rfl
      · show tale.performed ++ _ = (tale.executed ++ [job]).flatMap Job.effects
        rw [todo, performed, List.flatMap_append, List.flatMap_singleton]
  | late passed waiting later hasLeft refuses isThrough submitted waits queued performed whole
      drained performedLate =>
      -- What is taken up now has passed, like the writes that were dropped.
      obtain ⟨rest, rfl, operations, queue⟩ := front waiting later waits queued
      rw [idle, List.append_nil] at performedLate
      rw [Tale.tell_of_late tale hasLeft, begins, doesNothing, notRefused, List.append_nil,
        Bool.or_false]
      refine .late (passed ++ [job.work]) rest later (left.trans hasLeft) (accepting.trans refuses)
        ?_ ?_ operations queue performed whole ?_ ?_
      · rw [notThrough]
        exact fun impossible => nomatch impossible
      · rw [submitted, List.append_assoc passed]
        rfl
      · show (tale.drained ++ [job]).map Job.work = _
        rw [List.map_append, drained, List.filter_append,
          List.filter_cons_of_pos (onlyDispatches hasLeft)]
        rfl
      · show tale.performedLate ++ _ = (tale.drained ++ [job]).flatMap Job.effects
        rw [todo, performedLate, List.flatMap_append, List.flatMap_singleton]

/-- The strand leaves its loop, perhaps with a write that it has taken up or not finished. -/
theorem leave (made : Made H) (serves : made.before.Serves atWork tale)
    (stays : hasLeft made.before.strand = false) {outcome : Outcome}
    (leaves : made.after.strand = .between (.draining outcome))
    (submitsNothing : made.submitted = []) (doesNothing : made.effects = [])
    (beginsIdly : made.begun.flatMap Job.effects = [])
    (front : ∀ waiting, made.before.operations = waiting.map Work.operation →
      ∃ rest, waiting = made.begun.map Job.work ++ rest ∧
        made.after.operations = rest.map Work.operation ∧
        waiting.filterMap Work.delivered? = rest.filterMap Work.delivered?)
    (refuses : made.after.accepting = false)
    (queue : made.after.bus.queue = made.before.bus.queue)
    (whole : made.isRefused = false → unfinished made.before.strand atWork = []) :
    made.after.Serves false (tale.tell made) := by
  cases serves with
  | late passed waiting later left => exact absurd left (Bool.eq_false_iff.mp stays)
  | inTime waiting _ _ submitted waits queued performed notDrained notLate =>
      -- A write that cannot be framed counts as taken up; nothing has passed yet.
      obtain ⟨rest, taken, operations, sameEvents⟩ := front waiting waits
      rw [Tale.tell_of_inTime tale stays, submitsNothing, doesNothing, List.append_nil,
        List.append_nil]
      have noLonger : (tale.executed ++ made.begun).flatMap Job.effects =
          tale.executed.flatMap Job.effects := by
        rw [List.flatMap_append, beginsIdly, List.append_nil]
      refine .late [] rest [] ?_ refuses ?_ ?_ operations ?_ ?_ ?_ ?_ ?_
      · rw [leaves]
        rfl
      · rw [leaves]
        exact fun impossible => nomatch impossible
      · show tale.submitted = (tale.executed ++ made.begun).map Job.work ++ _
        rw [submitted, taken, List.map_append, List.append_assoc]
        rfl
      · rw [queue, queued, sameEvents, List.append_nil]
      · show tale.performed <+: (tale.executed ++ made.begun).flatMap Job.effects
        rw [noLonger, ← performed]
        exact List.prefix_append _ _
      · intro intact
        obtain ⟨_, finished⟩ := Bool.or_eq_false_iff.mp intact
        show tale.performed = (tale.executed ++ made.begun).flatMap Job.effects
        rw [noLonger, ← performed, whole finished, List.append_nil]
      · rw [notDrained]
        rfl
      · rw [leaves, notLate, notDrained]
        rfl

theorem discard (made : Made H) (serves : made.before.Serves false tale) {outcome : Outcome}
    {event : Event} {rest : List Operation}
    (strand : made.before.strand = .between (.draining outcome))
    (operations : made.before.operations = .write event :: rest)
    (moved : made.after = { made.before with operations := rest })
    (beginsNothing : made.begun = []) (doesNothing : made.effects = [])
    (notRefused : made.isRefused = false) : made.after.Serves false (tale.tell made) := by
  cases serves with
  | inTime waiting stays =>
      rw [strand] at stays
      cases stays
  | late passed waiting later left refuses through submitted waits queued performed whole drained
      performedLate =>
      obtain ⟨remaining, rfl, waitsStill⟩ := Work.front_of_write (operations.symm.trans waits).symm
      rw [Tale.tell_of_late tale left, beginsNothing, doesNothing, notRefused, List.append_nil,
        List.append_nil, Bool.or_false, moved]
      refine .late (passed ++ [.write event]) remaining later left refuses ?_ ?_
        waitsStill.symm queued
        performed whole ?_ performedLate
      · show isThrough made.before.strand = true → _
        rw [strand]
        exact fun impossible => nomatch impossible
      · rw [submitted, List.append_assoc passed]
        rfl
      · rw [drained, List.filter_append]
        exact (List.append_nil _).symm

/-! ### Every move -/

/-- A move that concerns neither the strand nor what waits for it. -/
theorem aside (made : Made H) (serves : made.before.Serves atWork tale)
    (submitsNothing : made.submitted = []) (beginsNothing : made.begun = [])
    (doesNothing : made.effects = []) (notRefused : made.isRefused = false)
    (operations : made.after.operations = made.before.operations)
    (accepting : made.after.accepting = made.before.accepting)
    (queue : made.after.bus.queue = made.before.bus.queue)
    (strand : made.after.strand = made.before.strand) :
    made.after.Serves atWork (tale.tell made) := by
  apply serves.goOn made submitsNothing beginsNothing notRefused operations accepting queue
  · rw [strand]
  · rw [strand]
    exact .inl
  · rw [doesNothing, strand]
    rfl

theorem start (serves : channel.Serves atWork tale) (lowLatency : Except StreamFault Unit) :
    (channel.start lowLatency).channel.Serves atWork
      (tale.tell ⟨channel, .act (.start lowLatency), (channel.start lowLatency).channel⟩) := by
  unfold Channel.start
  split
  · apply serves.aside ⟨channel, _, channel⟩ <;> rfl
  · apply serves.aside ⟨channel, _, channel⟩ <;> rfl
  · rename_i starts
    have absent := absent_of_starts starts
    refine serves.goOn ⟨channel, .act (.start lowLatency), _⟩ rfl rfl rfl rfl rfl rfl ?_ ?_ ?_
    · rw [absent]
      rfl
    · exact fun impossible => nomatch impossible
    · rw [absent]
      rfl

theorem send (serves : channel.Serves atWork tale) (event : Event) :
    (channel.send event).Serves atWork
      (tale.tell ⟨channel, .act (.send event), channel.send event⟩) := by
  unfold Channel.send
  split
  · rename_i closed
    exact serves.aside ⟨channel, .act (.send event), channel⟩
      (if_pos closed) rfl rfl rfl rfl rfl rfl
      rfl
  · rename_i isOpen
    refine serves.submit ⟨channel, .act (.send event), channel.post (.write event)⟩ (if_neg isOpen)
      rfl rfl rfl ?_ ?_ ?_ ?_
    · exact strand_post _ _
    · exact accepting_post _ _
    · exact operations_post_eq channel _
    · rw [bus_post]
      exact (List.append_nil _).symm

theorem deliver (serves : channel.Serves atWork tale) (move : Move H) (reader : ReadLoop)
    (event : Event) :
    let made : Made H := ⟨channel, move, { channel with reader := reader }.deliver event⟩
    made.submitted = [.dispatch event] → made.begun = [] → made.effects = [] →
      made.isRefused = false → made.after.Serves atWork (tale.tell made) := by
  intro made submits beginsNothing doesNothing notRefused
  refine serves.submit made submits beginsNothing doesNothing notRefused ?_ ?_ ?_ ?_
  · exact strand_post _ _
  · exact accepting_post _ _
  · exact operations_post_eq _ _
  · exact congrArg LocalBus.queue (bus_post _ _)

theorem perform (serves : channel.Serves atWork tale) {act : Act H}
    (orderly : (Move.act act).isOrderly = true) :
    (channel.perform act).Serves atWork (tale.tell ⟨channel, .act act, channel.perform act⟩) := by
  cases act with
  | start lowLatency => exact serves.start lowLatency
  | send event => exact serves.send event
  | deliver event =>
      exact serves.deliver (.act (.deliver event)) channel.reader event rfl rfl rfl rfl
  | dispatch => cases orderly
  | unbind key =>
      exact serves.aside ⟨channel, .act (.unbind key), _⟩ rfl rfl rfl rfl rfl rfl
        (LocalBus.queue_unbind _ _) rfl
  | stop | bind | reset => apply serves.aside ⟨channel, _, _⟩ <;> rfl

theorem readerTurn {after : Channel H} (serves : channel.Serves atWork tale)
    (moves : Moves channel .readerTurn after) :
    after.Serves atWork (tale.tell ⟨channel, .readerTurn, after⟩) := by
  have unchanged {later : Channel H} (queue : later.bus.queue = channel.bus.queue) :
      (Made.mk channel .readerTurn later).submitted = [] := by
    simp [Made.submitted, queue]
  cases moves with
  | starved | invalid | unfinished =>
      apply serves.aside ⟨channel, .readerTurn, _⟩ (unchanged ?_) <;> rfl
  | @decoded buffer event count reader decoded =>
      refine serves.deliver .readerTurn (.decoding (buffer.drop count)) event ?_ rfl rfl rfl
      simp [Made.submitted, Channel.deliver]

/-- The event that is taken for a dispatch is the one that it was submitted with. -/
theorem front_of_taken {works : List Work} {later : List Operation} {extra : List Event}
    {event : Event} {handlers : List H} {bus after : LocalBus H}
    (operations : works.map Work.operation = .dispatch :: later)
    (queue : bus.queue = works.filterMap Work.delivered? ++ extra)
    (taken : bus.take? = some (event, handlers, after)) :
    ∃ rest, works = .dispatch event :: rest ∧ later = rest.map Work.operation ∧
      after.queue = rest.filterMap Work.delivered? ++ extra := by
  obtain ⟨submitted, rest, rfl, further⟩ := Work.front_of_dispatch operations
  obtain ⟨oldest, _, _⟩ := LocalBus.take?_eq_some_iff.mp taken
  have front : event :: after.queue =
      submitted :: (rest.filterMap Work.delivered? ++ extra) := oldest.symm.trans queue
  obtain ⟨rfl, remaining⟩ := List.cons.inj front
  exact ⟨rest, rfl, further.symm, remaining⟩

/-- A strand of this invariant finds an event for every dispatch. -/
theorem exists_taken (serves : channel.Serves atWork tale) {later : List Operation}
    (operations : channel.operations = .dispatch :: later) : channel.bus.take? ≠ none := by
  intro nothing
  have empty : channel.bus.queue = [] := LocalBus.queue_of_take?_eq_none nothing
  cases serves with
  | inTime waiting stays accepts submitted waits queued =>
      obtain ⟨event, rest, rfl, _⟩ := Work.front_of_dispatch (waits.symm.trans operations)
      rw [empty] at queued
      cases queued
  | late passed waiting extra left refuses through submitted waits queued =>
      obtain ⟨event, rest, rfl, _⟩ := Work.front_of_dispatch (waits.symm.trans operations)
      rw [empty] at queued
      cases queued

theorem strandTurn {after : Channel H} (serves : channel.Serves false tale)
    (moves : Moves channel .strandTurn after) :
    after.Serves false (tale.tell ⟨channel, .strandTurn, after⟩) := by
  cases moves with
  | left strand cancelled =>
      let made : Made H := ⟨channel, .strandTurn, channel.leave (.ok ())⟩
      have nothing : made.begun = [] := by
        simp only [made, Made.begun, Channel.leave, strand, cancelled, if_true]
        split <;> simp_all
      refine serves.leave made (by simp [made, strand]) rfl rfl rfl ?_ ?_ rfl rfl ?_
      · rw [nothing]
        rfl
      · intro waiting waits
        rw [nothing]
        exact ⟨waiting, rfl, waits, rfl⟩
      · intro _
        simp [made, strand, unfinished, effectsLeft]
  | @dispatched stage later event handlers bus strand untold operations taken =>
      have begins : (Made.mk channel .strandTurn { channel with
          operations := later, bus := bus, strand := .calling stage event handlers }).begun =
          [.dispatch event handlers] := by
        simp [Made.begun, strand, operations]
      refine serves.takeUp ⟨channel, .strandTurn, _⟩ strand rfl begins rfl rfl ?_ rfl ?_ rfl
        (fun _ => rfl) rfl
      · intro waiting extra waits queued
        exact front_of_taken (waits.symm.trans operations) queued taken
      · rw [strand, hasLeft_calling]
  | foundNothing strand untold operations nothing =>
      exact absurd nothing (serves.exists_taken operations)
  | @encoded event later bytes strand untold operations framed =>
      have begins : (Made.mk channel .strandTurn { channel with
          operations := later, strand := .writing event.uid bytes }).begun =
          [.write event bytes] := by
        simp [Made.begun, strand, operations]
      refine serves.takeUp ⟨channel, .strandTurn, _⟩ strand rfl begins rfl rfl ?_ rfl ?_ rfl ?_ rfl
      · intro waiting extra waits queued
        obtain ⟨rest, rfl, further⟩ := Work.front_of_write (waits.symm.trans operations)
        exact ⟨rest, rfl, further.symm, queued⟩
      · rw [strand]
        rfl
      · rw [strand]
        exact fun impossible => nomatch impossible
  | @unencodable event later error strand untold operations framed =>
      let made : Made H :=
        ⟨channel, .strandTurn, { channel with operations := later }.leave (.error error)⟩
      have begins : made.begun = [.unframed event] := by
        simp [made, Made.begun, Channel.leave, strand, operations, untold]
      refine serves.leave made (by simp [made, strand]) rfl rfl rfl ?_ ?_ rfl rfl ?_
      · rw [begins]
        rfl
      · intro waiting waits
        rw [begins]
        obtain ⟨rest, rfl, further⟩ := Work.front_of_write (waits.symm.trans operations)
        exact ⟨rest, rfl, further.symm, rfl⟩
      · intro _
        simp [made, strand, unfinished, effectsLeft]
  | @discarded outcome event later strand operations =>
      have nothing : (Made.mk channel .strandTurn
          { channel with operations := later }).begun = [] := by
        simp [Made.begun, strand, operations]
      exact serves.discard ⟨channel, .strandTurn, _⟩ strand operations rfl nothing rfl rfl
  | @emptied outcome strand operations =>
      have nothing : (Made.mk channel .strandTurn
          { channel with strand := .closing outcome }).begun = [] := by
        simp [Made.begun, strand, operations]
      refine serves.goOn ⟨channel, .strandTurn, _⟩ rfl nothing rfl rfl rfl rfl ?_
        (fun _ => .inr operations) ?_
      · rw [strand]
        rfl
      · rw [strand]
        rfl
  | @handled stage event strand =>
      have nothing : (Made.mk channel .strandTurn
          { channel with strand := .between stage }).begun = [] := by
        simp [Made.begun, strand]
      refine serves.goOn ⟨channel, .strandTurn, _⟩ rfl nothing rfl rfl rfl rfl ?_
        (fun impossible => nomatch impossible) ?_
      · rw [strand, hasLeft_calling]
      · rw [strand]
        rfl
  | @flushed uid strand =>
      have nothing : (Made.mk channel .strandTurn
          { channel with strand := .between .running }).begun = [] := by
        simp [Made.begun, strand]
      refine serves.goOn ⟨channel, .strandTurn, _⟩ rfl nothing rfl rfl rfl rfl ?_
        (fun impossible => nomatch impossible) ?_
      · rw [strand]
        rfl
      · rw [strand]
        rfl

theorem moves {move : Move H} {after : Channel H} {afterAtWork : Bool}
    (serves : channel.Serves atWork tale) (moves : Moves channel move after)
    (attended : move.Attended atWork afterAtWork) (orderly : move.isOrderly = true) :
    after.Serves afterAtWork (tale.tell ⟨channel, move, after⟩) := by
  cases move with
  | act act =>
      cases moves
      cases attended
      exact serves.perform orderly
  | joined =>
      cases moves
      cases attended
      unfold Channel.join
      split <;> apply serves.aside ⟨channel, .joined, _⟩ <;> rfl
  | readerTurn =>
      cases attended
      exact serves.readerTurn moves
  | received | finished | failed | told =>
      cases attended
      cases moves
      apply serves.aside ⟨channel, _, _⟩ <;> rfl
  | strandTurn =>
      obtain ⟨rfl, rfl⟩ := attended
      exact serves.strandTurn moves
  | call =>
      obtain ⟨rfl, rfl⟩ := attended
      cases moves with
      | @called stage event handler handlers strand =>
          refine serves.goOn ⟨channel, .call, _⟩ rfl rfl rfl rfl rfl rfl ?_
            (fun impossible => nomatch impossible) ?_
          · rw [strand, hasLeft_calling, hasLeft_calling]
          · simp [Made.effects, strand, unfinished, effectsLeft, callEffects]
  | returned =>
      obtain ⟨rfl, rfl⟩ := attended
      cases moves
      exact serves.goOn ⟨channel, .returned, channel⟩ rfl rfl rfl rfl rfl rfl rfl .inl rfl
  | died => cases orderly
  | wrote count =>
      obtain ⟨rfl, rfl⟩ := attended
      cases moves with
      | @wrote uid bytes _ strand some fits =>
          refine serves.goOn ⟨channel, .wrote count, _⟩ rfl rfl rfl rfl rfl rfl ?_
            (fun impossible => nomatch impossible) ?_
          · rw [strand]
            rfl
          · simp only [Made.effects, strand, unfinished, effectsLeft, Bool.false_eq_true, if_false,
              List.nil_append, ← List.map_append, List.take_append_drop]
  | refused fault =>
      obtain ⟨rfl, rfl⟩ := attended
      cases moves with
      | refused strand _ =>
          refine serves.leave ⟨channel, .refused fault, _⟩ (by simp [strand]) rfl rfl rfl rfl ?_ rfl
            rfl (fun impossible => nomatch impossible)
          intro waiting waits
          exact ⟨waiting, rfl, waits, rfl⟩
  | shut =>
      obtain ⟨rfl, rfl⟩ := attended
      cases moves with
      | shut strand =>
          refine serves.goOn ⟨channel, .shut, _⟩ rfl rfl rfl rfl rfl rfl ?_ ?_ ?_
          · rw [strand]
            rfl
          · rw [strand]
            exact fun _ => .inl rfl
          · rw [strand]
            rfl

end Serves

end Channel

end EventTransport
