import EventTransport.Proofs.Channel.AnyPeer
import EventTransport.Proofs.Channel.LifeCycle
import EventTransport.Proofs.Channel.Toil

/-!
Contract: what becomes of the tasks of a closed channel, whatever the peer does.

Owns:
- `Pair.AwaitsRoom`, a strand that cannot go on unless the peer makes room, and `Pair.RestFits`, one
  that can finish the frame that it writes;
- that the tasks of a closed channel wait for nobody but for room for the rest of a frame.

A task that is told to stop looks for that where it waits for bytes or for an operation. A strand
that waits for room does not look, and what is left of a frame may be more than there is room for.

Does not own: what a join reports, and handlers that do not return.
-/

namespace EventTransport

open Channel Session

namespace Channel

variable {H : Type}

/-- What is left of the frame that the strand writes, if it does. -/
def unwritten : Strand H → Bytes
  | .writing _ rest => rest
  | _ => []

theorem writing_of_unwritten {strand : Strand H} (some : unwritten strand ≠ []) :
    ∃ uid, strand = .writing uid (unwritten strand) := by
  cases strand with
  | writing uid rest => exact ⟨uid, rfl⟩
  | _ => exact absurd rfl some

theorem unwritten_of_isOver {strand : Strand H} (isOver : strand.isOver = true) :
    unwritten strand = [] := by
  cases strand with
  | writing uid rest => cases isOver
  | _ => rfl

theorem readTurn_eq_rest_iff {channel : Channel H} :
    channel.readTurn = .rest ↔ channel.reader = .absent ∨ channel.reader = .ended := by
  unfold Channel.readTurn
  cases channel.reader with
  | awaiting buffer =>
      dsimp only
      split <;> simp
  | _ => simp

/-- A strand that is told to stop rests only when it is over. -/
theorem isOver_of_strandTurn {channel : Channel H} (cancelled : channel.cancelled = true)
    (present : channel.strand.isPresent = true) (turn : channel.strandTurn = .rest) :
    channel.strand.isOver = true := by
  unfold Channel.strandTurn at turn
  split at turn
  case h_1 strand => rw [strand] at present; cases present
  case h_2 => rw [if_pos cancelled] at turn; cases turn
  case h_9 strand => rw [strand]; rfl
  case h_10 strand => rw [strand]; rfl
  all_goals cases turn

variable {before after : Channel H} {move : Move H}

theorem unwritten_of_wrote {count : Nat} (moves : Moves before (.wrote count) after) :
    unwritten after.strand = (unwritten before.strand).drop count ∧
      count ≤ (unwritten before.strand).length ∧ after.strand.isOver = false := by
  cases moves with
  | wrote strand some fits =>
      rw [strand]
      exact ⟨rfl, fits, rfl⟩

/-- A strand that is told to stop begins no frame. -/
theorem unwritten_eq_nil_of_moves (moves : Moves before move after) (own : move.isOfStrand = true)
    (cancelled : before.cancelled = true) (aside : ∀ count, move ≠ .wrote count) :
    unwritten after.strand = [] := by
  cases moves with
  | encoded strand untold operations framed => rw [cancelled] at untold; cases untold
  | discarded strand operations => rw [strand]; rfl
  | wrote => exact absurd rfl (aside _)
  | act | joined | starved | invalid | unfinished | decoded | received | finished | failed | told
    | returned => cases own
  | _ => rfl

end Channel

namespace Pair

variable {H : Type} {pair after : Pair H}

/-! ### Waiting for room -/

/-- The strand of the near side has bytes to write, and the stream takes none unless the peer makes
room. -/
def AwaitsRoom (pair : Pair H) : Prop :=
  unwritten pair.near.channel.strand ≠ [] ∧ pair.outbound.isClosed = false ∧ pair.outbound.room = 0

/-- There is room for what is left of the frame that the strand of the near side writes, or the
stream takes no more bytes. -/
def RestFits (pair : Pair H) : Prop :=
  pair.outbound.isClosed = true ∨
    (unwritten pair.near.channel.strand).length ≤ pair.outbound.room

/-- The read loop of the near side can make a move. -/
def ReaderMoves (pair : Pair H) : Prop :=
  ∃ move, Move.isOfReader move = true ∧ pair.stepNear move ≠ none

/-- The strand of the near side, or a handler that it has called, can make a move. -/
def StrandMoves (pair : Pair H) : Prop :=
  ∃ move, Move.isOfTask move = true ∧ move.isOfReader = false ∧ pair.stepNear move ≠ none

instance : Decidable pair.AwaitsRoom := inferInstanceAs (Decidable (_ ∧ _))

instance : Decidable pair.RestFits := inferInstanceAs (Decidable (_ ∨ _))

/-- A strand that writes nothing needs no room. -/
theorem restFits_of_unwritten (nothing : unwritten pair.near.channel.strand = []) : pair.RestFits :=
  .inr (by rw [nothing]; exact Nat.zero_le _)

/-- The channel of the near side has been started and is told to stop. -/
structure WindsUp (pair : Pair H) : Prop where
  attends : pair.near.Attends
  closes : pair.near.channel.Closes pair.near.starved pair.near.died
  cancelled : pair.near.channel.cancelled = true
  present : pair.near.channel.strand.isPresent = true

namespace WindsUp

theorem of_undergo (config : Config) (codec : Codec) (fresh : pair.near = .fresh config codec)
    {turns : List (Turn H)} (underwent : pair.undergo turns = some after)
    (started : after.near.channel.strand.isPresent = true)
    (closed : after.near.channel.state = .closed) : after.WindsUp := by
  obtain ⟨moves, ran⟩ := exists_run_of_undergo underwent
  rw [fresh] at ran
  obtain ⟨attends, closes⟩ := closes_of_run ran
  exact ⟨attends, closes, closes.told.mp closed, started⟩

theorem strand_ne_absent (winds : pair.WindsUp) : pair.near.channel.strand ≠ .absent := by
  intro absent
  have present := winds.present
  rw [absent] at present
  cases present

theorem reader_ne_absent (winds : pair.WindsUp) : pair.near.channel.reader ≠ .absent :=
  mt winds.closes.begun.mp winds.strand_ne_absent

/-- The read loop waits for nobody. -/
theorem readerMoves (winds : pair.WindsUp) (alive : pair.near.channel.reader ≠ .ended) :
    pair.ReaderMoves := by
  by_contra stuck
  have waits : pair.readerWaits = true := readerWaits_of_stuck fun move own =>
    by_contra fun possible => stuck ⟨move, own, possible⟩
  rcases readerWaits_iff.mp waits with rest | ⟨_, _, untold, _⟩
  · rcases readTurn_eq_rest_iff.mp rest with absent | ended
    · exact winds.reader_ne_absent absent
    · exact alive ended
  · rw [winds.cancelled] at untold
    cases untold

/-- A strand that waits for room can make no move, and no handler is at work. -/
theorem strandWaits (winds : pair.WindsUp) (waits : pair.AwaitsRoom) : pair.strandWaits = true := by
  obtain ⟨some, isOpen, full⟩ := waits
  obtain ⟨uid, strand⟩ := writing_of_unwritten some
  obtain ⟨byte, bytes, rest⟩ := List.exists_cons_of_ne_nil some
  rw [rest] at strand
  refine strandWaits_iff.mpr ⟨?_, .inr ⟨byte :: bytes, ?_, isOpen, full⟩⟩
  · rw [Bool.eq_false_iff]
    intro atWork
    obtain ⟨stage, event, handlers, calling⟩ := winds.attends atWork
    cases strand.symm.trans calling
  · unfold Channel.strandTurn
    rw [strand]

/-- The strand waits for nobody but for room. -/
theorem strandMoves_iff (winds : pair.WindsUp) (alive : pair.near.channel.strand.isOver = false) :
    pair.StrandMoves ↔ ¬ pair.AwaitsRoom := by
  constructor
  · rintro ⟨move, task, aside, possible⟩ waits
    exact possible (stuck_of_strandWaits (winds.strandWaits waits) task aside)
  · intro roomy
    by_contra stuck
    have waits : pair.strandWaits = true := strandWaits_of_stuck fun move task aside =>
      by_contra fun possible => stuck ⟨move, task, aside, possible⟩
    obtain ⟨_, rest | ⟨bytes, turn, isOpen, full⟩⟩ := strandWaits_iff.mp waits
    · rw [isOver_of_strandTurn winds.cancelled winds.present rest] at alive
      cases alive
    · obtain ⟨some, uid, strand⟩ := writing_of_strandTurn turn
      refine roomy ⟨?_, isOpen, full⟩
      rw [strand]
      exact some

theorem step {move : Move H} (winds : pair.WindsUp) (task : move.isOfTask = true)
    (stepped : pair.stepNear move = some after) : after.WindsUp := by
  obtain ⟨nearStepped, _, _⟩ := of_stepNear stepped
  obtain ⟨moves, _⟩ := moves_of_step nearStepped
  refine ⟨winds.attends.step nearStepped, closes_of_step winds.attends winds.closes nearStepped,
    (moves.settled task winds.cancelled).1, ?_⟩
  rw [isPresent_of_moves moves fun died =>
    winds.attends.of_died (died ▸ nearStepped), winds.present]
  rfl

theorem of_near (winds : pair.WindsUp) (same : after.near = pair.near) : after.WindsUp := by
  obtain ⟨attends, closes, cancelled, present⟩ := winds
  constructor <;> rwa [same]

theorem turn {turn : Turn H} (winds : pair.WindsUp) (left : turn.leavesTasks = true)
    (taken : pair.take turn = some after) : after.WindsUp := by
  match turn with
  | .deed deed =>
      cases taken
      exact winds.of_near (near_suffer pair deed)
  | .move .far move => exact winds.of_near (near_of_step_far taken)
  | .move .near move => exact winds.step left taken

/-- If no task can move, both are over exactly if the rest of a frame fits. -/
theorem isFinished_iff (winds : pair.WindsUp)
    (stuck : ∀ move, Move.isOfTask move = true → pair.stepNear move = none) :
    pair.near.channel.isFinished = true ↔ pair.RestFits := by
  have ended : pair.near.channel.reader = .ended := by
    by_contra alive
    obtain ⟨move, own, possible⟩ := winds.readerMoves alive
    exact possible (stuck move (Move.isOfTask_of_isOfReader own))
  unfold Channel.isFinished
  rw [ended, decide_eq_true rfl, Bool.true_and]
  constructor
  · intro isOver
    exact restFits_of_unwritten (unwritten_of_isOver isOver)
  · intro fits
    by_contra alive
    have waits : pair.AwaitsRoom := by
      by_contra roomy
      obtain ⟨move, task, _, possible⟩ :=
        (winds.strandMoves_iff (Bool.eq_false_iff.mpr alive)).mpr roomy
      exact possible (stuck move task)
    obtain ⟨some, isOpen, full⟩ := waits
    have positive := List.length_pos_iff.mpr some
    rcases fits with isClosed | short
    · rw [isOpen] at isClosed
      cases isClosed
    · omega

end WindsUp

/-! ### The rest of a frame -/

/-- As long as a task is left, the pipes are as the stream leaves them. -/
theorem conveys_of_stepNear {move : Move H} (task : move.isOfTask = true)
    (stepped : pair.stepNear move = some after)
    (unfinished : after.near.channel.isFinished = false) :
    pair.Conveys move after.outbound after.inbound := by
  obtain ⟨_, _, outbound, inbound, conveys, ⟨gone, _⟩ | ⟨_, rfl, rfl⟩⟩ := stepNear_cases stepped
  · unfold letsGo at gone
    rw [unfinished] at gone
    cases move <;> first | cases gone | cases task
  · exact conveys

/-- What goes out needs room, in a stream that takes bytes before and after. -/
theorem room_of_wrote {count : Nat} (stepped : pair.stepNear (.wrote count) = some after)
    (alive : after.near.channel.strand.isOver = false) :
    pair.outbound.isClosed = false ∧ after.outbound.isClosed = false ∧
      pair.outbound.room = count + after.outbound.room := by
  have unfinished : after.near.channel.isFinished = false := by
    unfold Channel.isFinished
    rw [alive, Bool.and_false]
  have conveys := conveys_of_stepNear rfl stepped unfinished
  generalize after.outbound = outbound at conveys ⊢
  generalize after.inbound = inbound at conveys
  cases conveys with
  | wrote turn accepted => exact Pipe.room_of_accepted accepted
  | aside aside => cases aside

/-- A write is refused by a stream that takes no more bytes. -/
theorem Conveys.isClosed_of_refused {fault : StreamFault} {outbound inbound : Pipe}
    (conveys : pair.Conveys (.refused fault) outbound inbound) : pair.outbound.isClosed = true := by
  cases conveys with
  | refused isClosed => exact isClosed
  | aside aside => cases aside

/-- Nothing but the strand puts bytes into the stream, or ends it. -/
theorem Conveys.outbound_eq {move : Move H} {outbound inbound : Pipe}
    (conveys : pair.Conveys move outbound inbound) (aside : move.isOfStrand = false) :
    outbound = pair.outbound := by
  cases conveys with
  | wrote | shut => cases aside
  | _ => rfl

namespace WindsUp

/-- A strand ends its write when all is written, or when the stream takes no more bytes. -/
theorem restFits_of_stranding {move : Move H} (winds : pair.WindsUp) (own : move.isOfStrand = true)
    (aside : ∀ count, move ≠ .wrote count) (stepped : pair.stepNear move = some after) :
    pair.RestFits := by
  obtain ⟨nearStepped, _, _⟩ := of_stepNear stepped
  obtain ⟨moves, _⟩ := moves_of_step nearStepped
  have attends := fun died : move = .died => winds.attends.of_died (died ▸ nearStepped)
  by_cases refused : ∃ fault, move = .refused fault
  · obtain ⟨fault, rfl⟩ := refused
    obtain ⟨_, _, _, _, conveys, _⟩ := stepNear_cases stepped
    exact .inl conveys.isClosed_of_refused
  · apply restFits_of_unwritten
    generalize after.near.channel = left at moves
    cases moves with
    | refused _ fault => exact absurd ⟨fault, rfl⟩ refused
    | wrote => exact absurd rfl (aside _)
    | died =>
        obtain ⟨stage, event, handlers, strand⟩ := attends rfl
        rw [strand]
        rfl
    | act | joined | starved | invalid | unfinished | decoded | received | finished | failed | told
      | returned => cases own
    | left strand | dispatched strand | foundNothing strand | encoded strand | unencodable strand
      | discarded strand | emptied strand | handled strand | flushed strand | called strand
      | shut strand => rw [strand]; rfl

/-- No move of a task of a closed channel decides whether the rest of a frame fits. -/
theorem restFits_iff {move : Move H} (winds : pair.WindsUp) (task : move.isOfTask = true)
    (stepped : pair.stepNear move = some after) : after.RestFits ↔ pair.RestFits := by
  obtain ⟨moves, _⟩ := moves_of_step (of_stepNear stepped).1
  cases own : move.isOfStrand with
  | false =>
      have same := moves.strand_eq own winds.strand_ne_absent
      cases gone : after.near.channel.isFinished with
      | true =>
          have isOver := unwritten_of_isOver ((Bool.and_eq_true _ _).mp gone).2
          exact iff_of_true (restFits_of_unwritten isOver) (restFits_of_unwritten (same ▸ isOver))
      | false =>
          unfold RestFits
          rw [same, (conveys_of_stepNear task stepped gone).outbound_eq own]
  | true =>
      by_cases aside : ∀ count, move ≠ .wrote count
      · exact iff_of_true
          (restFits_of_unwritten (unwritten_eq_nil_of_moves moves own winds.cancelled aside))
          (winds.restFits_of_stranding own aside stepped)
      · obtain ⟨count, rfl⟩ := not_forall_not.mp aside
        obtain ⟨left, fits, alive⟩ := unwritten_of_wrote moves
        obtain ⟨isOpen, stays, room⟩ := room_of_wrote stepped alive
        unfold RestFits
        simp only [left, isOpen, stays, Bool.false_eq_true, false_or, List.length_drop]
        omega

end WindsUp

/-- Whatever the peer does, it takes no room away. -/
theorem WindsUp.restFits_of_restFits {turn : Turn H} (winds : pair.WindsUp)
    (left : turn.leavesTasks = true) (taken : pair.take turn = some after) (fits : pair.RestFits) :
    after.RestFits := by
  match turn with
  | .move .near move => exact (winds.restFits_iff left taken).mpr fits
  | .move .far move =>
      obtain ⟨swapped, stepped, rfl⟩ := Option.map_eq_some_iff.mp taken
      have same : swapped.far = pair.near := (of_stepNear stepped).2.1
      obtain ⟨closed, room⟩ := inbound_of_stepNear stepped
      refine fits.imp closed fun short => ?_
      show (unwritten swapped.far.channel.strand).length ≤ swapped.inbound.room
      rw [same]
      exact Nat.le_trans short room
  | .deed (.put bytes) =>
      cases taken
      exact fits
  | .deed (.take most) =>
      cases taken
      refine fits.imp ?_ fun short => Nat.le_trans short (Pipe.room_le_room_read _ most)
      exact fun isClosed => (Pipe.isClosed_read _ most).trans isClosed
  | .deed .shut =>
      cases taken
      exact fits
  | .deed .drop =>
      cases taken
      exact .inl rfl

/-- Room is made only by a peer that reads or lets go. -/
theorem WindsUp.restFits_of_take {turn : Turn H} (winds : pair.WindsUp)
    (left : turn.leavesTasks = true) (noRoom : turn.mayMakeRoom = false)
    (taken : pair.take turn = some after) (fits : after.RestFits) : pair.RestFits := by
  match turn with
  | .move .near move => exact (winds.restFits_iff left taken).mp fits
  | .deed (.put bytes) =>
      cases taken
      exact fits
  | .deed .shut =>
      cases taken
      exact fits

/-- What fits goes on to fit, whatever happens. -/
theorem WindsUp.restFits_of_undergo {turns : List (Turn H)} (winds : pair.WindsUp)
    (left : ∀ turn ∈ turns, turn.leavesTasks = true) (underwent : pair.undergo turns = some after)
    (fits : pair.RestFits) : after.WindsUp ∧ after.RestFits := by
  apply undergo_keeps (motive := fun pair => pair.WindsUp ∧ pair.RestFits) _
    ⟨winds, fits⟩ left underwent
  rintro pair after turn ⟨winds, fits⟩ leaves taken
  exact ⟨winds.turn leaves taken, winds.restFits_of_restFits leaves taken fits⟩

/-- Tasks that are over had room for the rest of the frame, or have been given some. -/
theorem WindsUp.restFits_of_isFinished {turns : List (Turn H)} (winds : pair.WindsUp)
    (left : ∀ turn ∈ turns, turn.leavesTasks = true)
    (noRoom : ∀ turn ∈ turns, turn.mayMakeRoom = false)
    (underwent : pair.undergo turns = some after)
    (finished : after.near.channel.isFinished = true) :
    pair.RestFits := by
  have allowed : ∀ turn ∈ turns, turn.leavesTasks = true ∧ turn.mayMakeRoom = false :=
    fun turn member => ⟨left turn member, noRoom turn member⟩
  have kept : after.WindsUp ∧ (after.RestFits → pair.RestFits) := by
    apply undergo_keeps (motive := fun reached =>
      reached.WindsUp ∧ (reached.RestFits → pair.RestFits))
      _ ⟨winds, id⟩ allowed underwent
    rintro reached later turn ⟨winds, back⟩ ⟨leaves, makesNone⟩ taken
    exact ⟨winds.turn leaves taken,
      fun fits => back (winds.restFits_of_take leaves makesNone taken fits)⟩
  have isOver := ((Bool.and_eq_true _ _).mp finished).2
  exact kept.2 (restFits_of_unwritten (unwritten_of_isOver isOver))

/-! ### To the end -/

/-- How many moves the tasks of the near side have left at most, if its channel is closed. -/
def toil (most : Nat) (pair : Pair H) : Nat :=
  pair.near.channel.toil most pair.inbound.held.length pair.near.atWork

/-- No event goes to more than so many handlers of the near side. -/
def HandlesAtMost (most : Nat) (pair : Pair H) : Prop :=
  ∀ event, (pair.near.channel.bus.handlersFor event).length ≤ most

variable {most : Nat}

theorem WindsUp.toil_lt {move : Move H} (winds : pair.WindsUp) (task : move.isOfTask = true)
    (stepped : pair.stepNear move = some after) (handles : pair.HandlesAtMost most) :
    after.toil most < pair.toil most := by
  obtain ⟨nearStepped, _, carries⟩ := of_stepNear stepped
  obtain ⟨moves, _⟩ := moves_of_step nearStepped
  have attended := attended_of_step nearStepped
  have read := congrArg List.length carries.read
  rw [List.length_append] at read
  cases own : move.isOfReader with
  | true =>
      have same : after.near.atWork = pair.near.atWork := by
        cases move <;> first | exact attended | cases own
      unfold toil
      rw [same]
      exact toil_lt_of_reading moves own _ read
  | false =>
      have unread : pair.inbound.held.length = after.inbound.held.length := by
        cases move <;> first | exact read.trans (Nat.zero_add _) | cases own
      unfold toil Channel.toil
      rw [moves.reader_eq task own, unread]
      exact Nat.add_lt_add_right
        (strandToil_lt moves task own winds.cancelled attended winds.attends handles) _

theorem toil_le_of_take (most : Nat) {turn : Turn H} (aside : turn.isNear = false)
    (taken : pair.take turn = some after) :
    after.toil most ≤ pair.toil most + (operationToil most + 3) * turn.puts := by
  obtain ⟨same, came⟩ := inbound_of_take aside taken
  unfold toil Channel.toil
  rw [same, Nat.add_assoc]
  exact Nat.add_le_add_left (readerToil_le_of_le most came _) _

theorem HandlesAtMost.turn {turn : Turn H} (handles : pair.HandlesAtMost most)
    (winds : pair.WindsUp)
    (left : turn.leavesTasks = true) (taken : pair.take turn = some after) :
    after.HandlesAtMost most := by
  cases own : turn.isNear with
  | false =>
      unfold HandlesAtMost
      rw [(inbound_of_take own taken).1]
      exact handles
  | true =>
      obtain ⟨move, rfl⟩ := Turn.exists_move_of_isNear own
      obtain ⟨moves, _⟩ := moves_of_step (of_stepNear taken).1
      intro event
      unfold LocalBus.handlersFor
      rw [(moves.settled left winds.cancelled).2]
      exact handles event

/-- The tasks make no more moves than they had left, but for what the peer puts into the stream. -/
theorem WindsUp.countP_isNear_le {turns : List (Turn H)} (winds : pair.WindsUp)
    (handles : pair.HandlesAtMost most) (left : ∀ turn ∈ turns, turn.leavesTasks = true)
    (underwent : pair.undergo turns = some after) :
    turns.countP Turn.isNear + after.toil most ≤
      pair.toil most + (operationToil most + 3) * Turn.putsInAll turns := by
  induction turns generalizing pair with
  | nil =>
      cases underwent
      simp
  | cons turn turns inductionHypothesis =>
      obtain ⟨middle, taken, later⟩ := Option.bind_eq_some_iff.mp underwent
      have leaves := left turn List.mem_cons_self
      have rest := inductionHypothesis (winds.turn leaves taken)
        (handles.turn winds leaves taken)
        (fun other member => left other (List.mem_cons_of_mem turn member)) later
      rw [Turn.putsInAll, Nat.mul_add]
      cases own : turn.isNear with
      | false =>
          have more := toil_le_of_take most own taken
          rw [List.countP_cons_of_neg (by rw [own]; exact Bool.false_ne_true)]
          omega
      | true =>
          obtain ⟨move, rfl⟩ := Turn.exists_move_of_isNear own
          have less := winds.toil_lt leaves taken handles
          rw [List.countP_cons_of_pos own]
          omega

/-- A join of tasks that are over comes back. -/
theorem joins_of_isFinished (finished : pair.near.channel.isFinished = true) :
    pair.stepNear .joined ≠ none := by
  rw [ne_eq, stepNear_eq_none_iff]
  simp [carry, Session.step, finished]

/-- **A closed channel waits for nobody but for room for the rest of a frame.** On a stream of any
size, and whatever has been done to a started channel by its application and by the peer: once it is
closed, its read loop is over or can move, and its strand is over, or can move exactly if it does
not have bytes to write to a full stream. From then on, if the application and the handlers keep
quiet, the tasks make only so many moves, whatever the peer does, and a number in proportion to what
it puts into the stream. If there is room for what is left of the frame that is being written, they
come to rest only when both are over, and a join comes back; if there is not, they are not over
unless the peer reads or lets go. -/
theorem stops_but_for_room (config : Config) (codec : Codec) (far : Session H)
    (outbound inbound : Pipe)
    {turns : List (Turn H)} {pair : Pair H}
    (underwent : undergo ⟨.fresh config codec, far, outbound, inbound⟩ turns = some pair)
    (started : pair.near.channel.strand.isPresent = true)
    (closed : pair.near.channel.state = .closed) :
    (pair.near.channel.reader = .ended ∨ pair.ReaderMoves) ∧
      (pair.near.channel.strand.isOver = true ∨ (pair.StrandMoves ↔ ¬ pair.AwaitsRoom)) ∧
      ∃ most cost, ∀ more after, (∀ turn ∈ more, Turn.leavesTasks turn = true) →
        pair.undergo more = some after →
          more.countP Turn.isNear ≤ most + cost * Turn.putsInAll more ∧
          ((∀ move, Move.isOfTask move = true → after.stepNear move = none) → pair.RestFits →
            after.near.channel.isFinished = true ∧ after.stepNear .joined ≠ none) ∧
          ((∀ turn ∈ more, Turn.mayMakeRoom turn = false) → after.near.channel.isFinished = true →
            pair.RestFits) := by
  have winds := WindsUp.of_undergo config codec rfl underwent started closed
  refine ⟨or_iff_not_imp_left.mpr winds.readerMoves, ?_, ?_⟩
  · cases alive : pair.near.channel.strand.isOver with
    | true => exact .inl rfl
    | false => exact .inr (winds.strandMoves_iff alive)
  · obtain ⟨most, handles⟩ := pair.near.channel.bus.bindings.exists_length_route_le
    refine ⟨pair.toil most, operationToil most + 3, fun more after left later => ⟨?_, ?_, ?_⟩⟩
    · have counted := winds.countP_isNear_le (fun event => handles event.uid) left later
      omega
    · intro stuck fits
      obtain ⟨afterWinds, afterFits⟩ := winds.restFits_of_undergo left later fits
      have finished := (afterWinds.isFinished_iff stuck).mpr afterFits
      exact ⟨finished, joins_of_isFinished finished⟩
    · intro noRoom finished
      exact winds.restFits_of_isFinished left noRoom later finished

/-- A channel stopped in the middle of a frame, when the peer has read what came: there is room for
the rest, so both tasks can move, and they come to rest only when they are over. -/
theorem stops_but_for_room_of_reading_peer :
    let turns : List (Turn Nat) :=
      [.move .near (.act (.start (.ok ()))), .move .near (.act (.send { uid := ⟨1⟩ })),
        .move .near .strandTurn, .move .near (.wrote 8), .move .near (.act .stop), .deed (.take 8)]
    ∃ pair, (joined {} {} .default .default 8 8).undergo turns = some pair ∧
      (unwritten pair.near.channel.strand).length = 7 ∧ pair.ReaderMoves ∧ pair.StrandMoves ∧
      ∃ most cost, ∀ more after, (∀ turn ∈ more, Turn.leavesTasks turn = true) →
        pair.undergo more = some after →
          more.countP Turn.isNear ≤ most + cost * Turn.putsInAll more ∧
          ((∀ move, Move.isOfTask move = true → after.stepNear move = none) →
            after.near.channel.isFinished = true ∧ after.stepNear .joined ≠ none) := by
  intro turns
  have possible : ((joined {} {} .default .default 8 8).undergo turns).isSome = true := by
    decide +kernel
  obtain ⟨pair, underwent⟩ := Option.isSome_iff_exists.mp possible
  have started := of_undergo_all underwent (fun pair => pair.near.channel.strand.isPresent = true)
    (by decide +kernel)
  have closed := of_undergo_all underwent (fun pair => pair.near.channel.state = .closed)
    (by decide +kernel)
  have seven := of_undergo_all underwent
    (fun pair => (unwritten pair.near.channel.strand).length = 7) (by decide +kernel)
  have reading := of_undergo_all underwent (fun pair => pair.near.channel.reader ≠ .ended)
    (by decide +kernel)
  have alive := of_undergo_all underwent (fun pair => ¬ pair.near.channel.strand.isOver = true)
    (by decide +kernel)
  have roomy := of_undergo_all underwent (fun pair => ¬ pair.AwaitsRoom) (by decide +kernel)
  have fits := of_undergo_all underwent (fun pair => pair.RestFits) (by decide +kernel)
  obtain ⟨reader, strand, most, cost, rests⟩ :=
    stops_but_for_room {} .default (.fresh {} .default) _ _ underwent started closed
  refine ⟨pair, underwent, seven, reader.resolve_left reading,
    (strand.resolve_left alive).mpr roomy,
    most, cost, fun more after left later => ?_⟩
  obtain ⟨counted, finishes, _⟩ := rests more after left later
  exact ⟨counted, fun stuck => finishes stuck fits⟩

/-- **A stopped channel may wait for its peer.** The same channel, when the peer has read nothing
yet: the stream is full, and the strand has the rest of a frame to write. It can make no move,
although the channel is closed, and the tasks are not over as long as the peer neither reads nor
lets go. -/
theorem waits_for_room_after_stop :
    let turns : List (Turn Nat) :=
      [.move .near (.act (.start (.ok ()))), .move .near (.act (.send { uid := ⟨1⟩ })),
        .move .near .strandTurn, .move .near (.wrote 8), .move .near (.act .stop)]
    ∃ pair, (joined {} {} .default .default 8 8).undergo turns = some pair ∧
      pair.near.channel.state = .closed ∧ pair.near.channel.strand.isOver = false ∧
      ¬ pair.StrandMoves ∧
      ∀ more after, (∀ turn ∈ more, Turn.leavesTasks turn = true) →
        (∀ turn ∈ more, Turn.mayMakeRoom turn = false) → pair.undergo more = some after →
          after.near.channel.isFinished = false := by
  intro turns
  have possible : ((joined {} {} .default .default 8 8).undergo turns).isSome = true := by
    decide +kernel
  obtain ⟨pair, underwent⟩ := Option.isSome_iff_exists.mp possible
  have started := of_undergo_all underwent (fun pair => pair.near.channel.strand.isPresent = true)
    (by decide +kernel)
  have closed := of_undergo_all underwent (fun pair => pair.near.channel.state = .closed)
    (by decide +kernel)
  have alive := of_undergo_all underwent (fun pair => pair.near.channel.strand.isOver = false)
    (by decide +kernel)
  have waits := of_undergo_all underwent (fun pair => pair.AwaitsRoom) (by decide +kernel)
  have tight := of_undergo_all underwent (fun pair => ¬ pair.RestFits) (by decide +kernel)
  have winds := WindsUp.of_undergo {} .default rfl underwent started closed
  refine ⟨pair, underwent, closed, alive, fun moves =>
    (winds.strandMoves_iff alive).mp moves waits, ?_⟩
  intro more after left noRoom later
  exact Bool.eq_false_iff.mpr (mt (winds.restFits_of_isFinished left noRoom later) tight)

end Pair

end EventTransport
