import EventTransport.Channel.Pipe
import EventTransport.Proofs.Channel.Writing

/-!
Contract: two channels on the two ends of one stream that is held in memory.

Owns:
- `Pair`, two sessions and the pipes between them, `Pair.step` and `Pair.run`;
- `Pair.Conveys` and `Pair.Carries`, what a move of one side does to the pipes;
- which pairs are quiescent, and that this can be decided.

A pair is the same from both sides, so everything is said of the near side and of the pair swapped.
The stream takes bytes as long as it has room, in any portions, and gives them in any portions; how
much room it has is left open, also whether it has any. It fails only in that a pipe that has been
closed takes no more. It is let go by a side when both of its tasks are over, or when it ignores
being started.

Does not own: what goes through the stream.
-/

namespace EventTransport

/-- Which of two peers. -/
inductive Side where
  | near
  | far
deriving DecidableEq

/-- Two sessions and what is on its way between them. -/
structure Pair (H : Type) where
  near : Session H
  far : Session H
  /-- From the near side to the far one. -/
  outbound : Pipe
  /-- From the far side to the near one. -/
  inbound : Pipe

/-- Whether a task makes this move, and not an application. -/
def Channel.Move.isOfTask {H : Type} : Channel.Move H → Bool
  | .act _ => false
  | .joined => false
  | _ => true

/-- Whether it is the read loop that makes this move. -/
def Channel.Move.isOfReader {H : Type} : Channel.Move H → Bool
  | .readerTurn => true
  | .received _ => true
  | .finished => true
  | .failed _ => true
  | .told => true
  | _ => false

/-- Whether the stream has a part in this move. -/
def Channel.Move.usesStream {H : Type} : Channel.Move H → Bool
  | .received _ => true
  | .finished => true
  | .failed _ => true
  | .wrote _ => true
  | .refused _ => true
  | .shut => true
  | _ => false

theorem Channel.Move.isOfTask_of_isOfReader {H : Type} {move : Channel.Move H}
    (own : move.isOfReader = true) : move.isOfTask = true := by
  cases move <;> first | rfl | cases own

namespace Pair

open Channel Session

variable {H : Type}

/-- Two channels that nothing has been done to, and a stream with room for so many bytes in each
direction. Without room for a byte it takes none, and whoever has one to write waits. -/
def joined (nearConfig farConfig : Config) (near far : Codec) (outboundRoom inboundRoom : Nat) :
    Pair H where
  near := .fresh nearConfig near
  far := .fresh farConfig far
  outbound := { capacity := outboundRoom }
  inbound := { capacity := inboundRoom }

/-- The pair seen from the other side. -/
def swap (pair : Pair H) : Pair H := ⟨pair.far, pair.near, pair.inbound, pair.outbound⟩

/-- The stream after a move of the near side, outbound and inbound, if it allows the move. -/
def carry (pair : Pair H) : Move H → Option (Pipe × Pipe)
  | .received bytes =>
    match pair.inbound.read bytes.length with
    | (.bytes taken, after) => if taken = bytes then some (pair.outbound, after) else none
    | _ => none
  | .finished =>
    match pair.inbound.read 1 with
    | (.finished, after) => some (pair.outbound, after)
    | _ => none
  | .failed _ => none
  | .wrote count =>
    match pair.near.channel.strandTurn with
    | .write bytes =>
      match pair.outbound.write (bytes.take count) with
      | (.accepted taken, after) => if taken = count then some (after, pair.inbound) else none
      | _ => none
    | _ => none
  | .refused fault =>
    match pair.near.channel.strandTurn with
    | .write bytes =>
      match pair.outbound.write bytes with
      | (.broken, after) => if fault = .brokenPipe then some (after, pair.inbound) else none
      | _ => none
    | _ => none
  | .shut => some (pair.outbound.close, pair.inbound)
  | _ => some (pair.outbound, pair.inbound)

/-- Whether the near side has no use for its end of the stream after a move. -/
def letsGo (pair : Pair H) (move : Move H) (after : Session H) : Bool :=
  after.channel.isFinished ||
    match move with
    | .act (.start _) =>
      !pair.near.channel.strand.isPresent && pair.near.channel.state = .closed
    | _ => false

/-- A move of the near side, if it is possible. -/
def stepNear (pair : Pair H) (move : Move H) : Option (Pair H) :=
  match pair.carry move, pair.near.step move with
  | some (outbound, inbound), some near =>
    if pair.letsGo move near then some ⟨near, pair.far, outbound.close, inbound.close⟩
    else some ⟨near, pair.far, outbound, inbound⟩
  | _, _ => none

/-- A move of one side, if it is possible. -/
def step (pair : Pair H) : Side → Move H → Option (Pair H)
  | .near, move => pair.stepNear move
  | .far, move => (pair.swap.stepNear move).map swap

/-- Moves one after the other, if they are possible. -/
def run (pair : Pair H) : List (Side × Move H) → Option (Pair H)
  | [] => some pair
  | (side, move) :: moves => (pair.step side move).bind fun after => after.run moves

/-- No task of either side can make a move. -/
def IsQuiescent (pair : Pair H) : Prop :=
  ∀ side move, Move.isOfTask move = true → pair.step side move = none

/-! ### Moves of one side -/

/-- What the stream makes of a move of the near side, outbound and inbound. -/
inductive Conveys (pair : Pair H) : Move H → Pipe → Pipe → Prop where
  | received {bytes : Bytes} {rest : Pipe}
      (read : pair.inbound.read bytes.length = (.bytes bytes, rest)) :
    Conveys pair (.received bytes) pair.outbound rest
  | finished (empty : pair.inbound.held = []) (isClosed : pair.inbound.isClosed = true) :
    Conveys pair .finished pair.outbound pair.inbound
  | wrote {count : Nat} {bytes : Bytes} {rest : Pipe}
      (turn : pair.near.channel.strandTurn = .write bytes)
      (accepted : pair.outbound.write (bytes.take count) = (.accepted count, rest)) :
    Conveys pair (.wrote count) rest pair.inbound
  | refused (isClosed : pair.outbound.isClosed = true) :
    Conveys pair (.refused .brokenPipe) pair.outbound pair.inbound
  | shut : Conveys pair .shut pair.outbound.close pair.inbound
  | aside {move : Move H} (aside : move.usesStream = false) :
    Conveys pair move pair.outbound pair.inbound

/-- What a move does to the pipes: bytes written go into one of them, bytes read come from the
other. -/
structure Carries (pair : Pair H) (made : Made H) (outbound inbound : Pipe) : Prop where
  written : outbound.held = pair.outbound.held ++ made.written
  read : pair.inbound.held = made.bytes ++ inbound.held
  outboundCapacity : outbound.capacity = pair.outbound.capacity
  inboundCapacity : inbound.capacity = pair.inbound.capacity
  fits : pair.outbound.held.length ≤ pair.outbound.capacity →
    outbound.held.length ≤ outbound.capacity

theorem conveys_of_carry {pair : Pair H} {move : Move H} {outbound inbound : Pipe}
    (carried : pair.carry move = some (outbound, inbound)) :
    pair.Conveys move outbound inbound := by
  cases move with
  | received bytes =>
      dsimp only [carry] at carried
      split at carried
      · rename_i taken rest read
        split at carried
        · rename_i same
          cases carried
          exact .received (same ▸ read)
        · cases carried
      · cases carried
  | finished =>
      dsimp only [carry] at carried
      split at carried
      · rename_i rest read
        cases carried
        obtain ⟨empty, isClosed, rfl⟩ := Pipe.read_eq_finished_iff.mp read
        exact .finished empty isClosed
      · cases carried
  | failed fault => cases carried
  | wrote count =>
      dsimp only [carry] at carried
      split at carried
      · rename_i bytes turn
        split at carried
        · rename_i taken rest accepted
          split at carried
          · rename_i whole
            cases carried
            exact .wrote turn (whole ▸ accepted)
          · cases carried
        · cases carried
      · cases carried
  | refused fault =>
      dsimp only [carry] at carried
      split at carried
      · split at carried
        · rename_i rest broken
          split at carried
          · rename_i isBroken
            cases carried
            obtain ⟨isClosed, rfl⟩ := Pipe.write_eq_broken_iff.mp broken
            exact isBroken ▸ .refused isClosed
          · cases carried
        · cases carried
      · cases carried
  | shut =>
      cases carried
      exact .shut
  | _ =>
      cases carried
      exact .aside rfl

theorem Conveys.carries {pair : Pair H} {move : Move H} {outbound inbound : Pipe}
    {after : Channel H}
    (conveys : pair.Conveys move outbound inbound) (moves : Moves pair.near.channel move after) :
    pair.Carries ⟨pair.near.channel, move, after⟩ outbound inbound := by
  cases conveys with
  | @received bytes rest read =>
      obtain ⟨_, isFront, rfl⟩ := Pipe.read_eq_bytes_iff.mp read
      refine ⟨(List.append_nil _).symm, ?_, rfl, rfl, id⟩
      calc pair.inbound.held
        _ = pair.inbound.held.take bytes.length ++ pair.inbound.held.drop bytes.length :=
          (List.take_append_drop _ _).symm
        _ = bytes ++ pair.inbound.held.drop bytes.length := congrArg (· ++ _) isFront.symm
  | finished => exact ⟨(List.append_nil _).symm, rfl, rfl, rfl, id⟩
  | @wrote count bytes rest turn accepted =>
      obtain ⟨_, uid, strand⟩ := writing_of_strandTurn turn
      have written : (Made.mk pair.near.channel (.wrote count) after).written =
          bytes.take count := by
        simp [strand]
      have capacity : outbound.capacity = pair.outbound.capacity := by
        rw [← Pipe.capacity_write pair.outbound, accepted]
      refine ⟨?_, rfl, capacity, rfl, fun fits => ?_⟩
      · rw [written, (Pipe.held_of_accepted accepted).1, List.take_take, Nat.min_self]
      · have within := Pipe.length_held_write_le (bytes.take count) fits
        rw [accepted] at within
        rw [capacity]
        exact within
  | refused => exact ⟨(List.append_nil _).symm, rfl, rfl, rfl, id⟩
  | shut => exact ⟨(List.append_nil _).symm, rfl, rfl, rfl, id⟩
  | aside aside =>
      cases move <;> first | exact ⟨(List.append_nil _).symm, rfl, rfl, rfl, id⟩ | cases aside

/-- Everything that a move of the near side does: a step of its session, with what the stream makes
of it, and with the end of the stream let go at last. -/
theorem stepNear_cases {pair after : Pair H} {move : Move H}
    (stepped : pair.stepNear move = some after) :
    pair.near.step move = some after.near ∧ after.far = pair.far ∧
      ∃ outbound inbound, pair.Conveys move outbound inbound ∧
        (pair.letsGo move after.near = true ∧ after.outbound = outbound.close ∧
            after.inbound = inbound.close ∨
          pair.letsGo move after.near = false ∧ after.outbound = outbound ∧
            after.inbound = inbound) := by
  unfold stepNear at stepped
  split at stepped
  · rename_i outbound inbound near carried nearStepped
    have conveys := conveys_of_carry carried
    split at stepped
    · rename_i gone
      cases stepped
      exact ⟨nearStepped, rfl, outbound, inbound, conveys, .inl ⟨gone, rfl, rfl⟩⟩
    · rename_i kept
      cases stepped
      exact ⟨nearStepped, rfl, outbound, inbound, conveys, .inr ⟨by simpa using kept, rfl, rfl⟩⟩
  · cases stepped

/-- A move of the near side is a step of its session, and the pipes carry what it writes
and reads. -/
theorem of_stepNear {pair after : Pair H} {move : Move H}
    (stepped : pair.stepNear move = some after) :
    pair.near.step move = some after.near ∧ after.far = pair.far ∧
      pair.Carries ⟨pair.near.channel, move, after.near.channel⟩ after.outbound after.inbound := by
  obtain ⟨nearStepped, sameFar, outbound, inbound, conveys, gone⟩ := stepNear_cases stepped
  have carries := conveys.carries (moves_of_step nearStepped).1
  refine ⟨nearStepped, sameFar, ?_⟩
  rcases gone with ⟨_, outboundClosed, inboundClosed⟩ | ⟨_, rfl, rfl⟩
  · rw [outboundClosed, inboundClosed]
    exact { carries with }
  · exact carries

/-- What every allowed move keeps, a run of allowed moves keeps. -/
theorem run_keeps {motive : Pair H → Prop} {allowed : Side × Move H → Prop}
    (step_keeps : ∀ {pair after side move}, motive pair → allowed (side, move) →
      pair.step side move = some after → motive after)
    {pair after : Pair H} {moves : List (Side × Move H)} (before : motive pair)
    (allAllowed : ∀ entry ∈ moves, allowed entry) (ran : pair.run moves = some after) :
    motive after := by
  induction moves generalizing pair with
  | nil =>
      cases ran
      exact before
  | cons entry moves inductionHypothesis =>
      obtain ⟨middle, stepped, later⟩ := Option.bind_eq_some_iff.mp ran
      have between := step_keeps before (allAllowed entry List.mem_cons_self) stepped
      exact inductionHypothesis between
        (fun other member => allAllowed other (List.mem_cons_of_mem entry member)) later

/-- What every move keeps, every run keeps. -/
theorem run_maintains {motive : Pair H → Prop}
    (step_keeps : ∀ {pair after side move}, motive pair → pair.step side move = some after →
      motive after)
    {pair after : Pair H} {moves : List (Side × Move H)} (before : motive pair)
    (ran : pair.run moves = some after) : motive after :=
  run_keeps (fun before _ stepped => step_keeps before stepped) before (fun _ _ => trivial) ran

/-- What holds of the end of a run, as it is evaluated. -/
theorem of_run_all {pair after : Pair H} {moves : List (Side × Move H)}
    (ran : pair.run moves = some after) (observed : Pair H → Prop) [DecidablePred observed]
    (holds : (pair.run moves).all fun reached => decide (observed reached)) : observed after := by
  rw [ran] at holds
  exact of_decide_eq_true holds

/-! ### Quiescence -/

theorem stepNear_eq_none_iff {pair : Pair H} {move : Move H} :
    pair.stepNear move = none ↔ pair.carry move = none ∨ pair.near.step move = none := by
  unfold stepNear
  cases pair.carry move with
  | none => simp
  | some pipes =>
      cases pair.near.step move with
      | none => simp
      | some near =>
          simp only [reduceCtorEq, or_self, iff_false]
          split <;> exact fun impossible => nomatch impossible

/-- Whether the strand of the near side has to wait, with no handler at work. -/
def strandWaits (pair : Pair H) : Bool :=
  !pair.near.atWork &&
    match pair.near.channel.strandTurn with
    | .rest => true
    | .write _ => !pair.outbound.isClosed && pair.outbound.room = 0
    | _ => false

/-- Whether the read loop of the near side has to wait. -/
def readerWaits (pair : Pair H) : Bool :=
  match pair.near.channel.readTurn with
  | .rest => true
  | .read room =>
    !pair.near.channel.cancelled &&
      (if pair.inbound.held = [] then !pair.inbound.isClosed else room = 0)
  | .moved _ _ => false

variable {pair : Pair H}

/-- A strand that waits has nothing to do, or has bytes to write and no room for them. -/
theorem strandWaits_iff :
    pair.strandWaits = true ↔ pair.near.atWork = false ∧
      (pair.near.channel.strandTurn = .rest ∨
        ∃ bytes, pair.near.channel.strandTurn = .write bytes ∧ pair.outbound.isClosed = false ∧
          pair.outbound.room = 0) := by
  unfold strandWaits
  cases pair.near.channel.strandTurn <;> simp

/-- A read loop that waits is over, or there is nothing to be read, or no room to read it. -/
theorem readerWaits_iff :
    pair.readerWaits = true ↔ pair.near.channel.readTurn = .rest ∨
      ∃ room, pair.near.channel.readTurn = .read room ∧ pair.near.channel.cancelled = false ∧
        (pair.inbound.held = [] ∧ pair.inbound.isClosed = false ∨
          pair.inbound.held ≠ [] ∧ room = 0) := by
  unfold readerWaits
  cases pair.near.channel.readTurn with
  | rest => simp
  | moved after warnings => simp
  | read room => by_cases nothing : pair.inbound.held = [] <;> simp [nothing]

/-- A strand that can make no move waits, and so do the handlers that it calls. -/
theorem strandWaits_of_stuck
    (stuck : ∀ move, Move.isOfTask move = true → move.isOfReader = false →
      pair.stepNear move = none) :
    pair.strandWaits = true := by
  have refused (move : Move H) (task : move.isOfTask = true) (aside : move.isOfReader = false) :=
    stepNear_eq_none_iff.mp (stuck move task aside)
  have idle : pair.near.atWork = false := by
    simpa [carry, Session.step] using refused .returned rfl rfl
  rw [strandWaits_iff]
  refine ⟨idle, ?_⟩
  cases turn : pair.near.channel.strandTurn with
  | rest => exact .inl rfl
  | moved after warnings =>
      have impossible := refused .strandTurn rfl rfl
      simp [carry, Session.step, idle, turn] at impossible
  | call handler event after =>
      have impossible := refused .call rfl rfl
      simp [carry, Session.step, idle, turn] at impossible
  | shutdown =>
      have impossible := refused .shut rfl rfl
      simp [carry, Session.step, idle, turn] at impossible
  | write bytes =>
      -- A closed pipe would refuse the bytes, and one with room would take the first of them.
      obtain ⟨some, uid, strand⟩ := writing_of_strandTurn turn
      have isOpen : pair.outbound.isClosed = false := by
        rw [Bool.eq_false_iff]
        intro isClosed
        have broken : pair.outbound.write bytes = (.broken, pair.outbound) :=
          Pipe.write_eq_broken_iff.mpr ⟨isClosed, rfl⟩
        have impossible := refused (.refused .brokenPipe) rfl rfl
        simp [carry, Session.step, idle, turn, strand, broken] at impossible
      have full : pair.outbound.room = 0 := by
        by_contra roomy
        have positive := List.length_pos_iff.mpr some
        have one : (bytes.take 1).length = 1 := by
          rw [List.length_take]
          omega
        have taken : pair.outbound.write (bytes.take 1) = _ :=
          Pipe.write_of_fits isOpen (List.ne_nil_of_length_eq_add_one one) (by omega)
        have impossible := refused (.wrote 1) rfl rfl
        simp [carry, Session.step, idle, turn, taken, one] at impossible
        exact some impossible
      exact .inr ⟨bytes, rfl, isOpen, full⟩

/-- A read loop that can make no move waits. -/
theorem readerWaits_of_stuck
    (stuck : ∀ move, Move.isOfReader move = true → pair.stepNear move = none) :
    pair.readerWaits = true := by
  have refused (move : Move H) (own : move.isOfReader = true) :=
    stepNear_eq_none_iff.mp (stuck move own)
  rw [readerWaits_iff]
  cases turn : pair.near.channel.readTurn with
  | rest => exact .inl rfl
  | moved after warnings =>
      have impossible := refused .readerTurn rfl
      simp [carry, Session.step, turn] at impossible
  | read room =>
      have untold : pair.near.channel.cancelled = false := by
        rw [Bool.eq_false_iff]
        intro cancelled
        have impossible := refused .told rfl
        simp [carry, Session.step, whileReading, turn, cancelled] at impossible
      refine .inr ⟨room, rfl, untold, ?_⟩
      -- A pipe with bytes would give the first of them to a reader with room.
      by_cases nothing : pair.inbound.held = []
      · refine .inl ⟨nothing, ?_⟩
        rw [Bool.eq_false_iff]
        intro isClosed
        have finished : pair.inbound.read 1 = (.finished, pair.inbound) :=
          Pipe.read_eq_finished_iff.mpr ⟨nothing, isClosed, rfl⟩
        have impossible := refused .finished rfl
        simp [carry, Session.step, whileReading, turn, finished] at impossible
      · refine .inr ⟨nothing, ?_⟩
        have positive := List.length_pos_iff.mpr nothing
        have one : (pair.inbound.held.take 1).length = 1 := by
          rw [List.length_take]
          omega
        have given : pair.inbound.read 1 = (.bytes (pair.inbound.held.take 1), _) :=
          Pipe.read_eq_bytes_iff.mpr ⟨nothing, rfl, rfl⟩
        have unread := refused (.received (pair.inbound.held.take 1)) rfl
        simp [carry, Session.step, whileReading, turn, one, given] at unread
        exact unread nothing

/-- The tasks of a side of which no move is possible wait. -/
theorem waits_of_stuck (stuck : ∀ move, Move.isOfTask move = true → pair.stepNear move = none) :
    pair.strandWaits = true ∧ pair.readerWaits = true := by
  refine ⟨strandWaits_of_stuck fun move task _ => stuck move task, ?_⟩
  exact readerWaits_of_stuck fun move own => stuck move (Move.isOfTask_of_isOfReader own)

/-- A strand that waits can make no move, nor can a handler. -/
theorem stuck_of_strandWaits (waits : pair.strandWaits = true) {move : Move H}
    (task : move.isOfTask = true) (aside : move.isOfReader = false) :
    pair.stepNear move = none := by
  rw [stepNear_eq_none_iff]
  obtain ⟨idle, strand⟩ := strandWaits_iff.mp waits
  cases move with
  | act act => cases task
  | joined => cases task
  | returned => exact .inr (by simp [Session.step, idle])
  | died => exact .inr (by simp [Session.step, idle])
  | strandTurn =>
      right
      rcases strand with turn | ⟨bytes, turn, _⟩ <;> simp [Session.step, idle, turn]
  | call =>
      right
      rcases strand with turn | ⟨bytes, turn, _⟩ <;> simp [Session.step, idle, turn]
  | shut =>
      right
      rcases strand with turn | ⟨bytes, turn, _⟩ <;> simp [Session.step, idle, turn]
  | wrote count =>
      left
      rcases strand with turn | ⟨bytes, turn, isOpen, full⟩
      · simp [carry, turn]
      · simp [carry, turn, Pipe.write_of_full isOpen full]
  | refused fault =>
      left
      rcases strand with turn | ⟨bytes, turn, isOpen, full⟩
      · simp [carry, turn]
      · simp [carry, turn, Pipe.write_of_full isOpen full]
  | _ => cases aside

/-- A read loop that waits can make no move. -/
theorem stuck_of_readerWaits (waits : pair.readerWaits = true) {move : Move H}
    (own : move.isOfReader = true) : pair.stepNear move = none := by
  rw [stepNear_eq_none_iff]
  have reader := readerWaits_iff.mp waits
  cases move with
  | failed fault => exact .inl rfl
  | readerTurn =>
      right
      rcases reader with turn | ⟨room, turn, _⟩ <;> simp [Session.step, turn]
  | received bytes =>
      rcases reader with turn | ⟨room, turn, _, ⟨empty, isOpen⟩ | ⟨_, noRoom⟩⟩
      · exact .inr (by simp [Session.step, whileReading, turn])
      · exact .inl (by simp [carry, Pipe.read_of_empty isOpen empty])
      · exact .inr (by simp [Session.step, whileReading, turn, noRoom])
  | finished =>
      rcases reader with turn | ⟨room, turn, _, ⟨empty, isOpen⟩ | ⟨some, _⟩⟩
      · exact .inr (by simp [Session.step, whileReading, turn])
      · exact .inl (by simp [carry, Pipe.read_of_empty isOpen empty])
      · have given : pair.inbound.read 1 = (.bytes (pair.inbound.held.take 1), _) :=
          Pipe.read_eq_bytes_iff.mpr ⟨some, rfl, rfl⟩
        exact .inl (by simp [carry, given])
  | told =>
      right
      rcases reader with turn | ⟨room, turn, untold, _⟩
      · simp [Session.step, whileReading, turn]
      · simp [Session.step, whileReading, turn, untold]
  | _ => cases own

/-- No move is possible of a side whose tasks wait. -/
theorem stuck_of_waits (strandWaits : pair.strandWaits = true)
    (readerWaits : pair.readerWaits = true) {move : Move H} (task : move.isOfTask = true) :
    pair.stepNear move = none := by
  cases own : move.isOfReader with
  | true => exact stuck_of_readerWaits readerWaits own
  | false => exact stuck_of_strandWaits strandWaits task own

/-- A pair is quiescent exactly if all four tasks wait. -/
theorem isQuiescent_iff :
    pair.IsQuiescent ↔ (pair.strandWaits = true ∧ pair.readerWaits = true) ∧
      pair.swap.strandWaits = true ∧ pair.swap.readerWaits = true := by
  constructor
  · intro quiescent
    have nearStuck (move : Move H) (task : move.isOfTask = true) : pair.stepNear move = none :=
      quiescent .near move task
    have farStuck (move : Move H) (task : move.isOfTask = true) : pair.swap.stepNear move = none :=
      Option.map_eq_none_iff.mp (quiescent .far move task)
    exact ⟨waits_of_stuck nearStuck, waits_of_stuck farStuck⟩
  · rintro ⟨⟨nearStrand, nearReader⟩, farStrand, farReader⟩ side move task
    cases side with
    | near => exact stuck_of_waits nearStrand nearReader task
    | far => exact Option.map_eq_none_iff.mpr (stuck_of_waits farStrand farReader task)

instance : Decidable pair.IsQuiescent := decidable_of_iff' _ isQuiescent_iff

end Pair

end EventTransport
