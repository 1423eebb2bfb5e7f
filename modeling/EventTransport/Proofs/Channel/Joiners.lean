import EventTransport.Proofs.Channel.Joining
import EventTransport.Proofs.Channel.LifeCycle
import Mathlib.Data.List.Basic

/-!
Contract: joins on several handles of one channel, one after the other or overlapping.

Owns:
- `Joiners`, a session with the joins that were called and those that came back, and `Joiners.run`;
- `Channel.Made.ending`, how a task ends by a move, and `Session.Tallies`, by which the channel
  keeps what its tasks ended with in the order in which they ended;
- `Joiners.TakenOnce`, the invariant of every run, and that only the first join of a begun channel
  waits;
- that a join between whose two moves nothing happens is `Channel.join`.

A join takes the tasks of the channel out of the cell that all handles share, and then waits for
those that it has taken. It is two moves, and anything may come between them.

Does not own: what closed the channel, and joins that are given up before they come back.
-/

namespace EventTransport

namespace Channel

variable {H : Type}

/-- Whether it is a join that moves. -/
def Move.isJoin : Move H → Bool
  | joined => true
  | _ => false

namespace Made

/-- How the strand ends by this, if it does. -/
def endsStrand (made : Made H) : Option Outcome :=
  match made.before.strand, made.after.strand with
  | .closing outcome, .ended => some outcome
  | .calling _ _ _, .died => some (.error .taskJoin)
  | _, _ => none

/-- How a task ends by this, if one does. -/
def ending (made : Made H) : Option Outcome := made.endsReading.or made.endsStrand

end Made

/-- How many of the tasks are over. -/
def overCount (channel : Channel H) : Nat :=
  (decide (channel.reader = .ended)).toNat + channel.strand.isOver.toNat

theorem overCount_le (channel : Channel H) : channel.overCount ≤ 2 :=
  Nat.add_le_add (Bool.toNat_le _) (Bool.toNat_le _)

theorem isFinished_iff (channel : Channel H) :
    channel.isFinished = true ↔ channel.overCount = 2 := by
  unfold isFinished overCount
  cases decide (channel.reader = .ended) <;> cases channel.strand.isOver <;> decide

/-- A task that ends leaves what it ends with, and nothing else is left. -/
structure Tells (made : Made H) : Prop where
  endings : made.after.endings = made.before.endings ++ made.ending.toList
  counted : made.after.overCount = made.before.overCount + made.ending.toList.length

namespace Tells

/-- A move by which no task ends. -/
theorem of_goesOn {made : Made H} (reading : made.endsReading = none)
    (endings : made.after.endings = made.before.endings)
    (reader : made.after.reader = .ended ↔ made.before.reader = .ended)
    (isOver : made.after.strand.isOver = made.before.strand.isOver) : Tells made := by
  have writing : made.endsStrand = none := by
    unfold Made.endsStrand
    split <;> simp_all [Strand.isOver]
  have ending : made.ending = none := by rw [Made.ending, reading, writing]; rfl
  refine ⟨by rw [endings, ending]; simp, ?_⟩
  rw [ending, overCount, overCount, isOver, decide_eq_decide.mpr reader]
  rfl

theorem of_ends {before after : Channel H} {move : Move H} (ends : Ends before move after) :
    Tells ⟨before, move, after⟩ := by
  cases ends with
  | goOn reading writing endings reader left isOver => exact of_goesOn reading endings reader isOver
  | strandLeaves outcome reading writing endings reader stays isOver strand =>
      refine of_goesOn reading endings (by rw [reader]) ?_
      rw [isOver, show after.strand = _ from strand]
      rfl
  | readerReturns outcome reading writing endings reader returned strand =>
      have ending : (Made.mk before move after).ending = some outcome := by
        rw [Made.ending, reading]; rfl
      refine ⟨by rw [ending]; exact endings, ?_⟩
      rw [ending, overCount, overCount, show after.strand = _ from strand, decide_eq_true returned,
        decide_eq_false reader]
      simp [Nat.add_comm]
  | strandReturns outcome reading writing endings reader strand ended =>
      have ending : (Made.mk before move after).ending = some outcome := by
        rw [Made.ending, reading, Made.endsStrand, strand, ended]
        rfl
      refine ⟨by rw [ending]; exact endings, ?_⟩
      rw [ending, overCount, overCount, show after.reader = _ from reader, strand, ended]
      rfl

/-- A handler that dies takes the strand with it. -/
theorem of_died {before : Channel H}
    (atWork : ∃ stage event handlers, before.strand = .calling stage event handlers) :
    Tells ⟨before, .died, before.handlerDied⟩ := by
  obtain ⟨stage, event, handlers, strand⟩ := atWork
  have ending : (Made.mk before .died before.handlerDied).ending = some (.error .taskJoin) := by
    rw [Made.ending, Made.endsStrand, strand]
    rfl
  refine ⟨by rw [ending]; rfl, ?_⟩
  rw [ending, overCount, overCount, strand]
  rfl

end Tells

/-- There are tasks to be taken once they have been begun, and only a join takes them. -/
theorem joinable_of_moves_aside {before after : Channel H} {move : Move H}
    (moves : Moves before move after) (aside : move.isJoin = false) :
    after.joinable = (before.joinable || (Made.mk before move after).spawns) := by
  cases moves with
  | joined => cases aside
  | act act =>
      cases act with
      | start lowLatency =>
          simp only [perform, Channel.start, Made.spawns]
          split <;> simp_all [Channel.enter]
      | send event =>
          simp only [perform, Channel.send, Made.spawns, Bool.or_false]
          split
          · rfl
          · exact joinable_post before _
      | deliver event => simp [perform, Channel.deliver, Made.spawns]
      | dispatch =>
          simp only [perform, Made.spawns, Bool.or_false]
          split <;> rfl
      | _ => simp [perform, Channel.stop, Channel.close, Made.spawns]
  | decoded => simp [Channel.deliver, Made.spawns]
  | _ =>
      simp [Made.spawns, Channel.leave, Channel.endReading, Channel.dropReader, Channel.close,
        Channel.enter, Channel.handlerDied]

theorem joinable_join (channel : Channel H) : channel.join.2.joinable = false := by
  unfold Channel.join
  cases joinable : channel.joinable with
  | true => rfl
  | false => simpa using joinable

/-- A join takes the tasks, and leaves the rest as it is. -/
theorem same_of_join (channel : Channel H) :
    channel.join.2.strand = channel.strand ∧ channel.join.2.endings = channel.endings ∧
      channel.join.2.isFinished = channel.isFinished := by
  unfold Channel.join
  split <;> exact ⟨rfl, rfl, rfl⟩

end Channel

namespace Session

open Channel

variable {H : Type}

/-- The channel keeps what its tasks ended with, in the order in which they ended. -/
structure Tallies (session : Session H) : Prop where
  attends : session.Attends
  closes : session.channel.Closes session.starved session.died
  endings : session.channel.endings = session.past.filterMap Made.ending
  counted : session.channel.endings.length = session.channel.overCount

namespace Tallies

variable {session after : Session H} {move : Channel.Move H}

theorem fresh (config : Config) (codec : Codec) :
    (Session.fresh config codec : Session H).Tallies where
  attends := fun impossible => nomatch impossible
  closes := .fresh config codec
  endings := rfl
  counted := rfl

theorem tells (tallies : session.Tallies) (stepped : session.step move = some after)
    (aside : move.isJoin = false) : Tells ⟨session.channel, move, after.channel⟩ := by
  obtain ⟨moves, _⟩ := moves_of_step stepped
  cases kind : move.sparesTasks with
  | true => exact .of_ends (.of_moves tallies.closes.begun moves kind)
  | false =>
      cases move with
      | died =>
          have atWork := tallies.attends.of_died stepped
          generalize after.channel = later at moves
          cases moves
          exact .of_died atWork
      | joined => cases aside
      | _ => cases kind

theorem step (tallies : session.Tallies) (stepped : session.step move = some after)
    (aside : move.isJoin = false) : after.Tallies := by
  have tells := tallies.tells stepped aside
  refine ⟨tallies.attends.step stepped,
    closes_of_step tallies.attends tallies.closes stepped, ?_, ?_⟩
  · rw [tells.endings, (moves_of_step stepped).2, List.filterMap_append, tallies.endings,
      List.filterMap_cons]
    cases (Made.mk session.channel move after.channel).ending <;> rfl
  · rw [tells.endings, tells.counted, List.length_append, tallies.counted]

/-- A task that is over stays over, and what it ended with stays as it is. -/
theorem stays (tallies : session.Tallies) (stepped : session.step move = some after)
    (aside : move.isJoin = false) (finished : session.channel.isFinished = true) :
    after.channel.isFinished = true ∧ after.channel.endings = session.channel.endings := by
  have tells := tallies.tells stepped aside
  have both := (isFinished_iff _).mp finished
  have counted := tells.counted
  have most := overCount_le after.channel
  dsimp only at counted
  have nothing : (Made.mk session.channel move after.channel).ending.toList = [] :=
    List.eq_nil_of_length_eq_zero (by omega)
  refine ⟨(isFinished_iff _).mpr ?_, ?_⟩
  · rw [counted, nothing, both]
    rfl
  · rw [tells.endings, nothing, List.append_nil]

/-- A join takes the tasks, and changes nothing of what they have ended with. -/
theorem join (tallies : session.Tallies) :
    { session with channel := session.channel.join.2 }.Tallies where
  attends := fun atWork => by
    obtain ⟨stage, event, handlers, strand⟩ := tallies.attends atWork
    exact ⟨stage, event, handlers, (same_of_join _).1.trans strand⟩
  closes := tallies.closes.join
  endings := (same_of_join _).2.1.trans tallies.endings
  counted := by
    unfold Channel.join
    split <;> exact tallies.counted

/-- When both tasks are over, each has left what it ended with. -/
theorem both (tallies : session.Tallies) (finished : session.channel.isFinished = true) :
    ∃ first second, session.past.filterMap Made.ending = [first, second] := by
  apply List.length_eq_two.mp
  rw [← tallies.endings, tallies.counted]
  exact (isFinished_iff _).mp finished

end Tallies

end Session

/-- A join that was called. -/
structure JoinCall where
  /-- Whether the tasks of the channel had been begun. -/
  started : Bool
  /-- Whether there were tasks that no join had taken, which this one took. -/
  takes : Bool
deriving DecidableEq

/-- A join that came back. -/
structure JoinReturn where
  /-- Which of the calls it is. -/
  number : Nat
  outcome : Outcome
  /-- Whether both tasks were over then. -/
  tasksOver : Bool
deriving DecidableEq

/-- A session with the joins that were called on any handle of the channel. -/
structure Joiners (H : Type) where
  session : Session H
  calls : List JoinCall := []
  returns : List JoinReturn := []

namespace Joiners

open Channel

variable {H : Type}

/-- One move of a session, or of a join. -/
inductive Move (H : Type) where
  | aside (move : Channel.Move H)
  /-- A join is called. -/
  | called
  /-- A join that took the tasks comes back. -/
  | comesBack (number : Nat)

def fresh (config : Config) (codec : Codec) : Joiners H := { session := .fresh config codec }

/-- The joins after one more is called. It takes the tasks if there are any left, and comes back at
once if not. -/
def call (joiners : Joiners H) : Joiners H :=
  let channel := joiners.session.channel
  let call := { started := channel.strand.isPresent, takes := channel.joinable }
  let back :=
    { number := joiners.calls.length, outcome := channel.join.1, tasksOver := channel.isFinished }
  { session := { joiners.session with channel := channel.join.2 }
    calls := joiners.calls ++ [call]
    returns := if channel.joinable then joiners.returns else joiners.returns ++ [back] }

theorem returns_call_of_joinable {joiners : Joiners H}
    (joinable : joiners.session.channel.joinable = true) : joiners.call.returns = joiners.returns :=
  if_pos joinable

theorem returns_call_of_taken {joiners : Joiners H}
    (taken : joiners.session.channel.joinable = false) :
    joiners.call.returns = joiners.returns ++
      [{ number := joiners.calls.length
         outcome := .ok ()
         tasksOver := joiners.session.channel.isFinished }] := by
  simp [call, Channel.join, taken]

theorem returns_subset_call {joiners : Joiners H} : joiners.returns ⊆ joiners.call.returns := by
  cases taken : joiners.session.channel.joinable with
  | true => rw [returns_call_of_joinable taken]; exact fun _ member => member
  | false => rw [returns_call_of_taken taken]; exact List.subset_append_left _ _

/-- Whether a join took tasks and has not come back. -/
def waits (joiners : Joiners H) (number : Nat) : Bool :=
  (joiners.calls[number]?).any JoinCall.takes &&
    !joiners.returns.any fun back => back.number = number

/-- The joins after the one that took the tasks comes back, with what these have ended with. -/
def comeBack (joiners : Joiners H) (number : Nat) : Joiners H :=
  let channel := joiners.session.channel
  let back :=
    { number := number, outcome := firstFailure channel.endings, tasksOver := channel.isFinished }
  { joiners with returns := joiners.returns ++ [back] }

/-- One move, if it is possible. The join that took the tasks comes back when both are over. -/
def step (joiners : Joiners H) : Move H → Option (Joiners H)
  | .aside move =>
    if move.isJoin then none
    else (joiners.session.step move).map fun after => { joiners with session := after }
  | .called => some joiners.call
  | .comesBack number =>
    if joiners.waits number && joiners.session.channel.isFinished
      then some (joiners.comeBack number)
    else none

/-- Moves one after the other, if they are possible. -/
def run (joiners : Joiners H) : List (Move H) → Option (Joiners H)
  | [] => some joiners
  | move :: moves => (joiners.step move).bind fun after => after.run moves

/-- What every step keeps, every run keeps. -/
theorem run_maintains {motive : Joiners H → Prop}
    (step_keeps : ∀ {joiners after move}, motive joiners → joiners.step move = some after →
      motive after)
    {joiners after : Joiners H} {moves : List (Move H)} (before : motive joiners)
    (ran : joiners.run moves = some after) : motive after := by
  induction moves generalizing joiners with
  | nil =>
      cases ran
      exact before
  | cons move moves inductionHypothesis =>
      obtain ⟨middle, stepped, later⟩ := Option.bind_eq_some_iff.mp ran
      exact inductionHypothesis (step_keeps before stepped) later

/-- What holds of the end of a run, as it is evaluated. -/
theorem of_run_all {joiners after : Joiners H} {moves : List (Move H)}
    (ran : joiners.run moves = some after) (observed : Joiners H → Prop) [DecidablePred observed]
    (holds : (joiners.run moves).all fun reached => decide (observed reached)) :
    observed after := by
  rw [ran] at holds
  exact of_decide_eq_true holds

/-- What a join comes back with. -/
structure Answers (channel : Channel H) (call : JoinCall) (back : JoinReturn) : Prop where
  nothing : call.takes = false → back.outcome = .ok ()
  taken : call.takes = true → back.tasksOver = true ∧ channel.isFinished = true ∧
    back.outcome = firstFailure channel.endings

/-- The tasks are taken once, by the first join that is called when they have been begun. -/
structure TakenOnce (joiners : Joiners H) : Prop where
  tallies : joiners.session.Tallies
  begun : joiners.calls.any JoinCall.started = true →
    joiners.session.channel.strand.isPresent = true
  joinable : joiners.session.channel.joinable =
    (joiners.session.channel.strand.isPresent && !joiners.calls.any JoinCall.started)
  takes : ∀ number call, joiners.calls[number]? = some call →
    call.takes = (call.started && !(joiners.calls.take number).any JoinCall.started)
  atOnce : ∀ number call, joiners.calls[number]? = some call → call.takes = false →
    ∃ back ∈ joiners.returns, back.number = number
  answers : ∀ back ∈ joiners.returns, ∃ call, joiners.calls[back.number]? = some call ∧
    Answers joiners.session.channel call back

namespace TakenOnce

variable {joiners after : Joiners H}

theorem fresh (config : Config) (codec : Codec) :
    (Joiners.fresh config codec : Joiners H).TakenOnce where
  tallies := .fresh config codec
  begun := fun impossible => nomatch impossible
  joinable := rfl
  takes := fun _ _ none => nomatch none
  atOnce := fun _ _ none => nomatch none
  answers := fun _ none => nomatch none

/-- A move of anything but a join. -/
theorem aside {move : Channel.Move H} {later : Session H} (once : joiners.TakenOnce)
    (stepped : joiners.session.step move = some later) (isAside : move.isJoin = false) :
    { joiners with session := later }.TakenOnce := by
  have moves := (Session.moves_of_step stepped).1
  have isPresent := isPresent_of_moves moves fun died =>
    once.tallies.attends.of_died (died ▸ stepped)
  refine ⟨once.tallies.step stepped isAside, fun started => ?_, ?_, once.takes, once.atOnce,
    fun back member => ?_⟩
  · show later.channel.strand.isPresent = true
    rw [isPresent, once.begun started]
    rfl
  · show later.channel.joinable = _
    rw [joinable_of_moves_aside moves isAside, once.joinable, isPresent]
    cases spawns : (Made.mk joiners.session.channel move later.channel).spawns with
    | false => simp only [Bool.or_false]
    | true =>
        -- Nobody has found tasks before there are any.
        have absent : joiners.session.channel.strand.isPresent = false := absent_of_spawns spawns
        have unasked : joiners.calls.any JoinCall.started = false :=
          Bool.eq_false_iff.mpr fun started => Bool.eq_false_iff.mp absent (once.begun started)
        rw [unasked]
        simp
  · obtain ⟨call, found, answered⟩ := once.answers back member
    refine ⟨call, found, answered.nothing, fun takes => ?_⟩
    obtain ⟨tasksOver, finished, outcome⟩ := answered.taken takes
    obtain ⟨stays, endings⟩ := once.tallies.stays stepped isAside finished
    exact ⟨tasksOver, stays, outcome.trans (by rw [endings])⟩

/-- A join that is called. -/
theorem call (once : joiners.TakenOnce) : joiners.call.TakenOnce := by
  let channel := joiners.session.channel
  let last : JoinCall := { started := channel.strand.isPresent, takes := channel.joinable }
  have calls : joiners.call.calls = joiners.calls ++ [last] := rfl
  have started : joiners.call.calls.any JoinCall.started =
      (joiners.calls.any JoinCall.started || channel.strand.isPresent) := by
    rw [calls, List.any_append]
    simp [last]
  obtain ⟨strand, endings, isFinished⟩ := same_of_join channel
  refine ⟨once.tallies.join, fun found => ?_, ?_, fun number call found => ?_,
    fun number call found nothing => ?_, fun back member => ?_⟩
  · show channel.join.2.strand.isPresent = true
    rw [strand]
    rw [started] at found
    rcases Bool.or_eq_true_iff.mp found with before | present
    · exact once.begun before
    · exact present
  · show channel.join.2.joinable = (channel.join.2.strand.isPresent && _)
    rw [joinable_join, strand, started]
    cases channel.strand.isPresent <;> simp
  · -- There are tasks to be taken exactly if they have been begun and nobody has found them since.
    rw [calls] at found ⊢
    rcases found_or_new_of_snoc found with before | ⟨rfl, rfl⟩
    · have bounded := (List.getElem?_eq_some_iff.mp before).1
      rw [List.take_append_of_le_length (Nat.le_of_lt bounded)]
      exact once.takes number call before
    · rw [List.take_left']
      · exact once.joinable
      · rfl
  · rw [calls] at found
    rcases found_or_new_of_snoc found with before | ⟨rfl, rfl⟩
    · obtain ⟨back, member, number⟩ := once.atOnce number call before nothing
      exact ⟨back, returns_subset_call member, number⟩
    · have returns := returns_call_of_taken nothing
      exact ⟨_, returns ▸ List.mem_append_right _ List.mem_cons_self, rfl⟩
  · have stays {back : JoinReturn} (before : back ∈ joiners.returns) :
        ∃ call, joiners.call.calls[back.number]? = some call ∧
          Answers channel.join.2 call back := by
      obtain ⟨call, found, answered⟩ := once.answers back before
      have bounded := (List.getElem?_eq_some_iff.mp found).1
      refine ⟨call, (List.getElem?_append_left bounded).trans found, answered.nothing, ?_⟩
      rw [isFinished, endings]
      exact answered.taken
    cases taken : channel.joinable with
    | true =>
        rw [returns_call_of_joinable taken] at member
        exact stays member
    | false =>
        rw [returns_call_of_taken taken] at member
        rcases List.mem_append.mp member with before | new
        · exact stays before
        · cases List.mem_singleton.mp new
          refine ⟨last, List.getElem?_concat_length, fun _ => rfl, fun takes => ?_⟩
          exact absurd (taken.symm.trans takes) (by decide)

/-- A join that comes back when both tasks are over. -/
theorem comesBack {number : Nat} (once : joiners.TakenOnce)
    (stepped : joiners.step (.comesBack number) = some after) : after.TakenOnce := by
  dsimp only [step] at stepped
  split at stepped
  case isFalse => cases stepped
  case isTrue possible =>
    cases stepped
    obtain ⟨waits, finished⟩ := Bool.and_eq_true_iff.mp possible
    obtain ⟨took, _⟩ := Bool.and_eq_true_iff.mp waits
    obtain ⟨taker, found, takes⟩ := (Option.any_eq_true _ _).mp took
    refine ⟨once.tallies, once.begun, once.joinable, once.takes,
      fun number call found nothing => ?_,
      fun back member => ?_⟩
    · obtain ⟨back, member, number⟩ := once.atOnce number call found nothing
      exact ⟨back, List.mem_append_left _ member, number⟩
    · rcases List.mem_append.mp member with before | new
      · exact once.answers back before
      · cases List.mem_singleton.mp new
        refine ⟨taker, found, fun nothing => ?_, fun _ => ⟨finished, finished, rfl⟩⟩
        exact absurd (nothing.symm.trans takes) (by decide)

theorem step {move : Move H} (once : joiners.TakenOnce) (stepped : joiners.step move = some after) :
    after.TakenOnce := by
  cases move with
  | aside move =>
      dsimp only [Joiners.step] at stepped
      split at stepped
      · cases stepped
      · rename_i isAside
        obtain ⟨later, moved, rfl⟩ := Option.map_eq_some_iff.mp stepped
        exact once.aside moved (Bool.eq_false_iff.mpr isAside)
  | called =>
      cases stepped
      exact once.call
  | comesBack number => exact once.comesBack stepped

end TakenOnce

theorem takenOnce_of_run {config : Config} {codec : Codec} {moves : List (Move H)}
    {joiners : Joiners H} (ran : (fresh config codec).run moves = some joiners) :
    joiners.TakenOnce :=
  run_maintains (fun once stepped => once.step stepped) (.fresh config codec) ran

/-- A join that has just taken the tasks has not come back. -/
theorem waits_call {joiners : Joiners H} (once : joiners.TakenOnce)
    (joinable : joiners.session.channel.joinable = true) :
    joiners.call.waits joiners.calls.length = true := by
  have unanswered : (joiners.returns.any fun back => back.number = joiners.calls.length) =
      false := by
    refine List.any_eq_false.mpr fun back member same => ?_
    obtain ⟨call, found, _⟩ := once.answers back member
    have bounded := (List.getElem?_eq_some_iff.mp found).1
    rw [of_decide_eq_true same] at bounded
    exact Nat.lt_irrefl _ bounded
  unfold waits
  rw [returns_call_of_joinable joinable, unanswered]
  simp [call, joinable]

/-- A join between whose two moves nothing happens is a join of the channel. -/
theorem run_join {joiners : Joiners H} (once : joiners.TakenOnce)
    (tasksOver : joiners.session.channel.joinable = true →
      joiners.session.channel.isFinished = true) :
    let channel := joiners.session.channel
    let last := joiners.calls.length
    let moves := if channel.joinable then [.called, .comesBack last] else [.called]
    ∃ after, joiners.run moves = some after ∧ after.session.channel = channel.join.2 ∧
      after.returns = joiners.returns ++
        [{ number := last, outcome := channel.join.1, tasksOver := channel.isFinished }] := by
  intro channel last moves
  cases joinable : channel.joinable with
  | false =>
      refine ⟨joiners.call, by simp only [moves, joinable]; rfl, rfl, ?_⟩
      rw [returns_call_of_taken joinable, Channel.join, joinable]
      rfl
  | true =>
      have finished : channel.isFinished = true := tasksOver joinable
      obtain ⟨_, endings, isFinished⟩ := same_of_join channel
      have reported : channel.join.1 = firstFailure channel.join.2.endings := by
        rw [endings, Channel.join, if_pos joinable]
      have comesBack : joiners.call.step (.comesBack last) = some (joiners.call.comeBack last) :=
        if_pos (Bool.and_eq_true_iff.mpr ⟨waits_call once joinable, isFinished.trans finished⟩)
      have returns : (joiners.call.comeBack last).returns = joiners.call.returns ++
          [{ number := last
             outcome := firstFailure channel.join.2.endings
             tasksOver := channel.join.2.isFinished }] := rfl
      refine ⟨joiners.call.comeBack last, ?_, rfl, ?_⟩
      · simp only [moves, joinable, if_true]
        show (joiners.call.step (.comesBack last)).bind (fun middle => middle.run []) = _
        rw [comesBack]
        rfl
      · rw [returns, returns_call_of_joinable joinable, reported, isFinished]

/-- **Only the first join of a begun channel waits.** In every run, by whatever calls on whatever
handles and whatever steps of the tasks in whatever order, a join takes the tasks exactly if they
had been begun when it was called and no other had been called since. It comes back only when both
tasks are over, with the first failure in the order in which they ended.

Every other join comes back at once and is well, whether or not the tasks are still at work, and
whatever they end with. So what it comes back with is what the first one comes back with exactly if
neither task fails. -/
theorem first_join_waits (config : Config) (codec : Codec) {moves : List (Move H)}
    {joiners : Joiners H} (ran : (fresh config codec).run moves = some joiners) :
    let endings := joiners.session.past.filterMap Made.ending
    (∀ number call, joiners.calls[number]? = some call →
      call.takes = (call.started && !(joiners.calls.take number).any JoinCall.started) ∧
      (call.takes = false → ∃ back ∈ joiners.returns, back.number = number)) ∧
    (∀ back ∈ joiners.returns, ∃ call, joiners.calls[back.number]? = some call ∧
      (call.takes = false → back.outcome = .ok ()) ∧
      (call.takes = true → back.tasksOver = true ∧
        ∃ first second, endings = [first, second] ∧ back.outcome = firstFailure [first, second])) ∧
    ∀ back ∈ joiners.returns, ∀ other ∈ joiners.returns, ∀ call otherCall,
      joiners.calls[back.number]? = some call → joiners.calls[other.number]? = some otherCall →
      call.takes = true → otherCall.takes = false →
      (other.outcome = back.outcome ↔ ∀ outcome ∈ endings, outcome = .ok ()) := by
  intro endings
  have once := takenOnce_of_run ran
  have ended : joiners.session.channel.endings = endings := once.tallies.endings
  refine ⟨fun number call found => ⟨once.takes number call found, once.atOnce number call found⟩,
    fun back member => ?_, fun back member other otherMember call otherCall found otherFound takes
      nothing => ?_⟩
  · obtain ⟨call, found, answered⟩ := once.answers back member
    refine ⟨call, found, answered.nothing, fun takes => ?_⟩
    obtain ⟨tasksOver, finished, outcome⟩ := answered.taken takes
    obtain ⟨first, second, both⟩ := once.tallies.both finished
    exact ⟨tasksOver, first, second, both, by rw [outcome, ended, ← both]⟩
  · obtain ⟨_, same, answered⟩ := once.answers back member
    obtain rfl := Option.some.inj (same.symm.trans found)
    obtain ⟨_, otherSame, otherAnswered⟩ := once.answers other otherMember
    obtain rfl := Option.some.inj (otherSame.symm.trans otherFound)
    rw [otherAnswered.nothing nothing, (answered.taken takes).2.2, ended, eq_comm]
    exact firstFailure_eq_ok_iff endings

/-- Two joins overlap, the stream gives a damaged frame, and a third join comes after the end: the
first one waits, and comes back with what is wrong with the frame. -/
theorem first_join_waits_of_damaged_frame :
    let damaged := (Frame.mk 1 0 0 []).bytes.set 10 1
    let moves : List (Move Nat) :=
      [.aside (.act (.start (.ok ()))), .called, .called, .aside (.received damaged),
        .aside .readerTurn, .aside .strandTurn, .aside .strandTurn, .aside .shut,
          .comesBack 0, .called]
    ∃ joiners, (fresh {} .default).run moves = some joiners ∧
      ∃ first ∈ joiners.returns, ∃ second ∈ joiners.returns, ∃ third ∈ joiners.returns,
        first.number = 0 ∧ second.number = 1 ∧ third.number = 2 ∧
        first.tasksOver = true ∧ first.outcome = .error (.integrityViolation 1 0) ∧
        second.outcome = .ok () ∧ third.outcome = .ok () := by
  intro damaged moves
  have possible : ((fresh {} .default).run moves).isSome = true := by decide +kernel
  obtain ⟨joiners, ran⟩ := Option.isSome_iff_exists.mp possible
  have calls := of_run_all ran (fun joiners => joiners.calls =
    [{ started := true, takes := true }, { started := true, takes := false },
      { started := true, takes := false }]) (by decide +kernel)
  have ended := of_run_all ran (fun joiners => joiners.session.past.filterMap Made.ending =
    [.error (.integrityViolation 1 0), .ok ()]) (by decide +kernel)
  have cameBack := of_run_all ran (fun joiners => ∃ back ∈ joiners.returns, back.number = 0)
    (by decide +kernel)
  obtain ⟨callsOf, returnsOf, _⟩ := first_join_waits {} .default ran
  have well : ∀ number call, joiners.calls[number]? = some call → call.takes = false →
      ∃ back ∈ joiners.returns, back.number = number ∧ back.outcome = .ok () := by
    intro number call found nothing
    obtain ⟨back, member, rfl⟩ := (callsOf number call found).2 nothing
    obtain ⟨same, sameFound, answered, _⟩ := returnsOf back member
    obtain rfl := Option.some.inj (sameFound.symm.trans found)
    exact ⟨back, member, rfl, answered nothing⟩
  obtain ⟨first, firstMember, isFirst⟩ := cameBack
  obtain ⟨taker, found, _, taken⟩ := returnsOf first firstMember
  rw [isFirst, calls] at found
  obtain rfl := Option.some.inj found
  obtain ⟨tasksOver, one, another, both, outcome⟩ := taken rfl
  obtain ⟨second, secondMember, isSecond, secondOutcome⟩ := well 1 _ (by rw [calls]; rfl) rfl
  obtain ⟨third, thirdMember, isThird, thirdOutcome⟩ := well 2 _ (by rw [calls]; rfl) rfl
  refine ⟨joiners, ran, first, firstMember, second, secondMember, third, thirdMember, isFirst,
    isSecond, isThird,
    tasksOver, ?_, secondOutcome, thirdOutcome⟩
  rw [outcome, ← both, ended]
  rfl

/-- **A join may come back while the tasks are at work, and well from a channel that has failed.**
The second of two overlapping joins comes back before the frame is read that closes the channel; the
first one reports the frame, and the third does not. -/
theorem joins_apart :
    let damaged := (Frame.mk 1 0 0 []).bytes.set 10 1
    let moves : List (Move Nat) :=
      [.aside (.act (.start (.ok ()))), .called, .called, .aside (.received damaged),
        .aside .readerTurn, .aside .strandTurn, .aside .strandTurn, .aside .shut,
          .comesBack 0, .called]
    ∃ joiners, (fresh {} .default).run moves = some joiners ∧
      (∀ call ∈ joiners.calls, call.started = true) ∧
      joiners.returns =
        [{ number := 1, outcome := .ok (), tasksOver := false },
          { number := 0, outcome := .error (.integrityViolation 1 0), tasksOver := true },
          { number := 2, outcome := .ok (), tasksOver := true }] := by
  intro damaged moves
  have possible : ((fresh {} .default).run moves).isSome = true := by decide +kernel
  obtain ⟨joiners, ran⟩ := Option.isSome_iff_exists.mp possible
  refine ⟨joiners, ran, ?_⟩
  exact of_run_all ran (fun joiners => (∀ call ∈ joiners.calls, call.started = true) ∧
    joiners.returns =
      [{ number := 1, outcome := .ok (), tasksOver := false },
        { number := 0, outcome := .error (.integrityViolation 1 0), tasksOver := true },
        { number := 2, outcome := .ok (), tasksOver := true }]) (by decide +kernel)

end Joiners

end EventTransport
