import EventTransport.Proofs.Channel.Peers

/-!
Contract: a channel whose peer does as it likes.

Owns:
- `Pair.Deed`, what a peer does that holds the far end of the stream itself;
- `Pair.Turn`, a move of one of two channels or such a deed, and `Pair.undergo`, any sequence of
  them;
- what a peer does to the pipes.

A peer that is a channel and one that is not are taken together: the far side of a pair may move,
and somebody else may use its end of the stream as well.

Does not own: what the near side makes of it.
-/

namespace EventTransport

namespace Pair

open Channel Session

variable {H : Type}

/-- What a peer does that holds the far end of the stream itself. -/
inductive Deed where
  /-- It writes as many of the bytes as there is room for. -/
  | put (bytes : Bytes)
  /-- It reads as many bytes at most. -/
  | take (most : Nat)
  /-- It writes no more. -/
  | shut
  /-- It lets go of the stream. -/
  | drop

/-- What happens to a pair. -/
inductive Turn (H : Type) where
  | move (side : Side) (move : Move H)
  | deed (deed : Deed)

namespace Turn

/-- Whether it is a task of the near side that moves. -/
def isNear : Turn H → Bool
  | .move .near _ => true
  | _ => false

/-- Whether the application and the handlers of the near side keep quiet. -/
def leavesTasks : Turn H → Bool
  | .move .near made => made.isOfTask
  | _ => true

/-- How many bytes the peer puts into the stream at most. -/
def puts : Turn H → Nat
  | .move .far (.wrote count) => count
  | .deed (.put bytes) => bytes.length
  | _ => 0

/-- How many bytes it puts there at most in all. -/
def putsInAll : List (Turn H) → Nat
  | [] => 0
  | turn :: turns => turn.puts + putsInAll turns

/-- Whether the peer may take bytes from the stream, or let go of it. -/
def mayMakeRoom : Turn H → Bool
  | .move .far _ => true
  | .deed (.take _) => true
  | .deed .drop => true
  | _ => false

theorem exists_move_of_isNear {turn : Turn H} (own : turn.isNear = true) :
    ∃ made, turn = .move .near made := by
  match turn with
  | .move .near made => exact ⟨made, rfl⟩

end Turn

/-- The pair after a deed of the peer of the near side. -/
def suffer (pair : Pair H) : Deed → Pair H
  | .put bytes => { pair with inbound := (pair.inbound.write bytes).2 }
  | .take most => { pair with outbound := (pair.outbound.read most).2 }
  | .shut => { pair with inbound := pair.inbound.close }
  | .drop => { pair with outbound := pair.outbound.close, inbound := pair.inbound.close }

/-- What a turn makes of a pair, if it is possible. -/
def take (pair : Pair H) : Turn H → Option (Pair H)
  | .move side move => pair.step side move
  | .deed deed => some (pair.suffer deed)

/-- Turns one after the other, if they are possible. -/
def undergo (pair : Pair H) : List (Turn H) → Option (Pair H)
  | [] => some pair
  | turn :: turns => (pair.take turn).bind fun after => after.undergo turns

variable {pair after : Pair H}

theorem near_of_step_far {move : Move H} (stepped : pair.step .far move = some after) :
    after.near = pair.near := by
  obtain ⟨swapped, steppedSwapped, rfl⟩ := Option.map_eq_some_iff.mp stepped
  exact (of_stepNear steppedSwapped).2.1

@[simp] theorem near_suffer (pair : Pair H) (deed : Deed) :
    (pair.suffer deed).near = pair.near := by
  cases deed <;> rfl

/-- Whatever happens, the near side goes through a run of its own. -/
theorem exists_run_of_undergo {turns : List (Turn H)}
    (underwent : pair.undergo turns = some after) :
    ∃ moves, pair.near.run moves = some after.near := by
  induction turns generalizing pair with
  | nil =>
      cases underwent
      exact ⟨[], rfl⟩
  | cons turn turns inductionHypothesis =>
      obtain ⟨middle, taken, later⟩ := Option.bind_eq_some_iff.mp underwent
      obtain ⟨moves, ran⟩ := inductionHypothesis later
      cases turn with
      | deed deed =>
          cases taken
          rw [near_suffer] at ran
          exact ⟨moves, ran⟩
      | move side move =>
          cases side with
          | far =>
              rw [near_of_step_far taken] at ran
              exact ⟨moves, ran⟩
          | near =>
              refine ⟨move :: moves, ?_⟩
              rw [Session.run, (of_stepNear taken).1]
              exact ran

/-- What every allowed turn keeps, a run of allowed turns keeps. -/
theorem undergo_keeps {motive : Pair H → Prop} {allowed : Turn H → Prop}
    (turn_keeps : ∀ {pair after turn}, motive pair → allowed turn → pair.take turn = some after →
      motive after)
    {turns : List (Turn H)} (before : motive pair) (allAllowed : ∀ turn ∈ turns, allowed turn)
    (underwent : pair.undergo turns = some after) : motive after := by
  induction turns generalizing pair with
  | nil =>
      cases underwent
      exact before
  | cons turn turns inductionHypothesis =>
      obtain ⟨middle, taken, later⟩ := Option.bind_eq_some_iff.mp underwent
      have between := turn_keeps before (allAllowed turn List.mem_cons_self) taken
      exact inductionHypothesis between
        (fun other member => allAllowed other (List.mem_cons_of_mem turn member)) later

/-- What holds of the pair after a run of turns, as it is evaluated. -/
theorem of_undergo_all {turns : List (Turn H)} (underwent : pair.undergo turns = some after)
    (observed : Pair H → Prop) [DecidablePred observed]
    (holds : (pair.undergo turns).all fun reached => decide (observed reached)) :
    observed after := by
  rw [underwent] at holds
  exact of_decide_eq_true holds

/-! ### The pipes -/

theorem Conveys.isClosed_inbound {move : Move H} {outbound inbound : Pipe}
    (conveys : pair.Conveys move outbound inbound) : inbound.isClosed = pair.inbound.isClosed := by
  cases conveys with
  | @received bytes rest read => rw [← Pipe.isClosed_read pair.inbound bytes.length, read]
  | _ => rfl

/-- A side takes no room in the pipe that it reads from, and does not open it. -/
theorem inbound_of_stepNear {move : Move H} (stepped : pair.stepNear move = some after) :
    (pair.inbound.isClosed = true → after.inbound.isClosed = true) ∧
      pair.inbound.room ≤ after.inbound.room := by
  obtain ⟨_, _, carries⟩ := of_stepNear stepped
  constructor
  · intro isClosed
    obtain ⟨_, _, outbound, inbound, conveys, ⟨_, _, gone⟩ | ⟨_, _, kept⟩⟩ := stepNear_cases stepped
    · rw [gone]
      rfl
    · rw [kept, conveys.isClosed_inbound, isClosed]
  · have read := congrArg List.length carries.read
    rw [List.length_append] at read
    unfold Pipe.room
    rw [carries.inboundCapacity]
    omega

theorem length_written_le (before : Channel H) (move : Move H) (after : Channel H) :
    (Made.mk before move after).written.length ≤ (Turn.move .far move).puts := by
  cases move with
  | wrote count =>
      cases strand : before.strand with
      | writing uid rest =>
          simp only [Made.written, strand, List.length_take]
          exact Nat.min_le_left _ _
      | _ => simp [strand]
  | _ => exact Nat.zero_le _

/-- What the peer puts into the stream. -/
theorem inbound_of_take {turn : Turn H} (aside : turn.isNear = false)
    (taken : pair.take turn = some after) :
    after.near = pair.near ∧ after.inbound.held.length ≤ pair.inbound.held.length + turn.puts := by
  match turn with
  | .move .far move =>
      refine ⟨near_of_step_far taken, ?_⟩
      obtain ⟨swapped, stepped, rfl⟩ := Option.map_eq_some_iff.mp taken
      obtain ⟨_, _, carries⟩ := of_stepNear stepped
      have written := congrArg List.length carries.written
      rw [List.length_append] at written
      exact Nat.le_trans (Nat.le_of_eq written) (Nat.add_le_add_left (length_written_le _ _ _) _)
  | .deed deed =>
      cases taken
      refine ⟨near_suffer pair deed, ?_⟩
      cases deed with
      | put bytes => exact Pipe.length_held_write_le_add pair.inbound bytes
      | take | shut | drop => exact Nat.le_refl _

end Pair

end EventTransport
