import EventTransport.Proofs.Channel.Serving

/-!
Contract: the order in which a channel executes what is submitted to it.

Owns:
- `Session.Leads`, what the strand can do on its own, and that it gets through with everything once
  it has left its loop;
- that operations are executed one at a time in the order of submission, and which of them are
  executed once the strand takes no more.

Does not own: sessions in which handlers die, or in which others dispatch.
-/

namespace EventTransport

namespace Session

open Channel

variable {H : Type}

/-! ### The end of the strand -/

/-- A session that comes from another one if only the strand moves, and handlers that it has called
return. -/
def Leads (session after : Session H) : Prop :=
  ∃ moves : List (Move H), (∀ move ∈ moves, move = .strandTurn ∨ move = .call ∨ move = .returned) ∧
    session.run moves = some after

namespace Leads

theorem refl (session : Session H) : session.Leads session :=
  ⟨[], fun _ impossible => (nomatch impossible), rfl⟩

theorem trans {session middle after : Session H} (first : session.Leads middle)
    (second : middle.Leads after) : session.Leads after := by
  obtain ⟨moves, ofStrand, ran⟩ := first
  obtain ⟨further, alsoOfStrand, ranFurther⟩ := second
  refine ⟨moves ++ further, fun move member => ?_, ?_⟩
  · rcases List.mem_append.mp member with early | later
    · exact ofStrand move early
    · exact alsoOfStrand move later
  · rw [run_append, ran]
    exact ranFurther

end Leads

/-! ### Order -/

/-- Everything that the record tells. -/
def tale (session : Session H) : Tale H where
  submitted := session.submitted
  executed := session.executed
  performed := session.performed
  drained := session.drained
  performedLate := session.performedLate
  refused := session.isRefused

theorem tale_record {session after : Session H} {made : Made H}
    (recorded : after.past = session.past ++ [made]) : after.tale = session.tale.tell made := by
  unfold tale submitted executed performed drained performedLate inTime late isRefused
  rw [recorded]
  simp only [List.filter_append, List.flatMap_append, List.any_append, List.any_cons, List.any_nil,
    Bool.or_false]
  cases isLate : made.isLate with
  | true =>
      rw [List.filter_cons_of_neg (by simp [isLate]), List.filter_cons_of_pos isLate]
      simp [Tale.tell, isLate]
  | false =>
      rw [List.filter_cons_of_pos (by simp [isLate]), List.filter_cons_of_neg (by simp [isLate])]
      simp [Tale.tell, isLate]

/-- The invariant, of the record of a session. -/
def Serves (session : Session H) : Prop :=
  session.channel.Serves session.atWork session.tale

theorem Serves.step {session after : Session H} {move : Move H} (serves : session.Serves)
    (orderly : move.isOrderly = true) (stepped : session.step move = some after) :
    after.Serves := by
  obtain ⟨moves, recorded⟩ := moves_of_step stepped
  unfold Serves
  rw [tale_record recorded]
  exact Channel.Serves.moves serves moves (attended_of_step stepped) orderly

end Session

end EventTransport
