/-!
Contract: sets of code points given by the ranges that they consist of.

Owns:
- `RangeTable`, ranges of code points with their ends included, in ascending order;
- `RangeTable.contains`, whether a code point is in one of them.

Main statement: in an ascending table a code point is found exactly if a range has it.

Does not own: any particular table.
-/

namespace EventTransport.Text

/-- Ranges of code points, ends included, in ascending order. -/
abbrev RangeTable := Array (Nat × Nat)

namespace RangeTable

/-- Whether each range begins after the ranges before it have ended. -/
def Ascending (ranges : List (Nat × Nat)) : Prop :=
  ranges.Pairwise fun earlier later => earlier.2 < later.1

/-- Whether the first range that does not end before a code point has it. -/
def contains (table : RangeTable) (code : Nat) : Bool :=
  match table.find? fun range => code ≤ range.2 with
  | none => false
  | some range => range.1 ≤ code

/-- In an ascending table a code point is found exactly if a range has it. -/
theorem contains_iff {table : RangeTable} {code : Nat} (ascending : Ascending table.toList) :
    table.contains code = true ↔ ∃ range ∈ table.toList, range.1 ≤ code ∧ code ≤ range.2 := by
  unfold contains
  rw [← Array.find?_toList]
  generalize table.toList = ranges at ascending
  induction ranges with
  | nil => simp
  | cons first later inductionHypothesis =>
    obtain ⟨after, rest⟩ := List.pairwise_cons.1 ascending
    by_cases reached : code ≤ first.2
    · rw [List.find?_cons_of_pos (by simpa using reached)]
      simp only [decide_eq_true_eq, List.mem_cons]
      constructor
      · exact fun begun => ⟨first, .inl rfl, begun, reached⟩
      · rintro ⟨range, rfl | isLater, begun, _⟩
        · exact begun
        · have := after range isLater
          omega
    · rw [List.find?_cons_of_neg (by simpa using reached), inductionHypothesis rest]
      constructor
      · rintro ⟨range, isLater, bounds⟩
        exact ⟨range, List.mem_cons_of_mem _ isLater, bounds⟩
      · rintro ⟨range, member, begun, reaches⟩
        obtain rfl | isLater := List.mem_cons.1 member
        · exact absurd reaches reached
        · exact ⟨range, isLater, begun, reaches⟩

end RangeTable

end EventTransport.Text
