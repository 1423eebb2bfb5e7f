import EventTransport.Json.Reader

/-!
Contract: the order in which the members of objects are written.

Owns:
- `Json.Document.Rearranged`, documents that differ in nothing but that order;
- that the value of a document depends on the order of members with the same key only.

Does not own: reading text.
-/

namespace EventTransport.Json

theorem itemValues_append (front back : List Document) :
    itemValues (front ++ back) = itemValues front ++ itemValues back := by
  simp only [itemValues_eq_map, List.map_append]

theorem memberValues_append (front back : List (String × Document)) :
    memberValues (front ++ back) = memberValues front ++ memberValues back := by
  simp only [memberValues_eq_map, List.map_append]

namespace Document

/-- Documents that become the same when the members of objects, at any depth, are put into another
order. Which orders count as another order of a list of members is left open. -/
inductive Rearranged (reorders : List (String × Document) → List (String × Document) → Prop) :
    Document → Document → Prop
  | refl (document : Document) : Rearranged reorders document document
  | trans {first second third : Document} : Rearranged reorders first second →
      Rearranged reorders second third → Rearranged reorders first third
  | object {members others : List (String × Document)} : reorders members others →
      Rearranged reorders (.object members) (.object others)
  | member {inner other : Document} (front : List (String × Document)) (key : String)
      (back : List (String × Document)) : Rearranged reorders inner other →
      Rearranged reorders (.object (front ++ (key, inner) :: back))
        (.object (front ++ (key, other) :: back))
  | item {inner other : Document} (front back : List Document) : Rearranged reorders inner other →
      Rearranged reorders (.array (front ++ inner :: back)) (.array (front ++ other :: back))

/-- Another order in which the members with one key stand as they stood before, whatever the key. -/
def ReordersApart (members others : List (String × Document)) : Prop :=
  ∀ key, (members.filter fun member => member.1 = key) = others.filter fun member => member.1 = key

/-- Neighbours with different keys may change places. -/
theorem ReordersApart.swap {left right : String × Document} (different : left.1 ≠ right.1)
    (front back : List (String × Document)) :
    ReordersApart (front ++ left :: right :: back) (front ++ right :: left :: back) := by
  intro key
  rw [List.filter_append, List.filter_append]
  by_cases isLeft : left.1 = key
  · have notRight : ¬right.1 = key := fun isRight => different (isLeft.trans isRight.symm)
    simp [isLeft, notRight]
  · simp [isLeft, List.filter_cons]

/-- As long as no member changes places with one of the same key, the value stays the same. -/
theorem Rearranged.value_eq {left right : Document}
    (rearranged : Rearranged ReordersApart left right) :
    left.value = right.value := by
  induction rearranged with
  | refl document => rfl
  | trans _ _ front back => exact front.trans back
  | object apart =>
      refine congrArg Value.object (Keyed.insertAll_congr fun key => ?_)
      rw [lastOf?_memberValues, lastOf?_memberValues]
      unfold Keyed.lastOf?
      rw [apart key]
  | member front key back _ same =>
      simp only [value, memberValues_append, memberValues, same]
  | item front back _ same =>
      simp only [value, itemValues_append, itemValues, same]

end Document

end EventTransport.Json
