import EventTransport.Json.Value

/-!
Contract: JSON as it stands in a text.

Owns:
- `Json.Document`, in which the members of an object stand as they were written, those with a key
  that comes again included;
- `Json.Document.value`, the value that is denoted;
- `Json.Gathered`, the members of an object beside what was written.

Main statement: what is written of an object is gathered in the order of keys, each key with what
was written for it last.
-/

namespace EventTransport.Json

inductive Document where
  | null
  | bool (value : Bool)
  | number (value : Number)
  | text (value : String)
  | array (items : List Document)
  | object (members : List (String × Document))

mutual

/-- What a document denotes. Of the members of an object with the same key the last one counts. -/
def Document.value : Document → Value
  | .null => .null
  | .bool value => .bool value
  | .number value => .number value
  | .text value => .text value
  | .array items => .array (itemValues items)
  | .object members => .object (Keyed.insertAll [] (memberValues members))

def itemValues : List Document → List Value
  | [] => []
  | item :: rest => item.value :: itemValues rest

def memberValues : List (String × Document) → List (String × Value)
  | [] => []
  | member :: rest => (member.1, member.2.value) :: memberValues rest

end

theorem itemValues_eq_map (items : List Document) :
    itemValues items = items.map Document.value := by
  induction items with
  | nil => rfl
  | cons item rest inductionHypothesis =>
    rw [itemValues, inductionHypothesis, List.map_cons]

theorem memberValues_eq_map (members : List (String × Document)) :
    memberValues members = members.map fun member => (member.1, member.2.value) := by
  induction members with
  | nil => rfl
  | cons member rest inductionHypothesis =>
    rw [memberValues, inductionHypothesis, List.map_cons]

theorem lastOf?_memberValues (key : String) (members : List (String × Document)) :
    Keyed.lastOf? key (memberValues members) = (Keyed.lastOf? key members).map Document.value := by
  unfold Keyed.lastOf?
  rw [memberValues_eq_map, List.filter_map, List.getLast?_map, Option.map_map, Option.map_map]
  rfl

/-- The members of an object as they count: in the order of their keys, each key with what was
written for it last. -/
structure Gathered (written : List (String × Document)) (members : List (String × Value)) :
    Prop where
  sorted : Keyed.Sorted members
  get?_eq : ∀ key, Keyed.get? key members = (Keyed.lastOf? key written).map Document.value

theorem Document.exists_gathered (written : List (String × Document)) :
    ∃ members, (object written).value = .object members ∧ Gathered written members := by
  refine ⟨_, rfl, Keyed.sorted_insertAll List.Pairwise.nil _, fun key => ?_⟩
  rw [Keyed.get?_insertAll, lastOf?_memberValues]
  exact Option.or_none

end EventTransport.Json
