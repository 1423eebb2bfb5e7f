import EventTransport.Text.Keyed

/-!
Contract: the properties of an event, a finite map from texts to texts.

Owns: `Properties`, whose entries stand in the byte order of their keys, with each key once, and the
operations on them.

Main statements: each operation is what it is on finite maps, seen through `get?`.
-/

namespace EventTransport

/-- A finite map from texts to texts, in the byte order of the keys. -/
structure Properties where
  entries : List (String × String)
  sorted : Keyed.Sorted entries

namespace Properties

def empty : Properties := ⟨[], List.Pairwise.nil⟩

instance : Inhabited Properties := ⟨empty⟩

instance : DecidableEq Properties := fun left right =>
  if same : left.entries = right.entries then
    isTrue (by cases left; cases right; cases same; rfl)
  else isFalse fun equal => same (equal ▸ rfl)

def isEmpty (properties : Properties) : Bool := properties.entries.isEmpty

def get? (properties : Properties) (key : String) : Option String :=
  Keyed.get? key properties.entries

/-- The properties with `key` set to `value`. -/
def set (properties : Properties) (key value : String) : Properties :=
  ⟨Keyed.insert key value properties.entries, Keyed.sorted_insert properties.sorted⟩

/-- The properties without `key`. -/
def erase (properties : Properties) (key : String) : Properties :=
  ⟨Keyed.erase key properties.entries, Keyed.sorted_erase properties.sorted⟩

@[simp] theorem get?_empty (key : String) : empty.get? key = none := rfl

theorem get?_set (properties : Properties) (key value other : String) :
    (properties.set key value).get? other =
      if other = key then some value else properties.get? other :=
  Keyed.get?_insert

theorem get?_erase (properties : Properties) (key other : String) :
    (properties.erase key).get? other = if other = key then none else properties.get? other :=
  Keyed.get?_erase properties.sorted

/-- Properties with the same look-ups are the same. -/
theorem eq_of_get?_eq {left right : Properties} (same : ∀ key, left.get? key = right.get? key) :
    left = right := by
  have entries := Keyed.eq_of_get?_eq left.sorted right.sorted same
  cases left
  cases right
  cases entries
  rfl

end Properties

end EventTransport
