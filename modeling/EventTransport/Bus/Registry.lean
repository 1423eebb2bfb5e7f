import EventTransport.Bus.Lookup
import EventTransport.Event.Subscription

/-!
Contract: what is registered under the keys of subscriptions.

Owns:
- `Registry`, a list of values for each key that has one;
- `Registry.get`, `Registry.add`, `Registry.put` and `Registry.erase`.

Main statements: an operation on a key changes what is found under that key as it says, and leaves
every other key alone.
-/

namespace EventTransport

/-- Values by key, in the order in which they were added; no key is held without a value. -/
structure Registry (α : Type) where
  entries : List (Subscription × List α)

namespace Registry

variable {α : Type}

def empty : Registry α := ⟨[]⟩

instance : Inhabited (Registry α) := ⟨empty⟩

def get (registry : Registry α) (key : Subscription) : List α :=
  (registry.entries.lookup key).getD []

def contains (registry : Registry α) (key : Subscription) : Bool :=
  (registry.entries.lookup key).isSome

def keys (registry : Registry α) : List Subscription := registry.entries.map Prod.fst

def size (registry : Registry α) : Nat := registry.entries.length

/-- Entries with a value added at the end of those of its key. -/
def addTo (key : Subscription) (value : α) :
    List (Subscription × List α) → List (Subscription × List α)
  | [] => [(key, [value])]
  | entry :: rest =>
    if key = entry.1 then (key, entry.2 ++ [value]) :: rest else entry :: addTo key value rest

/-- A value added at the end of those of its key. -/
def add (registry : Registry α) (key : Subscription) (value : α) : Registry α :=
  ⟨addTo key value registry.entries⟩

def erase (registry : Registry α) (key : Subscription) : Registry α :=
  ⟨registry.entries.filter fun entry => entry.1 ≠ key⟩

/-- The values of a held key replaced; without values the key is not held any more. -/
def put (registry : Registry α) (key : Subscription) (values : List α) : Registry α :=
  if values.isEmpty then registry.erase key
  else ⟨registry.entries.map fun entry => if entry.1 = key then (key, values) else entry⟩

/-- The values of the keys that an event visits, in the order of dispatch. -/
def route (registry : Registry α) (event : Uid) : List α :=
  (Subscription.route event).flatMap registry.get

@[simp] theorem get_empty (key : Subscription) : (empty : Registry α).get key = [] := rfl

theorem lookup_addTo (key other : Subscription) (value : α)
    (entries : List (Subscription × List α)) :
    (addTo key value entries).lookup other =
      if other = key then some ((entries.lookup key).getD [] ++ [value])
      else entries.lookup other := by
  induction entries with
  | nil =>
    by_cases here : other = key
    · simp [addTo, here]
    · have apart : (other == key) = false := by simpa using here
      simp [addTo, List.lookup_cons, here, apart]
  | cons head rest inductionHypothesis =>
    obtain ⟨headKey, headValues⟩ := head
    unfold addTo
    by_cases same : key = headKey
    · subst same
      by_cases here : other = key
      · simp [here]
      · have apart : (other == key) = false := by simpa using here
        simp [List.lookup_cons, here, apart]
    · simp only [same, if_false, List.lookup_cons]
      have apart : (key == headKey) = false := by simpa using same
      by_cases front : other = headKey
      · subst front
        have different : ¬other = key := fun equal => same equal.symm
        simp [different]
      · have aside : (other == headKey) = false := by simpa using front
        simp only [aside, apart, inductionHypothesis]

/-- A value is added at the end of its own key and nowhere else. -/
theorem get_add (registry : Registry α) (key other : Subscription) (value : α) :
    (registry.add key value).get other =
      if other = key then registry.get key ++ [value] else registry.get other := by
  unfold get add
  rw [lookup_addTo]
  by_cases here : other = key <;> simp [here]

/-- A key that is not held has no values. -/
theorem get_of_not_contains {registry : Registry α} {key : Subscription}
    (absent : ¬ registry.contains key = true) : registry.get key = [] := by
  unfold contains at absent
  unfold get
  cases found : registry.entries.lookup key with
  | none => rfl
  | some values =>
      rw [found] at absent
      exact absurd rfl absent

theorem contains_of_get {registry : Registry α} {key : Subscription}
    (held : registry.get key ≠ []) : registry.contains key = true := by
  cases present : registry.contains key with
  | true => rfl
  | false => exact absurd (get_of_not_contains (by simp [present])) held

/-- A key is held once a value has been added to it, and no other one is taken up. -/
theorem contains_add (registry : Registry α) (key other : Subscription) (value : α) :
    (registry.add key value).contains other =
      (decide (other = key) || registry.contains other) := by
  unfold contains add
  rw [lookup_addTo]
  by_cases here : other = key <;> simp [here]

theorem contains_erase (registry : Registry α) (key other : Subscription) :
    (registry.erase key).contains other = (!decide (other = key) && registry.contains other) := by
  unfold contains erase
  rw [lookup_filter_ne]
  by_cases here : other = key <;> simp [here]

theorem contains_iff_mem_keys (registry : Registry α) (key : Subscription) :
    registry.contains key = true ↔ key ∈ registry.keys := by
  unfold contains keys
  rw [List.lookup_isSome_iff, List.mem_map]
  constructor
  · rintro ⟨entry, member, same⟩
    exact ⟨entry, member, (eq_of_beq same).symm⟩
  · rintro ⟨entry, member, same⟩
    exact ⟨entry, member, beq_iff_eq.mpr same.symm⟩

theorem keys_addTo (key : Subscription) (value : α) (entries : List (Subscription × List α)) :
    (addTo key value entries).map Prod.fst =
      if key ∈ entries.map Prod.fst then entries.map Prod.fst
      else entries.map Prod.fst ++ [key] := by
  induction entries with
  | nil => rfl
  | cons head rest inductionHypothesis =>
    unfold addTo
    by_cases same : key = head.1
    · simp [same]
    · simp only [same, if_false, List.map_cons, inductionHypothesis, List.mem_cons, false_or]
      split <;> simp

theorem keys_add (registry : Registry α) (key : Subscription) (value : α) :
    (registry.add key value).keys =
      if key ∈ registry.keys then registry.keys else registry.keys ++ [key] :=
  keys_addTo key value registry.entries

theorem nodup_keys_add {registry : Registry α} (distinct : registry.keys.Nodup) (key : Subscription)
    (value : α) : (registry.add key value).keys.Nodup := by
  rw [keys_add]
  split
  · exact distinct
  · rename_i fresh
    refine List.nodup_append.mpr ⟨distinct, by simp, ?_⟩
    rintro old member _ isFresh rfl
    exact fresh (List.mem_singleton.mp isFresh ▸ member)

theorem keys_erase (registry : Registry α) (key : Subscription) :
    (registry.erase key).keys = registry.keys.filter fun other => other ≠ key := by
  unfold erase keys
  rw [List.filter_map]
  rfl

theorem get_erase (registry : Registry α) (key other : Subscription) :
    (registry.erase key).get other = if other = key then [] else registry.get other := by
  unfold get erase
  rw [lookup_filter_ne]
  by_cases here : other = key <;> simp [here]

/-- Replacing the values of a held key leaves every other key alone. -/
theorem get_put {registry : Registry α} {key : Subscription} (values : List α)
    (held : registry.contains key = true) (other : Subscription) :
    (registry.put key values).get other = if other = key then values else registry.get other := by
  unfold put
  split
  · rename_i nothing
    have empty : values = [] := by simpa using nothing
    rw [get_erase, empty]
  · obtain ⟨present, found⟩ := Option.isSome_iff_exists.mp held
    unfold get
    simp only
    rw [lookup_replace]
    by_cases here : other = key <;> simp [here, found]

end Registry

end EventTransport
