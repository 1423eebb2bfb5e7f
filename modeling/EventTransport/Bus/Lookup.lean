/-!
Contract: what is found in lists, by key or by position.

Owns:
- what filtering by key and replacing the value of a key do to every lookup;
- what is found at a position of a list that has grown by an element.

The first entry of a key is the one that is found; nothing is asked about others.
-/

namespace EventTransport

variable {α β : Type}

/-- Entries filtered by their keys: what is found under a key that is kept stays the same. -/
theorem lookup_filter_fst [BEq α] [LawfulBEq α] (keep : α → Bool) (key : α)
    (entries : List (α × β)) :
    (entries.filter fun entry => keep entry.1).lookup key =
      if keep key then entries.lookup key else none := by
  induction entries with
  | nil => simp
  | cons head rest inductionHypothesis =>
      obtain ⟨headKey, headValue⟩ := head
      by_cases same : key = headKey
      · subst same
        by_cases kept : keep key = true
        · simp [List.filter_cons_of_pos, kept]
        · rw [List.filter_cons_of_neg (by simpa using kept), inductionHypothesis, if_neg kept]
          simp [kept]
      · have apart : (key == headKey) = false := by simpa using same
        by_cases kept : keep headKey = true
        · rw [List.filter_cons_of_pos (by simpa using kept)]
          simp only [List.lookup_cons, apart, inductionHypothesis]
        · rw [List.filter_cons_of_neg (by simpa using kept)]
          simp only [List.lookup_cons, apart, inductionHypothesis]

/-- The entries of one key removed. -/
theorem lookup_filter_ne [DecidableEq α] (key other : α) (entries : List (α × β)) :
    (entries.filter fun entry => entry.1 ≠ key).lookup other =
      if other = key then none else entries.lookup other := by
  rw [lookup_filter_fst (fun entryKey => decide (entryKey ≠ key)) other entries]
  by_cases here : other = key <;> simp [here]

/-- The value of one key replaced, if there is one. -/
theorem lookup_replace [DecidableEq α] (key other : α) (value : β) (entries : List (α × β)) :
    (entries.map fun entry => if entry.1 = key then (key, value) else entry).lookup other =
      if other = key then (entries.lookup key).map fun _ => value else entries.lookup other := by
  induction entries with
  | nil => simp
  | cons head rest inductionHypothesis =>
      obtain ⟨headKey, headValue⟩ := head
      by_cases same : headKey = key
      · subst same
        by_cases here : other = headKey
        · simp [here]
        · have apart : (other == headKey) = false := by simpa using here
          simp only [List.map_cons, if_true, List.lookup_cons, apart, inductionHypothesis, here,
            if_false]
      · have skip : (key == headKey) = false := by simpa using fun equal => same equal.symm
        by_cases here : other = headKey
        · subst here
          simp [same]
        · have apart : (other == headKey) = false := by simpa using here
          simp only [List.map_cons, same, if_false, List.lookup_cons, apart, skip,
            inductionHypothesis]

/-- What is found in a list that has grown by an element was there before, or is that element. -/
theorem found_or_new_of_snoc {elements : List α} {element found : α} {number : Nat}
    (there : (elements ++ [element])[number]? = some found) :
    elements[number]? = some found ∨ number = elements.length ∧ found = element := by
  rcases Nat.lt_trichotomy number elements.length with old | new | beyond
  · rw [List.getElem?_append_left old] at there
    exact .inl there
  · subst new
    exact .inr ⟨rfl, Option.some.inj (there.symm.trans List.getElem?_concat_length)⟩
  · rw [List.getElem?_eq_none (by simpa using Nat.succ_le_of_lt beyond)] at there
    cases there

end EventTransport
