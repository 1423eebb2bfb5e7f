import EventTransport.Text.Utf8

/-!
Contract: finite maps from texts, held as lists in the byte order of their keys.

Owns:
- `Keyed.Sorted`, the representation invariant: keys strictly increase by their UTF-8 bytes;
- `Keyed.insert`, `Keyed.erase` and `Keyed.get?`;
- `Keyed.insertAll`, entries inserted in turn, and `Keyed.lastOf?`, what the last of them binds a
  key to.

Main statements: insertion and removal keep the order, and a look-up after them gives what a finite
map gives; two sorted lists with the same look-ups are the same list; only of entries with the same
key it matters in which order they are inserted.
-/

namespace EventTransport.Keyed

/-- Strict order of texts by their UTF-8 bytes. -/
def Before (left right : String) : Prop := Utf8.encode left < Utf8.encode right

instance (left right : String) : Decidable (Before left right) :=
  inferInstanceAs (Decidable (Utf8.encode left < Utf8.encode right))

theorem Before.trans {first second third : String} (front : Before first second)
    (back : Before second third) : Before first third :=
  List.lt_trans front back

theorem Before.irrefl (text : String) : ¬Before text text :=
  List.lt_irrefl _

/-- Of two different texts one stands before the other. -/
theorem before_of_not {left right : String} (different : left ≠ right)
    (notBefore : ¬Before left right) : Before right left := by
  apply Decidable.byContradiction
  intro notAfter
  exact different (Utf8.encode_inj.mp
    (List.le_antisymm (List.not_lt.mp notAfter) (List.not_lt.mp notBefore)))

variable {α : Type}

/-- The keys increase strictly from front to back. -/
def Sorted (entries : List (String × α)) : Prop :=
  entries.Pairwise fun left right => Before left.1 right.1

/-- The entries with `key` bound to `value`, in its place by the order of keys. -/
def insert (key : String) (value : α) : List (String × α) → List (String × α)
  | [] => [(key, value)]
  | entry :: rest =>
    if key = entry.1 then (key, value) :: rest
    else if Before key entry.1 then (key, value) :: entry :: rest
    else entry :: insert key value rest

/-- The entries without `key`. -/
def erase (key : String) : List (String × α) → List (String × α)
  | [] => []
  | entry :: rest => if key = entry.1 then rest else entry :: erase key rest

/-- What `key` is bound to. -/
def get? (key : String) : List (String × α) → Option α
  | [] => none
  | entry :: rest => if key = entry.1 then some entry.2 else get? key rest

/-- Entries inserted in turn after others: of those with the same key the last one counts. -/
def insertAll (held entries : List (String × α)) : List (String × α) :=
  entries.foldl (fun later entry => insert entry.1 entry.2 later) held

/-- What `key` is bound to by the last of the entries that bind it. -/
def lastOf? (key : String) (entries : List (String × α)) : Option α :=
  (entries.filter fun entry => entry.1 = key).getLast?.map Prod.snd

theorem mem_insert {key : String} {value : α} {entries : List (String × α)} {entry : String × α}
    (inside : entry ∈ insert key value entries) : entry = (key, value) ∨ entry ∈ entries := by
  induction entries with
  | nil => simpa [insert] using inside
  | cons head rest inductionHypothesis =>
    unfold insert at inside
    split at inside
    · rcases List.mem_cons.mp inside with same | deep
      · exact .inl same
      · exact .inr (List.mem_cons_of_mem _ deep)
    · split at inside
      · rcases List.mem_cons.mp inside with same | deep
        · exact .inl same
        · exact .inr deep
      · rcases List.mem_cons.mp inside with same | deep
        · exact .inr (same ▸ List.mem_cons_self ..)
        · rcases inductionHypothesis deep with same | deeper
          · exact .inl same
          · exact .inr (List.mem_cons_of_mem _ deeper)

theorem mem_of_mem_erase {key : String} {entries : List (String × α)} {entry : String × α}
    (inside : entry ∈ erase key entries) : entry ∈ entries := by
  induction entries with
  | nil => cases inside
  | cons head rest inductionHypothesis =>
    unfold erase at inside
    split at inside
    · exact List.mem_cons_of_mem _ inside
    · rcases List.mem_cons.mp inside with same | deep
      · exact same ▸ List.mem_cons_self ..
      · exact List.mem_cons_of_mem _ (inductionHypothesis deep)

theorem sorted_insert {key : String} {value : α} {entries : List (String × α)}
    (sorted : Sorted entries) : Sorted (insert key value entries) := by
  induction entries with
  | nil => exact List.pairwise_singleton _ _
  | cons head rest inductionHypothesis =>
    obtain ⟨above, sortedRest⟩ := List.pairwise_cons.mp sorted
    unfold insert
    split
    · rename_i same
      exact List.pairwise_cons.mpr ⟨fun entry inside => same ▸ above entry inside, sortedRest⟩
    · rename_i different
      split
      · rename_i less
        refine List.pairwise_cons.mpr ⟨fun entry inside => ?_, sorted⟩
        rcases List.mem_cons.mp inside with same | deep
        · exact same ▸ less
        · exact less.trans (above entry deep)
      · rename_i notLess
        refine List.pairwise_cons.mpr ⟨fun entry inside => ?_, inductionHypothesis sortedRest⟩
        rcases mem_insert inside with same | deep
        · exact same ▸ before_of_not different notLess
        · exact above entry deep

theorem sorted_erase {key : String} {entries : List (String × α)} (sorted : Sorted entries) :
    Sorted (erase key entries) := by
  induction entries with
  | nil => exact sorted
  | cons head rest inductionHypothesis =>
    obtain ⟨above, sortedRest⟩ := List.pairwise_cons.mp sorted
    unfold erase
    split
    · exact sortedRest
    · exact List.pairwise_cons.mpr
        ⟨fun entry inside => above entry (mem_of_mem_erase inside), inductionHypothesis sortedRest⟩

/-- After an insertion the inserted key gives the inserted value, any other key what it gave. -/
theorem get?_insert {key other : String} {value : α} {entries : List (String × α)} :
    get? other (insert key value entries) = if other = key then some value
      else get? other entries := by
  induction entries with
  | nil => simp [insert, get?]
  | cons head rest inductionHypothesis =>
    unfold insert
    split
    · rename_i same
      by_cases here : other = key
      · simp [get?, here]
      · simp [get?, here, ← same]
    · rename_i different
      split
      · simp [get?]
      · by_cases here : other = head.1
        · have apart : ¬other = key := fun same => different (same.symm.trans here)
          simp only [get?, here, if_true]
          rw [← here, if_neg apart]
        · simp [get?, here, inductionHypothesis]

theorem get?_eq_none_of_before {key : String} {entries : List (String × α)}
    (above : ∀ entry ∈ entries, Before key entry.1) : get? key entries = none := by
  induction entries with
  | nil => rfl
  | cons head rest inductionHypothesis =>
    have apart : ¬key = head.1 := fun same =>
      Before.irrefl head.1 (same ▸ above head (List.mem_cons_self ..))
    simp only [get?, apart, if_false]
    exact inductionHypothesis fun entry inside => above entry (List.mem_cons_of_mem _ inside)

/-- After a removal the removed key gives nothing, any other key what it gave. -/
theorem get?_erase {key other : String} {entries : List (String × α)} (sorted : Sorted entries) :
    get? other (erase key entries) = if other = key then none else get? other entries := by
  induction entries with
  | nil => simp [erase, get?]
  | cons head rest inductionHypothesis =>
    obtain ⟨above, sortedRest⟩ := List.pairwise_cons.mp sorted
    unfold erase
    split
    · rename_i same
      by_cases here : other = key
      · simp only [here, if_true]
        exact get?_eq_none_of_before fun entry inside => same ▸ above entry inside
      · simp [get?, here, ← same]
    · rename_i different
      by_cases here : other = head.1
      · have apart : ¬other = key := fun same => different (same.symm.trans here)
        simp only [get?, here, if_true]
        rw [← here, if_neg apart]
      · simp [get?, here, inductionHypothesis sortedRest]

/-- What stands before the first key of a sorted list stands before all of them. -/
theorem before_of_before_head {key : String} {head : String × α} {rest : List (String × α)}
    (sorted : Sorted (head :: rest)) (before : Before key head.1) :
    ∀ entry ∈ head :: rest, Before key entry.1 := by
  intro entry inside
  rcases List.mem_cons.mp inside with same | deep
  · exact same ▸ before
  · exact before.trans ((List.pairwise_cons.mp sorted).1 entry deep)

/-- Sorted lists with the same look-ups begin with the same key. -/
theorem head_eq_of_get?_eq {left right : String × α} {leftRest rightRest : List (String × α)}
    (leftSorted : Sorted (left :: leftRest)) (rightSorted : Sorted (right :: rightRest))
    (same : ∀ key, get? key (left :: leftRest) = get? key (right :: rightRest)) :
    left.1 = right.1 := by
  apply Decidable.byContradiction
  intro different
  have leftFound : get? left.1 (left :: leftRest) = some left.2 := if_pos rfl
  have rightFound : get? right.1 (right :: rightRest) = some right.2 := if_pos rfl
  by_cases before : Before left.1 right.1
  · have absent := get?_eq_none_of_before (before_of_before_head rightSorted before)
    rw [← same, leftFound] at absent
    cases absent
  · have after := before_of_not different before
    have absent := get?_eq_none_of_before (before_of_before_head leftSorted after)
    rw [same, rightFound] at absent
    cases absent

/-- Sorted lists with the same look-ups are the same list. -/
theorem eq_of_get?_eq {left right : List (String × α)} (leftSorted : Sorted left)
    (rightSorted : Sorted right) (same : ∀ key, get? key left = get? key right) : left = right := by
  induction left generalizing right with
  | nil =>
    cases right with
    | nil => rfl
    | cons head rest =>
      have impossible := same head.1
      simp [get?] at impossible
  | cons head rest inductionHypothesis =>
    cases right with
    | nil =>
      have impossible := same head.1
      simp [get?] at impossible
    | cons other others =>
      have sameKey := head_eq_of_get?_eq leftSorted rightSorted same
      obtain ⟨above, sortedRest⟩ := List.pairwise_cons.mp leftSorted
      obtain ⟨otherAbove, sortedOthers⟩ := List.pairwise_cons.mp rightSorted
      have sameValue : head.2 = other.2 := by
        have found := same head.1
        simpa [get?, ← sameKey] using found
      have sameRest : rest = others := by
        apply inductionHypothesis sortedRest sortedOthers
        intro key
        by_cases first : key = head.1
        · rw [first, get?_eq_none_of_before above, sameKey, get?_eq_none_of_before otherAbove]
        · have found := same key
          simpa [get?, first, ← sameKey] using found
      rw [Prod.ext sameKey sameValue, sameRest]

theorem sorted_insertAll {held : List (String × α)} (sorted : Sorted held)
    (entries : List (String × α)) : Sorted (insertAll held entries) := by
  induction entries generalizing held with
  | nil => exact sorted
  | cons entry rest inductionHypothesis => exact inductionHypothesis (sorted_insert sorted)

theorem lastOf?_cons (key : String) (entry : String × α) (rest : List (String × α)) :
    lastOf? key (entry :: rest) =
      (lastOf? key rest).or (if entry.1 = key then some entry.2 else none) := by
  unfold lastOf?
  by_cases here : entry.1 = key
  · rw [List.filter_cons_of_pos (by simpa using here), List.getLast?_cons, if_pos here]
    cases (rest.filter fun entry => entry.1 = key).getLast? <;> rfl
  · rw [List.filter_cons_of_neg (by simpa using here), if_neg here, Option.or_none]

/-- After insertions in turn a key gives what it was bound to last. -/
theorem get?_insertAll (key : String) (held entries : List (String × α)) :
    get? key (insertAll held entries) = (lastOf? key entries).or (get? key held) := by
  induction entries generalizing held with
  | nil => rfl
  | cons entry rest inductionHypothesis =>
    refine (inductionHypothesis (insert entry.1 entry.2 held)).trans ?_
    rw [get?_insert, lastOf?_cons, Option.or_assoc]
    by_cases here : entry.1 = key
    · rw [if_pos here, if_pos here.symm, Option.some_or]
    · rw [if_neg here, if_neg fun same => here same.symm, Option.none_or]

/-- Only of entries with the same key it matters in which order they are inserted. -/
theorem insertAll_congr {left right : List (String × α)}
    (same : ∀ key, lastOf? key left = lastOf? key right) :
    insertAll [] left = insertAll [] right := by
  apply eq_of_get?_eq (sorted_insertAll List.Pairwise.nil left)
    (sorted_insertAll List.Pairwise.nil right)
  intro key
  rw [get?_insertAll, get?_insertAll, same]

end EventTransport.Keyed
