import EventTransport.Frame.Records

/-!
Contract: which bodies are read as records, and as which properties.

Owns:
- `Properties.setAll`, entries set in turn, and its value on entries whose keys increase;
- `Records.Consists`, the records that a body consists of, of which there is one list only;
- that a body is read exactly if it consists of records, and then as their entries set in turn.

Does not own: what a writer makes of properties.
-/

namespace EventTransport

theorem Keyed.Before.asymm {left right : String} (before : Keyed.Before left right) :
    ¬ Keyed.Before right left := by
  intro after
  exact Keyed.Before.irrefl left (before.trans after)

instance {α : Type} (entries : List (String × α)) : Decidable (Keyed.Sorted entries) :=
  inferInstanceAs (Decidable (entries.Pairwise fun left right => Keyed.Before left.1 right.1))

/-- A key behind all others is put at the end. -/
theorem Keyed.insert_eq_append {α : Type} {key : String} {value : α}
    {entries : List (String × α)} (above : ∀ entry ∈ entries, Keyed.Before entry.1 key) :
    Keyed.insert key value entries = entries ++ [(key, value)] := by
  induction entries with
  | nil => rfl
  | cons head rest inductionHypothesis =>
      have below : Keyed.Before head.1 key := above head (List.mem_cons_self ..)
      have different : key ≠ head.1 := by
        intro same
        rw [same] at below
        exact Keyed.Before.irrefl head.1 below
      unfold Keyed.insert
      rw [if_neg different, if_neg below.asymm,
        inductionHypothesis fun entry member => above entry (List.mem_cons_of_mem head member)]
      rfl

/-! ### Entries set in turn -/

namespace Properties

/-- The properties with entries set in turn. -/
def setAll (properties : Properties) (entries : List (String × String)) : Properties :=
  entries.foldl (fun later entry => later.set entry.1 entry.2) properties

@[simp] theorem setAll_nil (properties : Properties) : properties.setAll [] = properties := rfl

@[simp] theorem setAll_cons (properties : Properties) (entry : String × String)
    (entries : List (String × String)) :
    properties.setAll (entry :: entries) = (properties.set entry.1 entry.2).setAll entries := rfl

theorem entries_setAll (properties : Properties) (entries : List (String × String)) :
    (properties.setAll entries).entries = Keyed.insertAll properties.entries entries := by
  induction entries generalizing properties with
  | nil => rfl
  | cons entry rest inductionHypothesis =>
      exact inductionHypothesis (properties.set entry.1 entry.2)

theorem mem_of_mem_setAll {properties : Properties} {entries : List (String × String)}
    {entry : String × String} (inside : entry ∈ (properties.setAll entries).entries) :
    entry ∈ properties.entries ∨ entry ∈ entries := by
  induction entries generalizing properties with
  | nil => exact .inl inside
  | cons head rest inductionHypothesis =>
      rcases inductionHypothesis inside with before | later
      · rcases Keyed.mem_insert before with same | old
        · exact .inr (same ▸ List.mem_cons_self)
        · exact .inl old
      · exact .inr (List.mem_cons_of_mem head later)

/-- Entries whose keys increase stand as they were set. -/
theorem entries_setAll_of_sorted {properties : Properties} {entries : List (String × String)}
    (sorted : Keyed.Sorted (properties.entries ++ entries)) :
    (properties.setAll entries).entries = properties.entries ++ entries := by
  induction entries generalizing properties with
  | nil => exact (List.append_nil _).symm
  | cons head rest inductionHypothesis =>
      have above : ∀ other ∈ properties.entries, Keyed.Before other.1 head.1 := by
        intro other member
        exact (List.pairwise_append.mp sorted).2.2 other member head List.mem_cons_self
      have atEnd : (properties.set head.1 head.2).entries = properties.entries ++ [head] :=
        Keyed.insert_eq_append above
      have regrouped : (properties.set head.1 head.2).entries ++ rest =
          properties.entries ++ head :: rest := by
        rw [atEnd, List.append_assoc]
        rfl
      rw [setAll_cons, inductionHypothesis (regrouped ▸ sorted), regrouped]

/-- Properties are what their own entries give. -/
theorem setAll_entries (properties : Properties) :
    empty.setAll properties.entries = properties := by
  have sorted : Keyed.Sorted (empty.entries ++ properties.entries) := properties.sorted
  have same := entries_setAll_of_sorted sorted
  cases properties
  cases rebuilt : empty.setAll _
  rw [rebuilt] at same
  cases same
  rfl

end Properties

namespace Records

/-! ### Single records -/

/-- What a record holds that is read: a key with a name and without separators, and a value that
does not end the record. -/
structure Readable (entry : String × String) : Prop where
  named : entry.1 ≠ ""
  keyNoField : fieldSeparator ∉ Utf8.encode entry.1
  keyNoRecord : recordSeparator ∉ Utf8.encode entry.1
  valueNoRecord : recordSeparator ∉ Utf8.encode entry.2

instance (entry : String × String) : Decidable (Readable entry) :=
  decidable_of_iff
    (entry.1 ≠ "" ∧ fieldSeparator ∉ Utf8.encode entry.1 ∧ recordSeparator ∉ Utf8.encode entry.1 ∧
      recordSeparator ∉ Utf8.encode entry.2)
    ⟨fun ⟨named, keyNoField, keyNoRecord, valueNoRecord⟩ =>
      ⟨named, keyNoField, keyNoRecord, valueNoRecord⟩,
    fun readable => ⟨readable.named, readable.keyNoField, readable.keyNoRecord,
      readable.valueNoRecord⟩⟩

/-- A record is cut off at its own end, and its key at its own separator. -/
theorem Readable.cut {entry : String × String} (readable : Readable entry) (rest : Bytes) :
    cut? recordSeparator (record entry.1 entry.2 ++ rest) =
        some (Utf8.encode entry.1 ++ fieldSeparator :: Utf8.encode entry.2, rest) ∧
      cut? fieldSeparator (Utf8.encode entry.1 ++ fieldSeparator :: Utf8.encode entry.2) =
        some (Utf8.encode entry.1, Utf8.encode entry.2) := by
  rw [cut?_eq_some_iff, cut?_eq_some_iff]
  refine ⟨⟨by simp [record], ?_⟩, rfl, readable.keyNoField⟩
  simp only [List.mem_append, List.mem_cons, not_or]
  exact ⟨readable.keyNoRecord, by decide, readable.valueNoRecord⟩

/-- A record without its end is read as the key and the value that stand around its
first separator. -/
theorem readRecord_eq_ok_iff {bytes : Bytes} {entry : String × String} :
    readRecord bytes = .ok entry ↔
      bytes = Utf8.encode entry.1 ++ fieldSeparator :: Utf8.encode entry.2 ∧ entry.1 ≠ "" ∧
        fieldSeparator ∉ Utf8.encode entry.1 := by
  constructor
  · intro isRead
    unfold readRecord at isRead
    split at isRead
    · cases isRead
    · rename_i keyBytes valueBytes found
      obtain ⟨whole, clear⟩ := cut?_eq_some_iff.mp found
      split at isRead
      · cases isRead
      · rename_i key keyRead
        split at isRead
        · cases isRead
        · rename_i value valueRead
          split at isRead
          · cases isRead
          · rename_i named
            cases isRead
            rw [Utf8.decode?_eq_some_iff] at keyRead valueRead
            subst keyRead valueRead
            exact ⟨whole, named, clear⟩
  · rintro ⟨rfl, named, clear⟩
    have found : cut? fieldSeparator
        (Utf8.encode entry.1 ++ fieldSeparator :: Utf8.encode entry.2) =
        some (Utf8.encode entry.1, Utf8.encode entry.2) := cut?_eq_some_iff.mpr ⟨rfl, clear⟩
    unfold readRecord
    rw [found]
    simp only [Utf8.decode?_encode, if_neg named]

/-- What is cut off and read as a key and a value is their record. -/
theorem readable_of_cut {body record rest : Bytes} {entry : String × String}
    (found : cut? recordSeparator body = some (record, rest))
    (isRead : readRecord record = .ok entry) :
    body = Records.record entry.1 entry.2 ++ rest ∧ Readable entry := by
  obtain ⟨whole, noEnd⟩ := cut?_eq_some_iff.mp found
  obtain ⟨inner, named, keyNoField⟩ := readRecord_eq_ok_iff.mp isRead
  rw [inner] at noEnd
  simp only [List.mem_append, List.mem_cons, not_or] at noEnd
  refine ⟨?_, named, keyNoField, noEnd.1, noEnd.2.2⟩
  rw [whole, inner]
  simp [Records.record]

theorem readInto_nil (properties : Properties) : readInto properties [] = .ok properties := by
  unfold readInto
  rfl

/-- A record in front of other bytes sets its key. -/
theorem readInto_record {entry : String × String} (readable : Readable entry)
    (properties : Properties) (rest : Bytes) :
    readInto properties (record entry.1 entry.2 ++ rest) =
      readInto (properties.set entry.1 entry.2) rest := by
  have notEmpty : (record entry.1 entry.2 ++ rest).isEmpty = false := by simp [record]
  have found := (readable.cut rest).1
  rw [readInto, notEmpty, if_neg (by decide)]
  split
  · rename_i unterminated
    rw [found] at unterminated
    cases unterminated
  · rename_i front back cutHere
    rw [found] at cutHere
    cases cutHere
    rw [readRecord_eq_ok_iff.mpr ⟨rfl, readable.named, readable.keyNoField⟩]

/-! ### Bodies -/

/-- Records one behind the other. -/
def layout (entries : List (String × String)) : Bytes :=
  entries.flatMap fun entry => record entry.1 entry.2

@[simp] theorem layout_nil : layout [] = [] := rfl

@[simp] theorem layout_cons (entry : String × String) (entries : List (String × String)) :
    layout (entry :: entries) = record entry.1 entry.2 ++ layout entries := rfl

/-- The records that a body consists of. -/
structure Consists (body : Bytes) (entries : List (String × String)) : Prop where
  laidOut : body = layout entries
  readable : ∀ entry ∈ entries, Readable entry

theorem Consists.tail {body : Bytes} {entry : String × String} {entries : List (String × String)}
    (consists : Consists body (entry :: entries)) : Consists (layout entries) entries :=
  ⟨rfl, fun other member => consists.readable other (List.mem_cons_of_mem entry member)⟩

/-- A body consists of one list of records only. -/
theorem Consists.unique {body : Bytes} {left right : List (String × String)}
    (isLeft : Consists body left) (isRight : Consists body right) : left = right := by
  induction left generalizing body right with
  | nil =>
      cases right with
      | nil => rfl
      | cons entry entries =>
          have impossible := isLeft.laidOut.symm.trans isRight.laidOut
          simp [record] at impossible
  | cons entry entries inductionHypothesis =>
      cases right with
      | nil =>
          have impossible := isRight.laidOut.symm.trans isLeft.laidOut
          simp [record] at impossible
      | cons other others =>
          -- Both first records end at the first end of a record, and both keys at the first
          -- separator.
          have same := isLeft.laidOut.symm.trans isRight.laidOut
          rw [layout_cons, layout_cons] at same
          have leftCut := (isLeft.readable entry List.mem_cons_self).cut (layout entries)
          have rightCut := (isRight.readable other List.mem_cons_self).cut (layout others)
          rw [← same, leftCut.1] at rightCut
          obtain ⟨inner, rests⟩ := Prod.mk.inj (Option.some.inj rightCut.1)
          rw [← inner, leftCut.2] at rightCut
          obtain ⟨keys, values⟩ := Prod.mk.inj (Option.some.inj rightCut.2)
          have heads : entry = other :=
            Prod.ext (Utf8.encode_inj.mp keys) (Utf8.encode_inj.mp values)
          rw [heads, inductionHypothesis isLeft.tail (rests ▸ isRight.tail)]

/-- A body is read exactly if it consists of records, and then as their entries set in turn. -/
theorem readInto_eq_ok_iff {properties result : Properties} {body : Bytes} :
    readInto properties body = .ok result ↔
      ∃ entries, Consists body entries ∧ result = properties.setAll entries := by
  constructor
  · intro isRead
    fun_induction readInto properties body with
    | case1 properties body empty =>
        cases isRead
        exact ⟨[], ⟨by simpa using empty, fun _ none => nomatch none⟩, rfl⟩
    | case2 => cases isRead
    | case3 => cases isRead
    | case4 properties body some record rest found key value recordRead inductionHypothesis =>
        obtain ⟨entries, consists, rfl⟩ := inductionHypothesis isRead
        obtain ⟨whole, readable⟩ := readable_of_cut found recordRead
        refine ⟨(key, value) :: entries, ⟨?_, ?_⟩, rfl⟩
        · rw [whole, consists.laidOut, layout_cons]
        · exact List.forall_mem_cons.mpr ⟨readable, consists.readable⟩
  · rintro ⟨entries, consists, rfl⟩
    rw [consists.laidOut]
    induction entries generalizing properties body with
    | nil => exact readInto_nil properties
    | cons entry entries inductionHypothesis =>
        rw [layout_cons, readInto_record (consists.readable entry List.mem_cons_self)]
        exact inductionHypothesis consists.tail

end Records

theorem readRecords_eq_ok_iff {body : Bytes} {properties : Properties} :
    readRecords body = .ok properties ↔
      ∃ entries, Records.Consists body entries ∧ properties = Properties.empty.setAll entries :=
  Records.readInto_eq_ok_iff

end EventTransport
