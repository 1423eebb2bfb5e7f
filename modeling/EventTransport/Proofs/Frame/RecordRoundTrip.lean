import EventTransport.Proofs.Frame.RecordGrammar

/-!
Contract: the properties that a body of records denotes are those it was written for.

Owns:
- which properties can be written as records, and what is written for them;
- a written body, read back.

Does not own: bodies that no writer makes.
-/

namespace EventTransport

namespace Records

theorem hasSeparator_eq_false_iff {bytes : Bytes} :
    hasSeparator bytes = false ↔ fieldSeparator ∉ bytes ∧ recordSeparator ∉ bytes := by
  unfold hasSeparator
  rw [List.any_eq_false]
  constructor
  · intro clear
    exact ⟨fun inside => by simpa using clear fieldSeparator inside,
      fun inside => by simpa using clear recordSeparator inside⟩
  · rintro ⟨noField, noRecord⟩ byte inside
    simp only [Bool.or_eq_true, decide_eq_true_eq, not_or]
    exact ⟨fun same => noField (same ▸ inside), fun same => noRecord (same ▸ inside)⟩

/-- What may stand in a written record: what may stand in one that is read, and no separator in the
value either. -/
theorem writeRecord_eq_ok_iff {key value : String} {bytes : Bytes} :
    writeRecord key value = .ok bytes ↔
      Readable (key, value) ∧ fieldSeparator ∉ Utf8.encode value ∧ bytes = record key value := by
  have parts : Readable (key, value) ∧ fieldSeparator ∉ Utf8.encode value ↔
      key ≠ "" ∧ hasSeparator (Utf8.encode key) = false ∧
        hasSeparator (Utf8.encode value) = false := by
    rw [hasSeparator_eq_false_iff, hasSeparator_eq_false_iff]
    constructor
    · rintro ⟨⟨named, keyNoField, keyNoRecord, valueNoRecord⟩, valueNoField⟩
      exact ⟨named, ⟨keyNoField, keyNoRecord⟩, valueNoField, valueNoRecord⟩
    · rintro ⟨named, ⟨keyNoField, keyNoRecord⟩, valueNoField, valueNoRecord⟩
      exact ⟨⟨named, keyNoField, keyNoRecord, valueNoRecord⟩, valueNoField⟩
  rw [← and_assoc, parts]
  unfold writeRecord
  by_cases empty : key = ""
  · simp [empty]
  · cases keyClear : hasSeparator (Utf8.encode key) <;>
      cases valueClear : hasSeparator (Utf8.encode value) <;> simp [empty, eq_comm]

/-- Entries are written exactly if each of them may be, one record behind the other. -/
theorem writeEntries_eq_ok_iff {entries : List (String × String)} {body : Bytes} :
    writeEntries entries = .ok body ↔
      Consists body entries ∧ ∀ entry ∈ entries, fieldSeparator ∉ Utf8.encode entry.2 := by
  induction entries generalizing body with
  | nil =>
      constructor
      · rintro ⟨⟩
        exact ⟨⟨rfl, fun _ none => nomatch none⟩, fun _ none => nomatch none⟩
      · rintro ⟨consists, _⟩
        rw [consists.laidOut]
        rfl
  | cons entry entries inductionHypothesis =>
      constructor
      · intro written
        unfold writeEntries at written
        split at written
        · cases written
        · rename_i front frontWritten
          split at written
          · cases written
          · rename_i back backWritten
            cases written
            obtain ⟨readable, clear, rfl⟩ := writeRecord_eq_ok_iff.mp frontWritten
            obtain ⟨consists, allClear⟩ := inductionHypothesis.mp backWritten
            refine ⟨⟨?_, ?_⟩, ?_⟩
            · rw [consists.laidOut]
              rfl
            · exact List.forall_mem_cons.mpr ⟨readable, consists.readable⟩
            · exact List.forall_mem_cons.mpr ⟨clear, allClear⟩
      · rintro ⟨consists, clear⟩
        obtain ⟨headClear, tailClear⟩ := List.forall_mem_cons.mp clear
        have front := writeRecord_eq_ok_iff.mpr
          ⟨consists.readable entry List.mem_cons_self, headClear, rfl⟩
        have back := inductionHypothesis.mpr ⟨consists.tail, tailClear⟩
        unfold writeEntries
        rw [front, back, consists.laidOut]
        rfl

end Records

/-- **The records of properties are read back as these properties.** -/
theorem readRecords_of_writeRecords {properties : Properties} {body : Bytes}
    (written : writeRecords properties = .ok body) : readRecords body = .ok properties := by
  obtain ⟨consists, _⟩ := Records.writeEntries_eq_ok_iff.mp written
  exact readRecords_eq_ok_iff.mpr
    ⟨properties.entries, consists, properties.setAll_entries.symm⟩

end EventTransport
