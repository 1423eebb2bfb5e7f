import EventTransport.Frame.Codec
import EventTransport.Proofs.Frame.RecordGrammar

/-!
Contract: what a body of records is read as, and why any other body is refused.

Owns:
- `Records.lastValue?`, which record of a key counts;
- `Records.Refused`, the reason for which the front of a body is no record;
- that reading accepts the bodies that consist of records and no others, and names the first fault.

Does not own: the grammar of records.
-/

namespace EventTransport

/-- A frame whose body is to hold records is refused for what is wrong with them. -/
theorem Codec.openBody_of_fault {frame : Frame} {body : Bytes} {fault : FormatFault}
    (formatted : Options.contains ⟨frame.options⟩ Options.noFormat = false)
    (refused : readRecords body = .error fault) :
    openBody frame body = .error (.badFormat fault) := by
  unfold openBody
  simp only [Event.isOpaque, formatted, refused, Bool.false_eq_true, if_false]

namespace Records

/-- The value of the last record of a key. -/
def lastValue? (key : String) (entries : List (String × String)) : Option String :=
  (entries.reverse.find? fun entry => entry.1 = key).map Prod.snd

theorem lastValue?_eq_lastOf? (key : String) (entries : List (String × String)) :
    lastValue? key entries = Keyed.lastOf? key entries := by
  unfold lastValue? Keyed.lastOf?
  rw [← List.head?_filter, List.filter_reverse, List.head?_reverse]

/-- A key that is set again loses what it was set to before, and no other key does. -/
theorem get?_setAll (properties : Properties) (entries : List (String × String)) (key : String) :
    (properties.setAll entries).get? key = (lastValue? key entries).or (properties.get? key) := by
  unfold Properties.get?
  rw [Properties.entries_setAll, lastValue?_eq_lastOf?]
  exact Keyed.get?_insertAll key properties.entries entries

/-- A record has three bytes at least: a key is not empty, and there are two separators. -/
theorem Consists.three_mul_length_le {body : Bytes} {entries : List (String × String)}
    (consists : Consists body entries) : 3 * entries.length ≤ body.length := by
  induction entries generalizing body with
  | nil => exact Nat.zero_le _
  | cons entry entries inductionHypothesis =>
      have later := inductionHypothesis consists.tail
      have named : (Utf8.encode entry.1).length ≠ 0 := by
        intro none
        apply (consists.readable entry List.mem_cons_self).named
        exact Utf8.encode_inj.mp (List.length_eq_zero_iff.mp none)
      rw [consists.laidOut, layout_cons]
      simp only [record, List.length_append, List.length_cons, List.length_nil]
      omega

/-! ### Refusals -/

/-- Bytes that are the encoding of a text. -/
def IsText (bytes : Bytes) : Prop := ∃ text, Utf8.encode text = bytes

theorem decode?_eq_none_iff {bytes : Bytes} : Utf8.decode? bytes = none ↔ ¬ IsText bytes := by
  rw [Option.eq_none_iff_forall_ne_some, IsText, not_exists]
  constructor
  · intro unread text isText
    exact unread text (Utf8.decode?_eq_some_iff.mpr isText.symm)
  · intro notText text isRead
    exact notText text (Utf8.encode_of_decode? isRead)

/-- Why bytes without the end of a record are no key and value. -/
inductive Misread : Bytes → FormatFault → Prop where
  | missingSeparator {bytes : Bytes} (noField : fieldSeparator ∉ bytes) :
    Misread bytes .missingSeparator
  | keyNotUtf8 {key value : Bytes} (noField : fieldSeparator ∉ key) (notText : ¬ IsText key) :
    Misread (key ++ fieldSeparator :: value) .keyNotUtf8
  | valueNotUtf8 {key value : Bytes} (noField : fieldSeparator ∉ key) (isText : IsText key)
    (notText : ¬ IsText value) : Misread (key ++ fieldSeparator :: value) .valueNotUtf8
  | emptyKey {value : Bytes} (isText : IsText value) : Misread (fieldSeparator :: value) .emptyKey

/-- Why there is no record at the front of bytes. -/
inductive Refused : Bytes → FormatFault → Prop where
  | unterminated {bytes : Bytes} (some : bytes ≠ []) (noEnd : recordSeparator ∉ bytes) :
    Refused bytes .unterminatedRecord
  | misread {bytes rest : Bytes} {fault : FormatFault} (noEnd : recordSeparator ∉ bytes)
    (misread : Misread bytes fault) : Refused (bytes ++ recordSeparator :: rest) fault

theorem readRecord_eq_error_iff {bytes : Bytes} {fault : FormatFault} :
    readRecord bytes = .error fault ↔ Misread bytes fault := by
  constructor
  · intro refused
    unfold readRecord at refused
    split at refused
    · rename_i uncut
      cases refused
      exact .missingSeparator (cut?_eq_none_iff.mp uncut)
    · rename_i key value found
      obtain ⟨rfl, noField⟩ := cut?_eq_some_iff.mp found
      split at refused
      · rename_i notText
        cases refused
        exact .keyNotUtf8 noField (decode?_eq_none_iff.mp notText)
      · rename_i keyText keyRead
        have isText : IsText key := ⟨keyText, Utf8.encode_of_decode? keyRead⟩
        split at refused
        · rename_i notText
          cases refused
          exact .valueNotUtf8 noField isText (decode?_eq_none_iff.mp notText)
        · rename_i valueText valueRead
          split at refused
          · rename_i unnamed
            cases refused
            rw [Utf8.decode?_eq_some_iff, unnamed] at keyRead
            rw [keyRead]
            exact .emptyKey ⟨valueText, Utf8.encode_of_decode? valueRead⟩
          · cases refused
  · intro misread
    have cutAt {key value : Bytes} (noField : fieldSeparator ∉ key) :
        cut? fieldSeparator (key ++ fieldSeparator :: value) = some (key, value) :=
      cut?_eq_some_iff.mpr ⟨rfl, noField⟩
    unfold readRecord
    cases misread with
    | missingSeparator noField => rw [cut?_eq_none_iff.mpr noField]
    | keyNotUtf8 noField notText => simp only [cutAt noField, decode?_eq_none_iff.mpr notText]
    | valueNotUtf8 noField isText notText =>
        obtain ⟨text, rfl⟩ := isText
        simp only [cutAt noField, Utf8.decode?_encode, decode?_eq_none_iff.mpr notText]
    | @emptyKey value isText =>
        obtain ⟨text, rfl⟩ := isText
        have found : cut? fieldSeparator (fieldSeparator :: Utf8.encode text) =
            some (Utf8.encode "", Utf8.encode text) := cutAt List.not_mem_nil
        simp only [found, Utf8.decode?_encode, if_true]

/-- Bytes that do not begin with a record are refused for this. -/
theorem readInto_of_refused {body : Bytes} {fault : FormatFault} (refused : Refused body fault)
    (properties : Properties) : readInto properties body = .error fault := by
  unfold readInto
  cases refused with
  | unterminated some noEnd =>
      rw [if_neg (by simpa using some)]
      split
      · rfl
      · rename_i record rest found
        rw [cut?_eq_none_iff.mpr noEnd] at found
        cases found
  | @misread bytes rest _ noEnd misread =>
      have found : cut? recordSeparator (bytes ++ recordSeparator :: rest) = some (bytes, rest) :=
        cut?_eq_some_iff.mpr ⟨rfl, noEnd⟩
      rw [if_neg (by simp)]
      split
      · rename_i uncut
        rw [found] at uncut
        cases uncut
      · rename_i front back cutHere
        rw [found] at cutHere
        cases cutHere
        rw [readRecord_eq_error_iff.mpr misread]

/-- A body is refused exactly if something stands behind its first records that does not begin with
one, and then for that. -/
theorem readInto_eq_error_iff {properties : Properties} {body : Bytes} {fault : FormatFault} :
    readInto properties body = .error fault ↔
      ∃ entries rest, body = layout entries ++ rest ∧ (∀ entry ∈ entries, Readable entry) ∧
        Refused rest fault := by
  constructor
  · intro refused
    fun_induction readInto properties body with
    | case1 => cases refused
    | case2 properties body some uncut =>
        cases refused
        have unterminated : Refused body .unterminatedRecord :=
          .unterminated (by simpa using some) (cut?_eq_none_iff.mp uncut)
        exact ⟨[], body, rfl, by simp, unterminated⟩
    | case3 properties body some record rest found fault' misread =>
        cases refused
        obtain ⟨rfl, noEnd⟩ := cut?_eq_some_iff.mp found
        exact ⟨[], _, rfl, by simp, .misread noEnd (readRecord_eq_error_iff.mp misread)⟩
    | case4 properties body some record rest found key value recordRead inductionHypothesis =>
        obtain ⟨entries, behind, rfl, readable, refusal⟩ := inductionHypothesis refused
        have isRecord := readable_of_cut found recordRead
        refine ⟨(key, value) :: entries, behind, ?_, ?_, refusal⟩
        · rw [isRecord.1, layout_cons, List.append_assoc]
        · exact List.forall_mem_cons.mpr ⟨isRecord.2, readable⟩
  · rintro ⟨entries, rest, rfl, readable, refused⟩
    induction entries generalizing properties with
    | nil => exact readInto_of_refused refused properties
    | cons entry entries inductionHypothesis =>
        obtain ⟨here, later⟩ := List.forall_mem_cons.mp readable
        rw [layout_cons, List.append_assoc, readInto_record here]
        exact inductionHypothesis later

/-- **Reading accepts the bodies that consist of records, and no others.** A body is cut into
records in one way only; each key then has the value of its last record, and there are no other
keys. What is no such body begins with records, behind which something stands that does not begin
with one, and it is refused for this, as malformed. -/
theorem reads_exactly_records (body : Bytes) :
    ((∃ properties, readRecords body = .ok properties) ↔ ∃ entries, Consists body entries) ∧
    (∀ entries, Consists body entries →
      (∀ others, Consists body others → others = entries) ∧ 3 * entries.length ≤ body.length ∧
      ∃ properties, readRecords body = .ok properties ∧
        ∀ key, properties.get? key = lastValue? key entries) ∧
    ((¬ ∃ entries, Consists body entries) →
      ∃ fault entries rest, readRecords body = .error fault ∧
        (∀ frame : Frame, Options.contains ⟨frame.options⟩ Options.noFormat = false →
          Codec.openBody frame body = .error (.badFormat fault)) ∧
        body = layout entries ++ rest ∧ (∀ entry ∈ entries, Readable entry) ∧
        Refused rest fault) := by
  have accepts : (∃ properties, readRecords body = .ok properties) ↔
      ∃ entries, Consists body entries := by
    constructor
    · rintro ⟨properties, isRead⟩
      obtain ⟨entries, consists, _⟩ := readRecords_eq_ok_iff.mp isRead
      exact ⟨entries, consists⟩
    · rintro ⟨entries, consists⟩
      exact ⟨_, readRecords_eq_ok_iff.mpr ⟨entries, consists, rfl⟩⟩
  refine ⟨accepts, ?_, ?_⟩
  · intro entries consists
    refine ⟨fun others again => again.unique consists, consists.three_mul_length_le, ?_⟩
    refine ⟨_, readRecords_eq_ok_iff.mpr ⟨entries, consists, rfl⟩, fun key => ?_⟩
    rw [get?_setAll, Properties.get?_empty, Option.or_none]
  · intro noRecords
    cases isRead : readRecords body with
    | ok properties => exact absurd (accepts.mp ⟨properties, isRead⟩) noRecords
    | error fault =>
        obtain ⟨entries, rest, laidOut, readable, refused⟩ := readInto_eq_error_iff.mp isRead
        refine ⟨fault, entries, rest, rfl, ?_, laidOut, readable, refused⟩
        intro frame formatted
        exact Codec.openBody_of_fault formatted isRead

end Records

end EventTransport
