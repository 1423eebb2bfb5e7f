import EventTransport.Error
import EventTransport.Event.Properties

/-!
Contract: property records, the body of an event with properties.

A record is a key, the field separator, a value and the record separator. The key is not empty;
neither key nor value of a written record holds a separator. A value that is read may hold the field
separator, since only the first one of a record counts.

Owns:
- `writeRecords`, properties as records in the order of their keys;
- `readRecords`, records as properties, a later record of a key replacing an earlier one.

Main statement: cutting at a separator loses nothing, and what is cut off is free of it.
-/

namespace EventTransport

def fieldSeparator : UInt8 := 0x1F

def recordSeparator : UInt8 := 0x1E

namespace Records

/-- The bytes before the first `separator` and those after it. -/
def cut? (separator : UInt8) (bytes : Bytes) : Option (Bytes × Bytes) :=
  match bytes.dropWhile (· != separator) with
  | [] => none
  | _ :: back => some (bytes.takeWhile (· != separator), back)

/-- Cutting loses only the separator, and cuts at the first one. -/
theorem cut?_eq_some_iff {separator : UInt8} {bytes front back : Bytes} :
    cut? separator bytes = some (front, back) ↔
      bytes = front ++ separator :: back ∧ separator ∉ front := by
  unfold cut?
  constructor
  · intro found
    split at found
    · cases found
    · rename_i middle tail dropped
      obtain ⟨rfl, rfl⟩ := Prod.mk.inj (Option.some.inj found)
      have stops := List.head?_dropWhile_not (· != separator) bytes
      rw [dropped] at stops
      have headIs : middle = separator := by simpa using stops
      constructor
      · rw [headIs] at dropped
        rw [← dropped, List.takeWhile_append_dropWhile]
      · intro inside
        have clear := List.all_eq_true.mp (List.all_takeWhile (p := (· != separator)))
          separator inside
        simp at clear
  · rintro ⟨rfl, clear⟩
    have pass : ∀ byte ∈ front, (byte != separator) = true := by
      intro byte inside
      simp only [bne_iff_ne, ne_eq]
      intro same
      exact clear (same ▸ inside)
    rw [List.takeWhile_append_of_pos pass, List.dropWhile_append_of_pos pass]
    simp

/-- Only bytes without the separator are not cut. -/
theorem cut?_eq_none_iff {separator : UInt8} {bytes : Bytes} :
    cut? separator bytes = none ↔ separator ∉ bytes := by
  rw [Option.eq_none_iff_forall_ne_some]
  constructor
  · intro uncut inside
    obtain ⟨front, back, rfl, clear⟩ := List.eq_append_cons_of_mem inside
    exact uncut (front, back) (cut?_eq_some_iff.mpr ⟨rfl, clear⟩)
  · rintro absent ⟨front, back⟩ found
    rw [(cut?_eq_some_iff.mp found).1] at absent
    simp at absent

/-- What stands after the first separator is shorter than the whole. -/
theorem length_of_cut? {separator : UInt8} {bytes front back : Bytes}
    (found : cut? separator bytes = some (front, back)) : back.length < bytes.length := by
  rw [(cut?_eq_some_iff.mp found).1]
  simp
  omega

/-- A record without its end, read as key and value. -/
def readRecord (record : Bytes) : Except FormatFault (String × String) :=
  match cut? fieldSeparator record with
  | none => .error .missingSeparator
  | some (keyBytes, valueBytes) =>
    match Utf8.decode? keyBytes with
    | none => .error .keyNotUtf8
    | some key =>
      match Utf8.decode? valueBytes with
      | none => .error .valueNotUtf8
      | some value => if key = "" then .error .emptyKey else .ok (key, value)

/-- Records read into properties, the last record of a key last. -/
def readInto (properties : Properties) (bytes : Bytes) : Except FormatFault Properties :=
  if bytes.isEmpty then .ok properties
  else
    match _found : cut? recordSeparator bytes with
    | none => .error .unterminatedRecord
    | some (record, rest) =>
      match readRecord record with
      | .error fault => .error fault
      | .ok (key, value) => readInto (properties.set key value) rest
termination_by bytes.length
decreasing_by exact length_of_cut? _found

/-- Whether one of the two separators occurs. -/
def hasSeparator (bytes : Bytes) : Bool :=
  bytes.any fun byte => byte = fieldSeparator || byte = recordSeparator

/-- The record of a key and a value. -/
def record (key value : String) : Bytes :=
  Utf8.encode key ++ fieldSeparator :: Utf8.encode value ++ [recordSeparator]

/-- The record of a key and a value, if they may stand in one. -/
def writeRecord (key value : String) : Except FormatFault Bytes :=
  if key = "" then .error .emptyKey
  else if hasSeparator (Utf8.encode key) || hasSeparator (Utf8.encode value) then
    .error (.separatorInProperty key)
  else .ok (record key value)

/-- The records of a list of keys and values, or the first fault among them. -/
def writeEntries : List (String × String) → Except FormatFault Bytes
  | [] => .ok []
  | entry :: rest =>
    match writeRecord entry.1 entry.2 with
    | .error fault => .error fault
    | .ok front =>
      match writeEntries rest with
      | .error fault => .error fault
      | .ok back => .ok (front ++ back)

end Records

/-- The properties that a body of records denotes. -/
def readRecords (bytes : Bytes) : Except FormatFault Properties :=
  Records.readInto Properties.empty bytes

/-- The body of records that denotes the properties. -/
def writeRecords (properties : Properties) : Except FormatFault Bytes :=
  Records.writeEntries properties.entries

end EventTransport
