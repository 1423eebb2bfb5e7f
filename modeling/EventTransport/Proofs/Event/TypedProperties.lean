import EventTransport.Proofs.Frame.Canonicity
import EventTransport.Proofs.Number.Written

/-!
Contract: properties that are set to numbers and truth values, on the other side of the wire.

Owns:
- `WordType` and `TypedValue`, the types of whole numbers that properties are read as, and a number
  of one of them or a truth value;
- `Event.setTyped`, a property set to the text of such a value, and that it may always be framed;
- `Event.Reads`, what a property gives at the type of its value and at the others;
- that a property set last is read as it was set from the event that a frame gives back.

Does not own: fractions and characters.
-/

namespace EventTransport

open EventTransport.Number

/-! ### Values with a type -/

namespace Number

/-- The types of whole numbers that properties are set to and read as. -/
inductive WordType where
  | unsigned8
  | signed32
  | unsigned32
  | signed64
  | unsigned64
deriving DecidableEq

def WordType.range : WordType → WholeRange
  | unsigned8 => .unsigned 8
  | signed32 => .signed 32
  | unsigned32 => .unsigned 32
  | signed64 => .signed 64
  | unsigned64 => .unsigned 64

theorem WordType.contains_zero (type : WordType) : type.range.Contains 0 := by
  cases type <;> decide

/-- A value of a type that properties are set to. -/
inductive TypedValue where
  | whole (type : WordType) (number : Int) (inside : type.range.Contains number)
  | truth (value : Bool)

/-- The text that a property is set to. -/
def TypedValue.text : TypedValue → String
  | whole _ number _ => toString number
  | truth value => toString value

end Number

/-! ### Texts without separators -/

theorem Utf8.encode_eq_flatMap (text : String) :
    encode text = text.toList.flatMap String.utf8EncodeChar := by
  unfold encode
  rw [← String.utf8Encode_toList, List.utf8Encode, List.data_toByteArray]

/-- Visible ASCII characters are encoded without bytes below the blank. -/
theorem Utf8.blank_le_of_mem_encode {text : String}
    (visible : ∀ char ∈ text.toList, 0x20 ≤ char.toNat ∧ char.toNat ≤ 0x7F) {byte : UInt8}
    (inside : byte ∈ encode text) : 0x20 ≤ byte.toNat := by
  rw [encode_eq_flatMap, List.mem_flatMap] at inside
  obtain ⟨char, member, inChar⟩ := inside
  obtain ⟨above, below⟩ := visible char member
  have single : String.utf8EncodeChar char = [UInt8.ofNat char.toNat] := if_pos below
  rw [single, List.mem_singleton] at inChar
  rw [inChar, UInt8.toNat_ofNat']
  omega

namespace Number.TypedValue

theorem visible_text (value : TypedValue) :
    ∀ char ∈ value.text.toList, 0x20 ≤ char.toNat ∧ char.toNat ≤ 0x7F := by
  have ofDigits (size : Nat) :
      ∀ char ∈ Nat.toDigits 10 size, 0x20 ≤ char.toNat ∧ char.toNat ≤ 0x7F := by
    intro char inside
    have between := toNat_of_isDigit (Nat.isDigit_of_mem_toDigits (by decide) (by decide) inside)
    omega
  cases value with
  | whole type number inside =>
      show ∀ char ∈ (toString number).toList, _
      by_cases above : 0 ≤ number
      · obtain ⟨size, rfl⟩ := Int.eq_ofNat_of_zero_le above
        rw [toList_toString_natCast]
        exact ofDigits size
      · obtain ⟨size, rfl⟩ := Int.exists_eq_neg_ofNat (Int.le_of_lt (Int.not_le.mp above))
        rw [toList_toString_neg (by omega)]
        exact List.forall_mem_cons.mpr ⟨by decide, ofDigits size⟩
  | truth value =>
      have plain : ((TypedValue.truth value).text.toList.all fun char =>
          0x20 ≤ char.toNat && char.toNat ≤ 0x7F) = true := by
        cases value <;> decide
      simpa using plain

/-- No value is written with a separator. -/
theorem separator_not_mem_text (value : TypedValue) :
    ∀ separator ∈ [fieldSeparator, recordSeparator], separator ∉ Utf8.encode value.text := by
  have low : ∀ separator ∈ [fieldSeparator, recordSeparator], separator.toNat < 0x20 :=
    List.forall_mem_cons.mpr ⟨by decide, List.forall_mem_singleton.mpr (by decide)⟩
  intro separator member inside
  exact Nat.not_lt.mpr (Utf8.blank_le_of_mem_encode value.visible_text inside)
    (low separator member)

end Number.TypedValue

namespace Event

/-! ### Setting -/

/-- A property set to the text of a value. -/
def setTyped (event : Event) (key : String) (value : TypedValue) : Event :=
  event.setProperty key value.text

/-- Under a proper key a value never keeps an event from being framed. -/
theorem IsWritable.setTyped {event : Event} (writable : event.IsWritable)
    (formatted : event.isOpaque = false) {key : String} (named : key ≠ "")
    (separate : Records.hasSeparator (Utf8.encode key) = false) (value : TypedValue) :
    (event.setTyped key value).IsWritable := by
  obtain ⟨noField, noRecord⟩ := Records.hasSeparator_eq_false_iff.mp separate
  have stillFormatted : (event.setTyped key value).isOpaque = false := formatted
  unfold IsWritable at *
  rw [formatted] at writable
  rw [stillFormatted]
  refine ⟨writable.1, fun entry member => ?_⟩
  rcases Keyed.mem_insert member with rfl | old
  · refine ⟨named, fun separator isSeparator =>
      ⟨?_, value.separator_not_mem_text separator isSeparator⟩⟩
    simp only [List.mem_cons, List.not_mem_nil, or_false] at isSeparator
    rcases isSeparator with rfl | rfl
    · exact noField
    · exact noRecord
  · exact writable.2 entry old

end Event

/-! ### Changing and framing -/

/-- The key that a change of properties is about. -/
def PropertyChange.key : PropertyChange → String
  | .set key _ => key
  | .attach key _ => key
  | .remove key => key

namespace Event

/-- Changes of other properties leave a property as it is. -/
theorem property?_changed {changes : List PropertyChange} {key : String}
    (others : ∀ change ∈ changes, change.key ≠ key) (event : Event) :
    (event.changed changes).property? key = event.property? key := by
  induction changes generalizing event with
  | nil => rfl
  | cons change changes inductionHypothesis =>
      obtain ⟨other, others⟩ := List.forall_mem_cons.mp others
      have apart : ¬key = change.key := fun same => other same.symm
      refine (inductionHypothesis others (event.change change)).trans ?_
      cases change with
      | set _ value => exact (event.property?_setProperty _ value key).trans (if_neg apart)
      | attach _ value => exact (event.property?_setProperty _ value key).trans (if_neg apart)
      | remove _ => exact (event.property?_removeProperty _ key).trans (if_neg apart)

/-- What a property gives that is read at the type of its value and at the other types. -/
def Reads (event : Event) (key : String) : TypedValue → Prop
  | .whole type number _ =>
    event.propertyAs type.range.read key = some (.ok number) ∧
      ∀ other : WordType, event.propertyAs other.range.read key =
        some (if other.range.Contains number then .ok number
          else .error (other.range.refusal number))
  | .truth value => event.propertyAs readBool key = some (.ok value)

/-- A property that holds the text of a value is read as the value. -/
theorem reads_of_property? {event : Event} {key : String} {value : TypedValue}
    (holds : event.property? key = some value.text) : event.Reads key value := by
  cases value with
  | whole type number inside =>
      have readAs (other : WordType) : event.propertyAs other.range.read key =
          some (other.range.reading number) := by
        unfold propertyAs
        rw [holds, ← WholeRange.read_toString other.contains_zero]
        rfl
      refine ⟨?_, readAs⟩
      rw [readAs, WholeRange.reading, if_pos inside]
  | truth value =>
      have isRead : readBool (TypedValue.truth value).text = .ok value := readBool_eq_ok_iff.mpr rfl
      show event.propertyAs readBool key = _
      unfold propertyAs
      rw [holds, Option.map_some, isRead]

end Event

namespace Codec

/-- The frame of an uncompressed event is decoded into an event with the same properties, by any
codec that admits as much as the one that made it. -/
theorem exists_decoded_of_encode {sender receiver : Codec} {event : Event} {frame : Bytes}
    (uncompressed : event.isCompressed = false) (encoded : sender.encode event = .ok frame)
    (admits : sender.limit ≤ receiver.limit) (rest : Bytes) :
    ∃ decoded, receiver.decode (frame ++ rest) = .ok (some (decoded, frame.length)) ∧
      decoded.properties = event.properties := by
  obtain ⟨body, made, fits, -, -⟩ := exists_body_of_encode encoded
  exact ⟨_, decode_encode uncompressed made encoded (Nat.le_trans fits admits) rest, rfl⟩

end Codec

/-- **Typed properties survive the wire.** A value that is set under a proper key never keeps an
event from being framed. Whatever event holds it as the last setting of its key, and however it came
by its other properties: from the frame of the event an event is decoded that gives the value at its
own type, and at another type of whole numbers the same number if the type holds it, and a fault
otherwise. The decoded event has the same keys, and a property is read, or refused, under exactly
those. -/
theorem Event.typed_property_survives {sender receiver : Codec} {start event : Event} {key : String}
    (value : TypedValue) {changes : List PropertyChange} (named : key ≠ "")
    (separate : Records.hasSeparator (Utf8.encode key) = false)
    (others : ∀ change ∈ changes, change.key ≠ key)
    (properties : event.properties = ((start.setTyped key value).changed changes).properties)
    (uncompressed : event.isCompressed = false) {frame : Bytes}
    (encoded : sender.encode event = .ok frame) (admits : sender.limit ≤ receiver.limit)
    (rest : Bytes) :
    (start.isOpaque = false → start.IsWritable → (start.setTyped key value).IsWritable) ∧
    ∃ decoded, receiver.decode (frame ++ rest) = .ok (some (decoded, frame.length)) ∧
      decoded.Reads key value ∧
      ∀ other, decoded.hasProperty other = event.hasProperty other ∧
        ∀ {fault result : Type} (read : String → Except fault result),
          (decoded.propertyAs read other).isSome = decoded.hasProperty other := by
  refine ⟨fun formatted writable => writable.setTyped formatted named separate value, ?_⟩
  obtain ⟨decoded, isDecoded, same⟩ :=
    Codec.exists_decoded_of_encode uncompressed encoded admits rest
  have found (other : String) : decoded.property? other = event.property? other := by
    unfold property?
    rw [same]
  refine ⟨decoded, isDecoded, reads_of_property? ?_, fun other => ⟨?_, fun read => ?_⟩⟩
  · calc decoded.property? key = event.property? key := found key
      _ = ((start.setTyped key value).changed changes).property? key := by
        unfold property?
        rw [properties]
      _ = (start.setTyped key value).property? key := property?_changed others _
      _ = some value.text := (start.property?_setProperty key value.text key).trans (if_pos rfl)
  · unfold hasProperty
    rw [found]
  · exact Option.isSome_map

/-- The least number of thirty-two bits, set over a text of the same key and followed by changes of
other keys: it is a number of sixty-four bits as well, but none without a sign. -/
theorem Event.typed_property_survives_of_least :
    let start : Event := { uid := ⟨4⟩, properties := Properties.empty.set "hp" "full" }
    let least : TypedValue := .whole .signed32 (-2147483648) (by decide)
    let event := (start.setTyped "hp" least).changed [.set "name" "orc", .remove "mana"]
    let body := Records.record "hp" "-2147483648" ++ Records.record "name" "orc"
    let frame := (Codec.frameOf event body).bytes
    Codec.default.encode event = .ok frame ∧
      ∃ decoded, Codec.default.decode frame = .ok (some (decoded, frame.length)) ∧
        decoded.propertyAs WordType.signed32.range.read "hp" = some (.ok (-2147483648)) ∧
        decoded.propertyAs WordType.signed64.range.read "hp" = some (.ok (-2147483648)) ∧
        decoded.propertyAs WordType.unsigned64.range.read "hp" = some (.error .badDigit) ∧
        decoded.hasProperty "name" = true ∧ decoded.hasProperty "mana" = false := by
  intro start least event body frame
  have encoded : Codec.default.encode event = .ok frame := by decide +kernel
  obtain ⟨-, decoded, isDecoded, reads, sameKeys⟩ :=
    typed_property_survives least (by decide) (by decide +kernel) (by decide) rfl
      (by decide) encoded
      (Nat.le_refl Codec.default.limit) []
  rw [List.append_nil] at isDecoded
  obtain ⟨own, others⟩ := reads
  refine ⟨encoded, decoded, isDecoded, own, others .signed64, others .unsigned64, ?_, ?_⟩
  · exact (sameKeys "name").1.trans (by decide +kernel)
  · exact (sameKeys "mana").1.trans (by decide +kernel)

end EventTransport
