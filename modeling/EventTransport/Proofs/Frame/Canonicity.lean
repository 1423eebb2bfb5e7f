import EventTransport.Proofs.Frame.Acceptance

/-!
Contract: an event has one form on the wire, and shares it with no other event.

Owns:
- `PropertyChange` and `Event.changed`, a history of the properties of an event;
- that only the outcome of such a history counts for the frame;
- that frames are the same exactly if what they were made from is.

Does not own: frames whose body went through a compressor, of which two may be the same by chance.
-/

namespace EventTransport

/-- Statuses in the form in which bytes are read have a byte each. -/
theorem Feedback.code_inj_of_isNormal {left right : Feedback} (leftNormal : left.IsNormal)
    (rightNormal : right.IsNormal) : left.code = right.code ↔ left = right := by
  constructor
  · intro same
    calc left = ofCode left.code := (normalized_eq_self_iff.mpr leftNormal).symm
      _ = ofCode right.code := by rw [same]
      _ = right := normalized_eq_self_iff.mpr rightNormal
  · intro same
    rw [same]

/-- A change of the properties of an event, in place or on the way to a new value. -/
inductive PropertyChange where
  | set (key value : String)
  | attach (key value : String)
  | remove (key : String)

namespace Event

def change (event : Event) : PropertyChange → Event
  | .set key value => event.setProperty key value
  | .attach key value => event.withProperty key value
  | .remove key => event.removeProperty key

/-- The event after some changes of its properties in turn. -/
def changed (event : Event) (changes : List PropertyChange) : Event := changes.foldl change event

/-- The event without its properties and without what its frame said. -/
def frameless (event : Event) : Event := { event.content with properties := Properties.empty }

theorem frameless_change (event : Event) (change : PropertyChange) :
    (event.change change).frameless = event.frameless := by
  cases change <;> rfl

/-- Changes of properties leave the rest of an event alone. -/
theorem frameless_changed (event : Event) (changes : List PropertyChange) :
    (event.changed changes).frameless = event.frameless := by
  induction changes generalizing event with
  | nil => rfl
  | cons change changes inductionHypothesis =>
      exact (inductionHypothesis (event.change change)).trans (frameless_change event change)

/-- The contents of events are the same exactly if the properties and the rest are. -/
theorem content_eq_iff {left right : Event} :
    left.content = right.content ↔
      left.frameless = right.frameless ∧ left.properties = right.properties := by
  cases left
  cases right
  simp only [content, frameless, mk.injEq]
  tauto

/-- An event is known by what is found under each key and by the rest of it. -/
theorem content_eq_of_property?_eq {left right : Event} (rest : left.frameless = right.frameless)
    (same : ∀ key, left.property? key = right.property? key) : left.content = right.content :=
  content_eq_iff.mpr ⟨rest, Properties.eq_of_get?_eq same⟩

/-- The entries of an event with properties are those of its records. -/
theorem IsWritable.consists {event : Event} (writable : event.IsWritable)
    (formatted : event.isOpaque = false) :
    Records.Consists event.plain event.properties.entries := by
  unfold IsWritable at writable
  unfold plain
  rw [formatted] at writable ⊢
  have written := Records.writeEntries_eq_ok_iff_separate.mpr ⟨writable.2, rfl⟩
  exact (Records.writeEntries_eq_ok_iff.mp written).1

/-- A plain body tells the properties and the payload, once it is known which of them it holds. -/
theorem plain_inj {left right : Event} (leftWritable : left.IsWritable)
    (rightWritable : right.IsWritable) (options : left.options = right.options) :
    left.plain = right.plain ↔
      left.properties = right.properties ∧ left.payload = right.payload := by
  have sameKind : left.isOpaque = right.isOpaque := by
    unfold isOpaque
    rw [options]
  have ofEntries (entries : left.properties.entries = right.properties.entries) :
      left.properties = right.properties := by
    apply Properties.eq_of_get?_eq
    intro key
    unfold Properties.get?
    rw [entries]
  cases formatted : left.isOpaque with
  | true =>
      -- There are no properties on either side, and the body is the payload.
      have alsoOpaque : right.isOpaque = true := sameKind ▸ formatted
      unfold IsWritable at leftWritable rightWritable
      rw [if_pos formatted] at leftWritable
      rw [if_pos alsoOpaque] at rightWritable
      unfold plain
      rw [if_pos formatted, if_pos alsoOpaque]
      exact ⟨fun same => ⟨ofEntries (leftWritable.trans rightWritable.symm), same⟩, And.right⟩
  | false =>
      -- There is no payload on either side, and the body consists of the records of the properties.
      have alsoFormatted : right.isOpaque = false := sameKind ▸ formatted
      have leftConsists := leftWritable.consists formatted
      have rightConsists := rightWritable.consists alsoFormatted
      unfold IsWritable at leftWritable rightWritable
      rw [formatted] at leftWritable
      rw [alsoFormatted] at rightWritable
      constructor
      · intro same
        rw [same] at leftConsists
        exact ⟨ofEntries (leftConsists.unique rightConsists),
          leftWritable.1.trans rightWritable.1.symm⟩
      · rintro ⟨properties, -⟩
        rw [leftConsists.laidOut, rightConsists.laidOut, properties]

end Event

namespace Codec

variable {left right : Event} {leftFrame rightFrame : Bytes}

/-- What a frame said of itself does not count when the event is framed again. -/
theorem encode_content (codec : Codec) (event : Event) :
    codec.encode event.content = codec.encode event := rfl

theorem encode_eq_of_content_eq (codec : Codec) (same : left.content = right.content) :
    codec.encode left = codec.encode right := by
  rw [← encode_content codec left, same, encode_content]

/-- The frames of uncompressed events are the same exactly if their three bytes, their properties
and their payloads are, whatever codecs accepted them. -/
theorem frame_eq_iff {leftCodec rightCodec : Codec} (leftUncompressed : left.isCompressed = false)
    (rightUncompressed : right.isCompressed = false)
    (leftEncoded : leftCodec.encode left = .ok leftFrame)
    (rightEncoded : rightCodec.encode right = .ok rightFrame) :
    leftFrame = rightFrame ↔
      left.uid = right.uid ∧ left.options = right.options ∧
        left.feedback.code = right.feedback.code ∧ left.properties = right.properties ∧
        left.payload = right.payload := by
  obtain ⟨leftWritable, leftBody, leftPacks, leftWithin, rfl⟩ := encode_eq_ok_iff.mp leftEncoded
  obtain ⟨rightWritable, rightBody, rightPacks, rightWithin, rfl⟩ :=
    encode_eq_ok_iff.mp rightEncoded
  unfold Packs at leftPacks rightPacks
  rw [leftUncompressed] at leftPacks
  rw [rightUncompressed] at rightPacks
  rw [if_neg (by decide)] at leftPacks rightPacks
  have leftAnnounced := (Nat.le_min.mp leftWithin).2
  have rightAnnounced := (Nat.le_min.mp rightWithin).2
  rw [Frame.bytes_inj leftAnnounced rightAnnounced, frameOf, frameOf, Frame.mk.injEq, leftPacks,
    rightPacks]
  constructor
  · rintro ⟨uid, options, feedback, body⟩
    have sameOptions : left.options = right.options := congrArg Options.mk options
    exact ⟨congrArg Uid.mk uid, sameOptions, feedback,
      (Event.plain_inj leftWritable rightWritable sameOptions).mp body⟩
  · rintro ⟨uid, options, feedback, carried⟩
    exact ⟨congrArg _ uid, congrArg _ options, feedback,
      (Event.plain_inj leftWritable rightWritable options).mpr carried⟩

/-- **The form of an event on the wire is canonical.** Events whose rest is the same are framed
alike after any changes of their properties that come to the same look-ups. Two uncompressed events
that are accepted have the same frame exactly if they have the same identifier, options, properties
and payload and statuses with the same byte; so, statuses that give the number of a named code
apart, exactly if they are equal as values. -/
theorem encodes_canonically (codec other : Codec) (left right : Event) :
    (∀ leftChanges rightChanges, left.frameless = right.frameless →
      (∀ key, (left.changed leftChanges).property? key =
        (right.changed rightChanges).property? key) →
      codec.encode (left.changed leftChanges) = codec.encode (right.changed rightChanges)) ∧
    ∀ leftFrame rightFrame, left.isCompressed = false → right.isCompressed = false →
      codec.encode left = .ok leftFrame → other.encode right = .ok rightFrame →
      (leftFrame = rightFrame ↔
        left.uid = right.uid ∧ left.options = right.options ∧
          left.feedback.code = right.feedback.code ∧ left.properties = right.properties ∧
          left.payload = right.payload) ∧
      (left.feedback.IsNormal → right.feedback.IsNormal →
        (leftFrame = rightFrame ↔ (left == right) = true)) := by
  constructor
  · intro leftChanges rightChanges rest same
    apply encode_eq_of_content_eq
    apply Event.content_eq_of_property?_eq
    · rw [Event.frameless_changed, Event.frameless_changed, rest]
    · exact same
  · intro leftFrame rightFrame leftUncompressed rightUncompressed leftEncoded rightEncoded
    have parts := frame_eq_iff leftUncompressed rightUncompressed leftEncoded rightEncoded
    refine ⟨parts, fun leftNormal rightNormal => ?_⟩
    rw [parts, Feedback.code_inj_of_isNormal leftNormal rightNormal, Event.beq_iff]
    unfold Event.content
    simp only [Event.mk.injEq, and_true]

/-- Two histories with overwritten and removed properties, from different beginnings; a status that
gives the number of a named code, which the frame does not tell from that code; and a key and a
value whose letters are the same one behind the other. -/
theorem encodes_canonically_of_histories :
    let left : Event := { uid := ⟨7⟩, feedback := .other 2 }
    let right : Event :=
      { left with properties := Properties.empty.set "z" "0", framing := ⟨1, 2, 3⟩ }
    let leftChanges : List PropertyChange :=
      [.set "b" "x", .attach "a" "1", .set "b" "2", .set "c" "", .remove "c"]
    let rightChanges : List PropertyChange :=
      [.remove "z", .attach "b" "2", .set "a" "0", .set "a" "1"]
    let named : Event := { left with feedback := .error }
    let early : Event := named.withProperty "a" "bc"
    let late : Event := named.withProperty "ab" "c"
    default.encode (left.changed leftChanges) = default.encode (right.changed rightChanges) ∧
      (frameOf left []).bytes = (frameOf named []).bytes ∧ (left == named) = false ∧
      (frameOf early (Records.record "a" "bc")).bytes ≠
        (frameOf late (Records.record "ab" "c")).bytes := by
  intro left right leftChanges rightChanges named early late
  refine ⟨?_, ?_, rfl, ?_⟩
  · have same : (left.changed leftChanges).properties =
      (right.changed rightChanges).properties := by
      decide +kernel
    apply (encodes_canonically default default left right).1 leftChanges rightChanges rfl
    intro key
    unfold Event.property?
    rw [same]
  · have leftEncoded : default.encode left = .ok (frameOf left []).bytes := by decide +kernel
    have namedEncoded : default.encode named = .ok (frameOf named []).bytes := by decide +kernel
    have frames := (encodes_canonically default default left named).2 _ _ (by decide) (by decide)
      leftEncoded namedEncoded
    exact frames.1.mpr ⟨rfl, rfl, rfl, rfl, rfl⟩
  · have earlyEncoded : default.encode early =
        .ok (frameOf early (Records.record "a" "bc")).bytes := by decide +kernel
    have lateEncoded : default.encode late =
        .ok (frameOf late (Records.record "ab" "c")).bytes := by decide +kernel
    have frames := (encodes_canonically default default early late).2 _ _ (by decide) (by decide)
      earlyEncoded lateEncoded
    rw [Ne, frames.2 trivial trivial]
    decide +kernel

end Codec

end EventTransport
