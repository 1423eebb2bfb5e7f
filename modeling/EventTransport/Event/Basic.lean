import EventTransport.Event.Uid
import EventTransport.Event.Options
import EventTransport.Event.Feedback
import EventTransport.Event.Properties
import EventTransport.Text.Escaped

/-!
Contract: events, what a frame carries and what buses route.

Owns:
- `Event`, a plain value with either properties or a payload in use;
- `Event.content`, the part of an event that counts for equality;
- the operations on single events, and the text of an event.

Does not own: frames, dispatch.
-/

namespace EventTransport

/-- What the last decoded frame said of itself; zero for an event that was not decoded. -/
structure Framing where
  /-- Size of the body on the wire. -/
  length : Nat := 0
  /-- Checksum of the body on the wire. -/
  checksum : Nat := 0
  rawSize : Nat := 0
deriving DecidableEq, Inhabited

/-- A unit of communication. -/
structure Event where
  uid : Uid
  options : Options := Options.empty
  feedback : Feedback := .unassigned
  properties : Properties := Properties.empty
  payload : Bytes := []
  framing : Framing := {}
deriving DecidableEq, Inhabited

namespace Event

/-- An unassigned, empty event. -/
def blank : Event := { uid := Uid.unassigned }

/-- The event without what its frame said. -/
def content (event : Event) : Event := { event with framing := {} }

/-- Events are equal as values if they differ at most in what their frames said. -/
instance : BEq Event where
  beq left right :=
    left.uid == right.uid && left.options == right.options && left.feedback == right.feedback &&
      left.properties.entries == right.properties.entries && left.payload == right.payload

def setProperty (event : Event) (key value : String) : Event :=
  { event with properties := event.properties.set key value }

def removeProperty (event : Event) (key : String) : Event :=
  { event with properties := event.properties.erase key }

/-- The event with a further property. -/
def withProperty (event : Event) (key value : String) : Event := event.setProperty key value

def property? (event : Event) (key : String) : Option String := event.properties.get? key

def hasProperty (event : Event) (key : String) : Bool := (event.property? key).isSome

/-- A property read by a reader of values; none if there is no such property. -/
def propertyAs {fault value : Type} (event : Event) (read : String → Except fault value)
    (key : String) : Option (Except fault value) :=
  (event.property? key).map read

/-- The event as a carrier of opaque bytes. -/
def withPayload (event : Event) (payload : Bytes) : Event :=
  { event with payload := payload, options := event.options.insert Options.noFormat }

/-- The event with further option bits. -/
def withOptions (event : Event) (options : Options) : Event :=
  { event with options := event.options.insert options }

/-- The event without some option bits. -/
def withoutOptions (event : Event) (options : Options) : Event :=
  { event with options := event.options.remove options }

def withFeedback (event : Event) (feedback : Feedback) : Event :=
  { event with feedback := feedback }

/-- Whether the event is meant for local consumers only. -/
def isLocal (event : Event) : Bool := event.options.contains Options.isLocal

/-- Whether the body is an opaque payload. -/
def isOpaque (event : Event) : Bool := event.options.contains Options.noFormat

/-- Whether the body goes through the compressor. -/
def isCompressed (event : Event) : Bool := event.options.contains Options.compressed

/-- The part of the text after the header: the size of a payload, or the properties with their
values between quotes. -/
def bodyText (event : Event) : String :=
  if event.isOpaque then " payload=" ++ toString event.payload.length ++ "B"
  else
    String.join
      (event.properties.entries.map fun entry =>
        " " ++ entry.1 ++ "=" ++ Text.Escaping.quoted entry.2)

def text (event : Event) : String :=
  "Event[uid=" ++ event.uid.text ++ " options=" ++ event.options.text ++ " feedback=" ++
    event.feedback.text ++ " length=" ++ toString event.framing.length ++ " rawsize=" ++
    toString event.framing.rawSize ++ "]" ++ event.bodyText

/-- Events are equal as values exactly if their contents are the same. -/
theorem beq_iff {left right : Event} : (left == right) = true ↔ left.content = right.content := by
  obtain ⟨leftUid, leftOptions, leftFeedback, ⟨leftEntries, _⟩, leftPayload, leftFraming⟩ := left
  obtain ⟨rightUid, rightOptions, rightFeedback, ⟨rightEntries, _⟩, rightPayload, _⟩ := right
  show (leftUid == rightUid && leftOptions == rightOptions && leftFeedback == rightFeedback &&
    leftEntries == rightEntries && leftPayload == rightPayload) = true ↔ _
  simp [content, and_assoc]

/-- A set property is what is found under its key. -/
theorem property?_setProperty (event : Event) (key value other : String) :
    (event.setProperty key value).property? other =
      if other = key then some value else event.property? other :=
  event.properties.get?_set key value other

/-- A removed property is not found; every other one is found as before. -/
theorem property?_removeProperty (event : Event) (key other : String) :
    (event.removeProperty key).property? other =
      if other = key then none else event.property? other :=
  event.properties.get?_erase key other

end Event

end EventTransport
