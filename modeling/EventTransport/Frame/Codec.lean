import EventTransport.Compressor
import EventTransport.Frame.Basic
import EventTransport.Frame.Records

/-!
Contract: events as frames.

Owns:
- `Codec`, a limit for bodies and perhaps a compressor;
- `Codec.encode`, the frame of an event, and `Codec.append`, the same onto a buffer;
- `Codec.decode`, the event at the front of a buffer with the number of bytes it takes.

An event carries either properties or a payload, as its options say; one that holds the other kind
as well is refused. The checksum covers the body as it is transmitted, after compression.

Main statements: an opened frame gives its fields and puts its body where its options say; a decoded
event takes at least fifteen bytes, all of them in the buffer.

Does not own: buffers that grow, streams.
-/

namespace EventTransport

/-- What turns events into frames and back; it holds nothing of a stream. -/
structure Codec where
  /-- The greatest size of a body, in either direction. -/
  limit : Nat
  compressor : Option Compressor

def defaultLimit : Nat := 4194304

/-- The greatest length that four bytes can announce. -/
def maxLength : Nat := 4294967295

namespace Codec

def default : Codec := ⟨defaultLimit, none⟩

/-- The body of an event before compression. -/
def plainBody (event : Event) : Except FormatFault Bytes :=
  if event.isOpaque then
    if event.properties.isEmpty then .ok event.payload else .error .propertiesBesidePayload
  else if event.payload.isEmpty then writeRecords event.properties
  else .error .payloadBesideProperties

/-- The body as it is transmitted. -/
def wireBody (codec : Codec) (event : Event) : Except Error Bytes :=
  match plainBody event with
  | .error fault => .error (.badFormat fault)
  | .ok plain =>
    if event.isCompressed then
      match codec.compressor with
      | none => .error (.badFormat .noCompressor)
      | some compressor =>
        match compressor.compress plain with
        | .error fault => .error (.compression fault)
        | .ok packed => .ok packed
    else .ok plain

/-- The frame of an event with a given body. -/
def frameOf (event : Event) (body : Bytes) : Frame :=
  ⟨event.uid.value, event.options.bits, event.feedback.code, body⟩

def encode (codec : Codec) (event : Event) : Except Error Bytes :=
  match codec.wireBody event with
  | .error error => .error error
  | .ok body =>
    if codec.limit < body.length then .error (.frameTooLarge body.length codec.limit)
    else if maxLength < body.length then .error (.frameTooLarge body.length maxLength)
    else .ok (frameOf event body).bytes

/-- The frame of an event after what a buffer holds; a refused event leaves the buffer alone. -/
def append (codec : Codec) (event : Event) (buffer : Bytes) : Except Error Unit × Bytes :=
  match codec.encode event with
  | .error error => (.error error, buffer)
  | .ok bytes => (.ok (), buffer ++ bytes)

/-- The body of a frame before compression. -/
def inflate (codec : Codec) (frame : Frame) : Except Error Bytes :=
  if Options.contains ⟨frame.options⟩ Options.compressed then
    match codec.compressor with
    | none => .error (.badFormat .noCompressor)
    | some compressor =>
      match compressor.decompress frame.body codec.limit with
      | .error fault => .error (.compression fault)
      | .ok plain => .ok plain
  else .ok frame.body

/-- The event of a frame whose body has been restored. -/
def openBody (frame : Frame) (plain : Bytes) : Except Error Event :=
  let event : Event :=
    { uid := ⟨frame.uid⟩, options := ⟨frame.options⟩, feedback := Feedback.ofCode frame.feedback,
      framing := frame.framing }
  if event.isOpaque then .ok { event with payload := plain }
  else
    match readRecords plain with
    | .error fault => .error (.badFormat fault)
    | .ok properties => .ok { event with properties := properties }

def openFrame (codec : Codec) (frame : Frame) : Except Error Event :=
  match codec.inflate frame with
  | .error error => .error error
  | .ok plain => openBody frame plain

/-- The event at the front of a buffer with the number of bytes it takes; none while the frame is
not complete. -/
def decode (codec : Codec) (buffer : Bytes) : Except Error (Option (Event × Nat)) :=
  match Frame.read codec.limit buffer with
  | .error error => .error error
  | .ok none => .ok none
  | .ok (some frame) =>
    match codec.openFrame frame with
    | .error error => .error error
    | .ok event => .ok (some (event, frame.size))

/-- Whether encoding an event calls a compressor. -/
def compresses (codec : Codec) (event : Event) : Bool :=
  event.isCompressed && codec.compressor.isSome && (plainBody event).isOk

/-- Whether decoding a buffer calls a compressor. -/
def decompresses (codec : Codec) (buffer : Bytes) : Bool :=
  match Frame.read codec.limit buffer with
  | .ok (some frame) =>
    Options.contains ⟨frame.options⟩ Options.compressed && codec.compressor.isSome
  | _ => false

def summary (codec : Codec) : String :=
  "EventCodec \x7b max_frame_size: " ++ toString codec.limit ++ ", compressor: " ++
    toString codec.compressor.isSome ++ " \x7d"

/-- What a frame gives whose body has been restored: its fields, what it says of itself, and the
body as the payload or the properties, as its options say, while the other one is empty. -/
structure Opens (frame : Frame) (plain : Bytes) (event : Event) : Prop where
  uid_eq : event.uid = ⟨frame.uid⟩
  options_eq : event.options = ⟨frame.options⟩
  feedback_eq : event.feedback = Feedback.ofCode frame.feedback
  framing_eq : event.framing = frame.framing
  bodies : if event.isOpaque then event.payload = plain ∧ event.properties = Properties.empty
    else event.payload = [] ∧ readRecords plain = .ok event.properties

theorem opens_of_openBody {frame : Frame} {plain : Bytes} {event : Event}
    (opened : openBody frame plain = .ok event) : Opens frame plain event := by
  unfold openBody at opened
  simp only at opened
  split at opened
  · rename_i isOpaque
    cases opened
    refine ⟨rfl, rfl, rfl, rfl, ?_⟩
    rw [if_pos]
    · exact ⟨rfl, rfl⟩
    · exact isOpaque
  · rename_i formatted
    split at opened
    · cases opened
    · rename_i properties isRead
      cases opened
      refine ⟨rfl, rfl, rfl, rfl, ?_⟩
      rw [if_neg]
      · exact ⟨rfl, isRead⟩
      · exact formatted

theorem exists_opens_of_openFrame {codec : Codec} {frame : Frame} {event : Event}
    (opened : codec.openFrame frame = .ok event) :
    ∃ plain, codec.inflate frame = .ok plain ∧ Opens frame plain event := by
  unfold openFrame at opened
  split at opened
  · cases opened
  · rename_i plain inflated
    exact ⟨plain, inflated, opens_of_openBody opened⟩

/-- A decoded event comes from a frame at the front of the buffer. -/
theorem exists_frame_of_decode {codec : Codec} {buffer : Bytes} {event : Event} {taken : Nat}
    (decoded : codec.decode buffer = .ok (some (event, taken))) :
    ∃ frame, Frame.read codec.limit buffer = .ok (some frame) ∧
      codec.openFrame frame = .ok event ∧ taken = frame.size := by
  unfold decode at decoded
  split at decoded
  · cases decoded
  · cases decoded
  · rename_i frame found
    split at decoded
    · cases decoded
    · rename_i opened isOpened
      cases decoded
      exact ⟨frame, found, isOpened, rfl⟩

theorem fifteen_le_of_decode {codec : Codec} {buffer : Bytes} {event : Event} {taken : Nat}
    (decoded : codec.decode buffer = .ok (some (event, taken))) : 15 ≤ taken := by
  obtain ⟨frame, _, _, rfl⟩ := exists_frame_of_decode decoded
  exact frame.headerLength_add_trailerLength_le_size

/-- A decoded event takes no more bytes than there are. -/
theorem taken_le_of_decode {codec : Codec} {buffer : Bytes} {event : Event} {taken : Nat}
    (decoded : codec.decode buffer = .ok (some (event, taken))) : taken ≤ buffer.length := by
  obtain ⟨frame, found, _, rfl⟩ := exists_frame_of_decode decoded
  exact Frame.size_le_of_read found

end Codec

end EventTransport
