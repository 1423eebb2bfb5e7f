import EventTransport.Bytes.Crc32
import EventTransport.Error
import EventTransport.Event.Basic

/-!
Contract: frames on a byte stream.

A frame is the identifier, the option byte and the status byte of an event, the length of the body
in four bytes, the body, the checksum of the body in four bytes, and the footer CR LF CR LF. The end
of a frame is found by its length alone, so a body may hold the footer.

Owns:
- `Frame`, the fields and the body;
- `Frame.bytes`, a frame on the wire;
- `Frame.read`, the frame at the front of a buffer, and `Frame.announcedSize?`, its size.

Main statement: a frame that is read occupies the number of bytes that its length announces.

Does not own: what a body means.
-/

namespace EventTransport

def headerLength : Nat := 7

def checksumLength : Nat := 4

def footer : Bytes := [0x0D, 0x0A, 0x0D, 0x0A]

def trailerLength : Nat := 8

/-- The header fields and the body of a frame. -/
structure Frame where
  uid : UInt8
  options : UInt8
  feedback : UInt8
  body : Bytes
deriving DecidableEq

namespace Frame

def size (frame : Frame) : Nat := headerLength + frame.body.length + trailerLength

def bytes (frame : Frame) : Bytes :=
  frame.uid :: frame.options :: frame.feedback ::
    (Bytes.word frame.body.length ++ (frame.body ++
      (Bytes.word (crc32 frame.body).toNat ++ footer)))

/-- What the frame says of itself. -/
def framing (frame : Frame) : Framing :=
  ⟨frame.body.length, (crc32 frame.body).toNat, frame.size⟩

/-- The trailer of a body: footer first, then the checksum. -/
def checkTrailer (body : Bytes) : Bytes → Except Error Unit
  | first :: second :: third :: fourth :: ending =>
    if ending ≠ footer then .error (.badFormat .misplacedFooter)
    else
      let carried := UInt32.ofNat (Bytes.wordValue first second third fourth)
      if carried ≠ crc32 body then .error (.integrityViolation carried (crc32 body)) else .ok ()
  | _ => .error (.badFormat .misplacedFooter)

/-- The frame at the front of a buffer, or none while it is not complete. A body above the limit is
refused as soon as its length is known. -/
def read (limit : Nat) : Bytes → Except Error (Option Frame)
  | uid :: options :: feedback :: first :: second :: third :: fourth :: rest =>
    let length := Bytes.wordValue first second third fourth
    if limit < length then .error (.frameTooLarge length limit)
    else if rest.length < length + trailerLength then .ok none
    else
      let body := rest.take length
      match checkTrailer body ((rest.drop length).take trailerLength) with
      | .error error => .error error
      | .ok () => .ok (some ⟨uid, options, feedback, body⟩)
  | _ => .ok none

/-- The size of the frame at the front of a buffer, once its header is there. -/
def announcedSize? : Bytes → Option Nat
  | _ :: _ :: _ :: first :: second :: third :: fourth :: _ =>
    some (headerLength + Bytes.wordValue first second third fourth + trailerLength)
  | _ => none

theorem headerLength_add_trailerLength_le_size (frame : Frame) :
    headerLength + trailerLength ≤ frame.size := by
  unfold size
  omega

theorem announcedSize?_of_read {limit : Nat} {buffer : Bytes} {frame : Frame}
    (found : read limit buffer = .ok (some frame)) : announcedSize? buffer = some frame.size := by
  unfold read at found
  split at found
  · simp only at found
    split at found
    · cases found
    · split at found
      · cases found
      · split at found
        · cases found
        · cases found
          simp only [announcedSize?, size, List.length_take, Option.some.injEq]
          omega
  · cases found

theorem size_le_of_read {limit : Nat} {buffer : Bytes} {frame : Frame}
    (found : read limit buffer = .ok (some frame)) : frame.size ≤ buffer.length := by
  unfold read at found
  split at found
  · simp only at found
    split at found
    · cases found
    · split at found
      · cases found
      · split at found
        · cases found
        · cases found
          simp only [size, headerLength, List.length_cons, List.length_take]
          omega
  · cases found

end Frame

end EventTransport
