import EventTransport.Bytes.Basic

/-!
Contract: text as its UTF-8 bytes.

Owns:
- `Utf8.encode`, the bytes of a text;
- `Utf8.decode?`, the text of bytes that are valid UTF-8.

Main statements: decoding gives back each encoded text, and only bytes that encode the decoded
text are accepted, so the two are inverse to each other.
-/

namespace EventTransport.Utf8

def encode (text : String) : Bytes :=
  text.toByteArray.data.toList

/-- The text that bytes encode, if they are valid UTF-8. -/
def decode? (bytes : Bytes) : Option String :=
  String.fromUTF8? ⟨bytes.toArray⟩

theorem encode_inj {left right : String} : encode left = encode right ↔ left = right := by
  constructor
  · intro same
    apply String.toByteArray_inj.mp
    apply ByteArray.ext
    exact Array.toList_inj.mp same
  · intro same
    rw [same]

/-- Each text is read back from its own bytes. -/
@[simp] theorem decode?_encode (text : String) : decode? (encode text) = some text := by
  have whole : (⟨(encode text).toArray⟩ : ByteArray) = text.toByteArray := by
    apply ByteArray.ext
    simp [encode]
  simp only [decode?, whole, String.fromUTF8?, text.isValidUTF8, dif_pos]
  rfl

/-- Accepted bytes are the bytes of the text they are read as. -/
theorem encode_of_decode? {bytes : Bytes} {text : String} (read : decode? bytes = some text) :
    encode text = bytes := by
  unfold decode? String.fromUTF8? at read
  split at read
  · cases read
    simp [encode, String.fromUTF8]
  · cases read

/-- Decoding accepts exactly the bytes of the text it gives. -/
theorem decode?_eq_some_iff {bytes : Bytes} {text : String} :
    decode? bytes = some text ↔ bytes = encode text :=
  ⟨fun read => (encode_of_decode? read).symm, fun same => by rw [same, decode?_encode]⟩

end EventTransport.Utf8
