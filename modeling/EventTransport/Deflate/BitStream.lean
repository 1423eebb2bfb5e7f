import EventTransport.Bytes.Basic

/-!
Contract: bits read from and packed into bytes, the lowest bit of a byte first.

Owns:
- `BitStream`, the bits of a byte string that have not been read;
- `BitStream.next?`, `BitStream.number?` and `BitStream.aligned`;
- `packBits`, bits as bytes, filled up with zeros.

Does not own: what the bits mean.
-/

namespace EventTransport.Deflate

/-- The bits of a byte, lowest first. -/
def byteBits (byte : UInt8) : List Bool :=
  let value := byte.toNat
  [value.testBit 0, value.testBit 1, value.testBit 2, value.testBit 3, value.testBit 4,
    value.testBit 5, value.testBit 6, value.testBit 7]

/-- Bits not yet read: those of a byte that has been begun, then whole bytes. -/
structure BitStream where
  begun : List Bool
  bytes : Bytes

namespace BitStream

def ofBytes (bytes : Bytes) : BitStream := ⟨[], bytes⟩

def size (stream : BitStream) : Nat := stream.begun.length + 8 * stream.bytes.length

/-- The first bit and the bits after it. -/
def next? (stream : BitStream) : Option (Bool × BitStream) :=
  match stream.begun with
  | bit :: begun => some (bit, ⟨begun, stream.bytes⟩)
  | [] =>
    match stream.bytes with
    | [] => none
    | byte :: bytes =>
      match byteBits byte with
      | [] => none
      | bit :: begun => some (bit, ⟨begun, bytes⟩)

@[simp] theorem length_byteBits (byte : UInt8) : (byteBits byte).length = 8 := rfl

/-- Taking a bit leaves no more than there was. -/
theorem size_le_of_next? {stream rest : BitStream} {bit : Bool}
    (taken : stream.next? = some (bit, rest)) : rest.size ≤ stream.size := by
  obtain ⟨begun, bytes⟩ := stream
  unfold next? at taken
  cases begun with
  | cons first begun =>
    cases taken
    simp only [size, List.length_cons]
    omega
  | nil =>
    cases bytes with
    | nil => cases taken
    | cons byte bytes =>
      have eight := length_byteBits byte
      simp only at taken
      split at taken
      · cases taken
      · rename_i first begun bits
        cases taken
        rw [bits] at eight
        simp only [List.length_cons] at eight
        simp only [size, List.length_cons, List.length_nil]
        omega

/-- The number of the first `count` bits, the first one counting least. -/
def number? : Nat → BitStream → Option (Nat × BitStream)
  | 0, stream => some (0, stream)
  | count + 1, stream =>
    match stream.next? with
    | none => none
    | some (bit, rest) =>
      match number? count rest with
      | none => none
      | some (higher, after) => some (bit.toNat + 2 * higher, after)

/-- The bytes after the byte that has been begun. -/
def aligned (stream : BitStream) : Bytes := stream.bytes

end BitStream

/-- The number of bits, the first one counting least. -/
def bitsValue : List Bool → Nat
  | [] => 0
  | bit :: rest => bit.toNat + 2 * bitsValue rest

/-- The lowest `count` bits of a number, lowest first. -/
def numberBits : Nat → Nat → List Bool
  | 0, _ => []
  | count + 1, value => (value % 2 == 1) :: numberBits count (value / 2)

/-- Bits packed into bytes after those already packed, which stand in reverse. -/
def packOnto (packed : Bytes) : List Bool → Bytes
  | b0 :: b1 :: b2 :: b3 :: b4 :: b5 :: b6 :: b7 :: rest =>
    packOnto (UInt8.ofNat (bitsValue [b0, b1, b2, b3, b4, b5, b6, b7]) :: packed) rest
  | [] => packed.reverse
  | rest => (UInt8.ofNat (bitsValue rest) :: packed).reverse

/-- Bits packed into bytes, the last byte filled up with zeros. -/
def packBits (bits : List Bool) : Bytes := packOnto [] bits

end EventTransport.Deflate
