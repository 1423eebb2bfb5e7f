import EventTransport.Error

/-!
Contract: what shrinks and restores the bodies of events.

Owns:
- `Compressor`, a pair of functions;
- `Compressor.Lossless` and `Compressor.Bounded`, what a codec may ask of one.

Does not own: any particular compressor.
-/

namespace EventTransport

/-- A compressor. Restoring fails rather than give more bytes than the limit. -/
structure Compressor where
  compress : Bytes → Except CompressionFault Bytes
  decompress : Bytes → Nat → Except CompressionFault Bytes

namespace Compressor

/-- What was compressed is restored wherever the limit leaves room for it, and refused elsewhere. -/
def Lossless (compressor : Compressor) : Prop :=
  ∀ plain packed, compressor.compress plain = .ok packed →
    ∀ limit, if plain.length ≤ limit then compressor.decompress packed limit = .ok plain
      else ∃ fault, compressor.decompress packed limit = .error fault

/-- What is restored never exceeds the limit. -/
def Bounded (compressor : Compressor) : Prop :=
  ∀ packed limit plain, compressor.decompress packed limit = .ok plain → plain.length ≤ limit

end Compressor

end EventTransport
