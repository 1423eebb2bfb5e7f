import EventTransport.Deflate.OwnCodes
import EventTransport.Deflate.Section

/-!
Contract: sections of tokens as the blocks of a stream.

A section that stands for few bytes is written in the fixed codes, any other in codes of its own. If
that does not make it shorter, its bytes are stored, provided that they are still in the window.

Owns:
- `storedBits` and `fixedBits`, the other two kinds of blocks;
- `sectionBits`, a section as a block;
- `blocksBits`, the blocks of a stream.
-/

namespace EventTransport.Deflate

/-- From this size on a section gets codes of its own. -/
def ownCodesLeast : Nat := 48

/-- Up to this size a section is never stored. -/
def neverStored : Nat := 32

/-- How many bits are left of the byte that `offset` bits end in. -/
def padding (offset : Nat) : Nat := (8 - offset % 8) % 8

/-- Bytes as what follows the final bit of a stored block, after `offset` bits. -/
def storedBits (offset : Nat) (data : Bytes) : List Bool :=
  [false, false] ++ List.replicate (padding (offset + 2)) false ++ numberBits 16 data.length ++
    numberBits 16 (65535 - data.length) ++ data.flatMap byteBits

/-- Tokens as what follows the final bit of a block in the fixed codes. -/
def fixedBits (tokens : List Token) : List Bool :=
  [true, false] ++ tokens.flatMap (tokenBits fixedLiteralWords fixedDistanceWords) ++
    fixedLiteralWords.getD endOfBlock []

/-- A section as a block after `offset` bits, with the bytes that it stands for. -/
def sectionBits (final : Bool) (offset : Nat) (part : Section) (plain : Bytes) : List Bool :=
  let begun := offset + 1
  let packed :=
    if part.size < ownCodesLeast then fixedBits part.tokens else ownCodesBits part.tokens
  let whole := (begun + packed.length) / 8 - begun / 8
  if neverStored < part.size && part.size ≤ whole + 1 && part.size ≤ maxDistance then
    final :: storedBits begun plain
  else final :: packed

/-- Sections as blocks after `offset` bits, the last one final, with the bytes that they stand
for. -/
def blocksBits (offset : Nat) (plain : Bytes) : List Section → List Bool
  | [] => []
  | part :: later =>
    let bits := sectionBits later.isEmpty offset part (plain.take part.size)
    bits ++ blocksBits (offset + bits.length) (plain.drop part.size) later

end EventTransport.Deflate
