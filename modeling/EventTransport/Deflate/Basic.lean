import EventTransport.Deflate.Blocks
import EventTransport.Deflate.ChainSearch
import EventTransport.Deflate.Coder
import EventTransport.Deflate.Inflate

/-!
Contract: raw deflate streams as a compressor.

Owns:
- `storedStream`, data in stored blocks;
- `packedStream`, data in blocks of the tokens that a level finds;
- `Deflate.coder`, which stores at level zero and packs at all others;
- `Compressor.deflate`, the compressor of a level.

Does not own: what holds of every coder.
-/

namespace EventTransport

namespace Deflate

/-- The size of a stored block; only the last one is smaller. -/
def storedSize : Nat := 31745

def storedBlock (final : Bool) (data : Bytes) : Bytes :=
  let size := data.length
  let check := 65535 - size
  UInt8.ofNat final.toNat :: UInt8.ofNat size :: UInt8.ofNat (size / 256) :: UInt8.ofNat check ::
    UInt8.ofNat (check / 256) :: data

/-- Data in stored blocks, of which `blocks` are full, the last one final. -/
def storedBlocks : Nat → Bytes → Bytes
  | 0, data => storedBlock true data
  | blocks + 1, data =>
    storedBlock false (data.take storedSize) ++ storedBlocks blocks (data.drop storedSize)

def storedStream (data : Bytes) : Bytes := storedBlocks (data.length / storedSize) data

/-- How a level from two on looks for matches; the levels up to three take them at once. -/
def Effort.ofLevel : Nat → Effort
  | 0 | 1 | 2 => { tries := 2, triesAfterGood := 1, isEager := true }
  | 3 => { tries := 11, triesAfterGood := 3, isEager := true }
  | 4 => { tries := 6, triesAfterGood := 2, isEager := false }
  | 5 => { tries := 11, triesAfterGood := 3, isEager := false }
  | 6 => { tries := 43, triesAfterGood := 11, isEager := false }
  | 7 => { tries := 86, triesAfterGood := 22, isEager := false }
  | 8 => { tries := 171, triesAfterGood := 43, isEager := false }
  | _ => { tries := 256, triesAfterGood := 64, isEager := false }

/-- Data as the tokens that a level finds. -/
def movesAt (level : Nat) (data : Array UInt8) : List Move :=
  if level ≤ 1 then quickMoves data else chainMoves (Effort.ofLevel level) data

/-- Data in blocks of the tokens that a level from one on finds. -/
def packedStream (level : Nat) (data : Bytes) : Bytes :=
  packBits (blocksBits 0 data (sections (1 < level) (movesAt level data.toArray)))

/-- Data as a stream; level zero stores it. -/
def deflate (level : Nat) (data : Bytes) : Bytes :=
  if level = 0 then storedStream data else packedStream level data

/-- The coder that writes these streams. -/
def coder : StreamCoder where
  encode level data := .ok (deflate level data)
  decode := decoder

/-- The data of a stream, if it ends well and is not longer than the limit. -/
def inflate (packed : Bytes) (limit : Nat) : Except CompressionFault Bytes :=
  coder.inflate packed limit

end Deflate

/-- The level of a compressor that was not given one. -/
def defaultLevel : Nat := 1

/-- Deflate streams at a level from zero, which stores, to nine. -/
def Compressor.deflate (level : Nat) : Compressor := Deflate.coder.compressor level

end EventTransport
