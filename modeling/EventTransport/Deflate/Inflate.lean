import EventTransport.Bytes.Source
import EventTransport.Deflate.Alphabet

/-!
Contract: deflate streams restored to data.

Owns:
- `inflateAll`, what a stream expands to and how it ends;
- `decoder`, what of that is handed over.

A stream is read up to the end of its final block; bytes after it do not count. A stream that breaks
a rule and one that ends too early are told apart. All output of a stream that is cut short is
handed over. Before a broken rule only that is handed over which has left the decoder by then:
output leaves whenever a window of 32768 bytes is full and more is to come, and whenever the decoder
asks for the next 32768 bytes of the stream.

Main statement: the decoder ends well exactly if the stream does.

Does not own: limits.
-/

namespace EventTransport.Deflate

/-- What a reader of bits gives. -/
abbrev Reading (α : Type) := Except CompressionFault (α × BitStream)

/-- The number of the next `count` bits. -/
def readNumber (count : Nat) (stream : BitStream) : Reading Nat :=
  match stream.number? count with
  | none => .error .incomplete
  | some found => .ok found

/-- The value of a symbol with its extra bits; symbols without a meaning break a rule. -/
def readValue (symbols : Array (Nat × Nat)) (symbol : Nat) (stream : BitStream) : Reading Nat :=
  match symbols[symbol]? with
  | none => .error .corrupt
  | some (base, extra) =>
    match readNumber extra stream with
    | .error fault => .error fault
    | .ok (offset, rest) => .ok (base + offset, rest)

/-- The token of a literal or a length that has been read, or the end of the block. -/
def readToken (distances : PrefixCode) (symbol : Nat) (stream : BitStream) :
    Reading (Option Token) :=
  if symbol < endOfBlock then .ok (some (.literal (UInt8.ofNat symbol)), stream)
  else if symbol = endOfBlock then .ok (none, stream)
  else
    match readValue lengthSymbols (symbol - firstLengthSymbol) stream with
    | .error fault => .error fault
    | .ok (length, afterLength) =>
      match distances.read afterLength with
      | .error fault => .error fault
      | .ok (distanceSymbol, afterSymbol) =>
        match readValue distanceSymbols distanceSymbol afterSymbol with
        | .error fault => .error fault
        | .ok (distance, rest) => .ok (some (.copy length distance), rest)

/-- Data so far, and either the rest of the stream or why it cannot go on. -/
abbrev Progress := Array UInt8 × Except CompressionFault BitStream

/-- The tokens of a block up to its end. -/
def expandTokens (literals distances : PrefixCode) : Nat → Array UInt8 → BitStream → Progress
  | 0, output, _ => (output, .error .corrupt)
  | fuel + 1, output, stream =>
    match literals.read stream with
    | .error fault => (output, .error fault)
    | .ok (symbol, afterSymbol) =>
      match readToken distances symbol afterSymbol with
      | .error fault => (output, .error fault)
      | .ok (none, rest) => (output, .ok rest)
      | .ok (some token, rest) =>
        expandTokens literals distances fuel (token.expand output) rest

/-- A stored block: its size, the complement of its size, its bytes. -/
def expandStored (output : Array UInt8) (stream : BitStream) : Progress :=
  match stream.aligned with
  | sizeLow :: sizeHigh :: checkLow :: checkHigh :: rest =>
    let size := sizeLow.toNat + 256 * sizeHigh.toNat
    let check := checkLow.toNat + 256 * checkHigh.toNat
    if size + check ≠ 65535 then (output, .error .corrupt)
    else
      let stored := rest.take size
      let extended := output ++ stored
      if stored.length < size then (extended, .error .incomplete)
      else (extended, .ok (BitStream.ofBytes (rest.drop size)))
  | _ => (output, .error .incomplete)

/-- `count` lengths of codewords, three bits each, in their order of sending. -/
def readCodeLengths : List Nat → Nat → Array Nat → BitStream → Reading (Array Nat)
  | _, 0, lengths, stream => .ok (lengths, stream)
  | [], _ + 1, lengths, stream => .ok (lengths, stream)
  | symbol :: order, count + 1, lengths, stream =>
    match readNumber 3 stream with
    | .error fault => .error fault
    | .ok (length, rest) => readCodeLengths order count (lengths.setIfInBounds symbol length) rest

/-- Lengths of codewords, gathered in reverse until there are `total` of them; three symbols repeat
a length. A repetition that goes on beyond the total breaks a rule. -/
def readLengths (code : PrefixCode) (total : Nat) : Nat → List Nat → Nat → BitStream →
    Reading (List Nat)
  | 0, _, _, _ => .error .corrupt
  | fuel + 1, gathered, count, stream =>
    if total ≤ count then
      if count = total then .ok (gathered.reverse, stream) else .error .corrupt
    else
      match code.read stream with
      | .error fault => .error fault
      | .ok (symbol, rest) =>
        if symbol < 16 then readLengths code total fuel (symbol :: gathered) (count + 1) rest
        else if symbol = 16 && gathered.isEmpty then .error .corrupt
        else
          let (value, extra, least) :=
            if symbol = 16 then (gathered.headD 0, 2, 3)
            else if symbol = 17 then (0, 3, 3)
            else (0, 7, 11)
          match readNumber extra rest with
          | .error fault => .error fault
          | .ok (more, after) =>
            readLengths code total fuel (List.replicate (least + more) value ++ gathered)
              (count + least + more) after

def readCodes (fuel : Nat) (stream : BitStream) :
    Except CompressionFault ((PrefixCode × PrefixCode) × BitStream) := do
  let (literalExtra, stream) ← readNumber 5 stream
  let (distanceExtra, stream) ← readNumber 5 stream
  let (lengthExtra, stream) ← readNumber 4 stream
  let literalCount := literalExtra + 257
  let distanceCount := distanceExtra + 1
  if 286 < literalCount || 30 < distanceCount then .error .corrupt
  else
    let (lengths, stream) ←
      readCodeLengths lengthOrder (lengthExtra + 4) (Array.replicate 19 0) stream
    if !isComplete lengths.toList then .error .corrupt
    else
      let lengthCode := PrefixCode.ofLengths lengths.toList
      let (all, stream) ← readLengths lengthCode (literalCount + distanceCount) fuel [] 0 stream
      match PrefixCode.ofLengths? (all.take literalCount),
        PrefixCode.ofLengths? (all.drop literalCount) with
      | some literals, some distances => .ok ((literals, distances), stream)
      | _, _ => .error .corrupt

/-- A block after its header of three bits. -/
def expandBlock (fuel kind : Nat) (output : Array UInt8) (stream : BitStream) : Progress :=
  if kind = 0 then expandStored output stream
  else if kind = 1 then expandTokens fixedLiterals fixedDistances fuel output stream
  else if kind = 2 then
    match readCodes fuel stream with
    | .error fault => (output, .error fault)
    | .ok ((literals, distances), rest) => expandTokens literals distances fuel output rest
  else (output, .error .corrupt)

/-- The blocks of a stream up to the final one. -/
def expandBlocks (bound : Nat) : Nat → Array UInt8 → BitStream → Progress
  | 0, output, _ => (output, .error .corrupt)
  | fuel + 1, output, stream =>
    match readNumber 3 stream with
    | .error fault => (output, .error fault)
    | .ok (header, rest) =>
      let (extended, ending) := expandBlock bound (header / 2) output rest
      match ending with
      | .error fault => (extended, .error fault)
      | .ok after =>
        if header % 2 = 1 then (extended, .ok after) else expandBlocks bound fuel extended after

/-- What a stream expands to before it ends, and why it cannot go on if it does not end well. Every
step takes a bit, so the number of steps is bounded by the number of bits. -/
def inflateAll (packed : Bytes) : Array UInt8 × Option CompressionFault :=
  let stream := BitStream.ofBytes packed
  let (output, ending) := expandBlocks (stream.size + 1) (stream.size + 1) #[] stream
  match ending with
  | .error fault => (output, some fault)
  | .ok _ => (output, none)

def windowSize : Nat := 32768

/-- How much of a stream the decoder is given at a time. -/
def pieceSize : Nat := 32768

/-- How much output leaves the decoder when it has used up as many pieces of a stream as it can
without meeting a broken rule, but no more than `pieces`. -/
def deliveredByPiece (packed : Bytes) : Nat → Nat
  | 0 => 0
  | pieces + 1 =>
    match inflateAll (packed.take ((pieces + 1) * pieceSize)) with
    | (_, some .corrupt) => deliveredByPiece packed pieces
    | (output, _) => output.size

/-- How much of `size` bytes of output has left the decoder when it meets a fault. -/
def delivered (packed : Bytes) (size : Nat) : CompressionFault → Nat
  | .corrupt =>
    max ((size - 1) / windowSize * windowSize) (deliveredByPiece packed (packed.length / pieceSize))
  | _ => size

/-- What the decoder of a stream hands over, and how it ends. -/
def decoder (packed : Bytes) : Source CompressionFault :=
  match inflateAll packed with
  | (output, none) => ⟨output.toList, none⟩
  | (output, some fault) => ⟨output.toList.take (delivered packed output.size fault), some fault⟩

/-- The decoder ends well exactly if the stream does. -/
theorem decoder_eq_iff {packed plain : Bytes} :
    decoder packed = ⟨plain, none⟩ ↔ inflateAll packed = (plain.toArray, none) := by
  unfold decoder
  split
  · rename_i output ends
    simp only [ends, Source.mk.injEq, Prod.mk.injEq, and_true]
    constructor
    · rintro rfl
      rfl
    · rintro rfl
      rfl
  · rename_i output fault ends
    rw [ends]
    simp

end EventTransport.Deflate
