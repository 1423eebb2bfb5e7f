import EventTransport.Deflate.PrefixCode
import EventTransport.Deflate.Token

/-!
Contract: the alphabets of deflate streams.

Owns:
- the symbols of literals, of the end of a block, of lengths and of distances, with their extra
  bits;
- the fixed codes;
- `tokenBits`, a token in codewords, and the symbols that a token takes.

Does not own: blocks.
-/

namespace EventTransport.Deflate

/-- Base and number of extra bits of each symbol for a length. -/
def lengthSymbols : Array (Nat × Nat) := #[
  (3, 0), (4, 0), (5, 0), (6, 0), (7, 0), (8, 0), (9, 0), (10, 0), (11, 1), (13, 1), (15, 1),
  (17, 1), (19, 2), (23, 2), (27, 2), (31, 2), (35, 3), (43, 3), (51, 3), (59, 3), (67, 4),
  (83, 4), (99, 4), (115, 4), (131, 5), (163, 5), (195, 5), (227, 5), (258, 0)]

/-- Base and number of extra bits of each symbol for a distance. -/
def distanceSymbols : Array (Nat × Nat) := #[
  (1, 0), (2, 0), (3, 0), (4, 0), (5, 1), (7, 1), (9, 2), (13, 2), (17, 3), (25, 3), (33, 4),
  (49, 4), (65, 5), (97, 5), (129, 6), (193, 6), (257, 7), (385, 7), (513, 8), (769, 8),
  (1025, 9), (1537, 9), (2049, 10), (3073, 10), (4097, 11), (6145, 11), (8193, 12), (12289, 12),
  (16385, 13), (24577, 13)]

def endOfBlock : Nat := 256

def firstLengthSymbol : Nat := 257

/-- Lengths of the fixed codewords for literals, the end of a block and lengths. -/
def fixedLiteralLengths : List Nat :=
  List.replicate 144 8 ++ List.replicate 112 9 ++ List.replicate 24 7 ++ List.replicate 8 8

/-- Lengths of the fixed codewords for distances; the last two have no meaning. -/
def fixedDistanceLengths : List Nat := List.replicate 32 5

/-- The fixed code for literals, the end of a block and lengths. -/
def fixedLiterals : PrefixCode := PrefixCode.ofLengths fixedLiteralLengths

def fixedDistances : PrefixCode := PrefixCode.ofLengths fixedDistanceLengths

/-- The fixed codewords for literals, the end of a block and lengths. -/
def fixedLiteralWords : Array (List Bool) := (codewords fixedLiteralLengths).toArray

def fixedDistanceWords : Array (List Bool) := (codewords fixedDistanceLengths).toArray

/-- The order in which the lengths of the codewords for lengths are sent. -/
def lengthOrder : List Nat :=
  [16, 17, 18, 0, 8, 7, 9, 6, 10, 5, 11, 4, 12, 3, 13, 2, 14, 1, 15]

/-- The last symbol whose base is at most a value. -/
def symbolFor (symbols : Array (Nat × Nat)) (value : Nat) : Nat :=
  (symbols.toList.takeWhile fun entry => entry.1 ≤ value).length - 1

/-- A value as the codeword of its symbol, given the words of all symbols, and its extra bits. -/
def symbolBits (symbols : Array (Nat × Nat)) (words : Array (List Bool)) (first value : Nat) :
    List Bool :=
  let symbol := symbolFor symbols value
  let entry := symbols.getD symbol (0, 0)
  words.getD (first + symbol) [] ++ numberBits entry.2 (value - entry.1)

/-- A token in codewords for literals and lengths and codewords for distances. -/
def tokenBits (literals distances : Array (List Bool)) : Token → List Bool
  | .literal byte => literals.getD byte.toNat []
  | .copy length distance =>
    symbolBits lengthSymbols literals firstLengthSymbol length ++
      symbolBits distanceSymbols distances 0 distance

/-- The symbol of a token in the alphabet of literals and lengths. -/
def literalSymbol : Token → Nat
  | .literal byte => byte.toNat
  | .copy length _ => firstLengthSymbol + symbolFor lengthSymbols length

/-- The symbol of a token in the alphabet of distances, for a copy. -/
def distanceSymbol? : Token → Option Nat
  | .literal _ => none
  | .copy _ distance => some (symbolFor distanceSymbols distance)

end EventTransport.Deflate
