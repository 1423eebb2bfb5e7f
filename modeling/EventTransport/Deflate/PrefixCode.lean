import EventTransport.Deflate.BitStream
import EventTransport.Error

/-!
Contract: prefix codes given by the lengths of their codewords.

The codewords of one length are consecutive numbers in the order of their symbols, and shorter ones
come before longer ones; so the lengths alone determine the code.

Owns:
- `PrefixCode`, a code as a binary tree with symbols at its leaves;
- `codewords`, the codeword of each symbol;
- `isCode`, whether lengths are those of a code: nothing may be left over unless there is at most
  one codeword, and that of one bit;
- `PrefixCode.ofLengths?`, the code of a list of lengths, if they are those of a code;
- `PrefixCode.read`, the symbol at the front of a bit stream.

Main statement: reading never leaves more bits than there were.
-/

namespace EventTransport.Deflate

/-- A binary tree; the way to a leaf spells the codeword of its symbol. -/
inductive PrefixCode where
  | unused
  | leaf (symbol : Nat)
  | node (zero one : PrefixCode)
deriving Inhabited

def maxCodeLength : Nat := 15

/-- The bits of a codeword, highest first. -/
def codewordBits (length value : Nat) : List Bool := (numberBits length value).reverse

/-- How many codewords have a length; zero stands for symbols that are not used. -/
def countOf (lengths : List Nat) (length : Nat) : Nat :=
  if length = 0 then 0 else lengths.count length

/-- The first codeword of a length, as a number. -/
def firstCode (lengths : List Nat) : Nat → Nat
  | 0 => 0
  | length + 1 => (firstCode lengths length + countOf lengths length) * 2

/-- Codewords given out in the order of the symbols; `next` holds the next one of each length. -/
def assignCodes : Array Nat → List Nat → List (List Bool)
  | _, [] => []
  | next, length :: lengths =>
    if length = 0 then [] :: assignCodes next lengths
    else
      let value := next.getD length 0
      codewordBits length value :: assignCodes (next.setIfInBounds length (value + 1)) lengths

/-- The codeword of each symbol; empty for a symbol that is not used. -/
def codewords (lengths : List Nat) : List (List Bool) :=
  assignCodes ((List.range (maxCodeLength + 1)).map (firstCode lengths)).toArray lengths

/-- The lengths of the codewords that there are. -/
def usedLengths (lengths : List Nat) : List Nat := lengths.filter (· ≠ 0)

/-- How much of the space of codewords is taken, in units of the longest ones. -/
def kraftSum (lengths : List Nat) : Nat :=
  (usedLengths lengths).foldr (fun length total => Nat.pow 2 (maxCodeLength - length) + total) 0

/-- Whether the codewords fill the space of codewords exactly. -/
def isComplete (lengths : List Nat) : Bool := kraftSum lengths = Nat.pow 2 maxCodeLength

/-- Whether lengths are those of a code: a complete one, one with a single codeword of one bit, or
one without codewords. -/
def isCode (lengths : List Nat) : Bool :=
  isComplete lengths || usedLengths lengths = [] || usedLengths lengths = [1]

namespace PrefixCode

/-- The code with a further symbol under a codeword. -/
def insert (symbol : Nat) : List Bool → PrefixCode → PrefixCode
  | [], _ => leaf symbol
  | false :: bits, node zero one => node (insert symbol bits zero) one
  | true :: bits, node zero one => node zero (insert symbol bits one)
  | false :: bits, _ => node (insert symbol bits unused) unused
  | true :: bits, _ => node unused (insert symbol bits unused)

/-- The code with the symbols from `symbol` on under their codewords, empty ones left out. -/
def insertAll (code : PrefixCode) (symbol : Nat) : List (List Bool) → PrefixCode
  | [] => code
  | [] :: rest => insertAll code (symbol + 1) rest
  | bits :: rest => insertAll (insert symbol bits code) (symbol + 1) rest

/-- The code without codewords, of which every bit breaks a rule. -/
def empty : PrefixCode := node unused unused

def ofLengths (lengths : List Nat) : PrefixCode := insertAll empty 0 (codewords lengths)

/-- The code of a list of lengths, if they are those of a code. -/
def ofLengths? (lengths : List Nat) : Option PrefixCode :=
  if isCode lengths then some (ofLengths lengths) else none

/-- The symbol at the front of a bit stream. A bit that no codeword goes on with breaks a rule. -/
def read : PrefixCode → BitStream → Except CompressionFault (Nat × BitStream)
  | leaf symbol, stream => .ok (symbol, stream)
  | unused, _ => .error .corrupt
  | node zero one, stream =>
    match stream.next? with
    | none => .error .incomplete
    | some (false, rest) => zero.read rest
    | some (true, rest) => one.read rest

/-- What is left after a symbol has been read is no longer than before. -/
theorem size_le_of_read {code : PrefixCode} {stream rest : BitStream} {symbol : Nat}
    (found : code.read stream = .ok (symbol, rest)) : rest.size ≤ stream.size := by
  induction code generalizing stream with
  | unused => cases found
  | leaf leafSymbol =>
    cases found
    exact Nat.le_refl _
  | node zero one fromZero fromOne =>
    unfold read at found
    split at found
    · cases found
    · rename_i after next
      exact Nat.le_trans (fromZero found) (BitStream.size_le_of_next? next)
    · rename_i after next
      exact Nat.le_trans (fromOne found) (BitStream.size_le_of_next? next)

end PrefixCode

end EventTransport.Deflate
