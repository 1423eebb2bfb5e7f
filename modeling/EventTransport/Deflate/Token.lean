import EventTransport.Bytes.Basic

/-!
Contract: data as literal bytes and copies of what came before.

Owns:
- `Token`, a byte or a copy;
- `Token.expand`, what a token appends to the data so far;
- `Match`, where data stands a second time, and `agreement`, for how long two places agree.

Does not own: the search for matches.
-/

namespace EventTransport.Deflate

/-- A byte, or `length` bytes as they stand `distance` bytes back. -/
inductive Token where
  | literal (byte : UInt8)
  | copy (length distance : Nat)
deriving DecidableEq

/-- Bytes appended one by one as they stand `distance` back; before the start of the data there are
zeros. -/
def copyBack (distance : Nat) : Nat → Array UInt8 → Array UInt8
  | 0, output => output
  | count + 1, output =>
    let byte := if distance ≤ output.size then output.getD (output.size - distance) 0 else 0
    copyBack distance count (output.push byte)

/-- The data with what a token stands for. -/
def Token.expand (output : Array UInt8) : Token → Array UInt8
  | literal byte => output.push byte
  | copy length distance => copyBack distance length output

def Token.size : Token → Nat
  | literal _ => 1
  | copy length _ => length

def minCopyLength : Nat := 3

def maxCopyLength : Nat := 258

def maxDistance : Nat := 32768

/-- From here on a copy of the least length is not worth its distance. -/
def farDistance : Nat := 8192

/-- The bytes at a position as they stand before it. -/
structure Match where
  length : Nat
  distance : Nat
deriving DecidableEq

/-- The copy that a match allows. -/
def Match.token (found : Match) : Token := .copy found.length found.distance

/-- Whether a match is short and far. -/
def Match.isFar (found : Match) : Bool :=
  found.length = minCopyLength && farDistance ≤ found.distance

/-- For how many bytes, at most `count`, the data at `earlier` and at `position` agree. -/
def agreement (data : Array UInt8) (earlier position : Nat) : Nat → Nat
  | 0 => 0
  | count + 1 =>
    match data[earlier]?, data[position]? with
    | some left, some right =>
      if left = right then agreement data (earlier + 1) (position + 1) count + 1 else 0
    | _, _ => 0

end EventTransport.Deflate
