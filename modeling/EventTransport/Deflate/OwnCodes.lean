import EventTransport.Deflate.Alphabet
import EventTransport.Deflate.CodeLengths

/-!
Contract: data as a block that brings its codes along.

Owns:
- `LengthStep`, a symbol of the code in which lengths of codewords are sent;
- `describeRun`, a run of equal lengths in such symbols;
- `ownCodesBits`, tokens as a block in codes that suit them, described at its front.

Does not own: the choice between kinds of blocks.
-/

namespace EventTransport.Deflate

/-- A symbol of the code for lengths, with its extra bits as a number and their count. -/
structure LengthStep where
  symbol : Nat
  extra : Nat := 0
  width : Nat := 0

/-- `count` times the length before. -/
def repeatLast (length count : Nat) : List LengthStep :=
  if 3 ≤ count then
    ⟨16, min count 6 - 3, 2⟩ :: repeatLast length (count - min count 6)
  else List.replicate count ⟨length, 0, 0⟩
termination_by count

/-- `count` times zero. -/
def describeZeros (count : Nat) : List LengthStep :=
  if 11 ≤ count then
    ⟨18, min count 138 - 11, 7⟩ :: describeZeros (count - min count 138)
  else if 3 ≤ count then [⟨17, count - 3, 3⟩]
  else List.replicate count ⟨0, 0, 0⟩
termination_by count

/-- A run of equal lengths. -/
def describeRun (length : Nat) : Nat → List LengthStep
  | 0 => []
  | count + 1 =>
    if length = 0 then describeZeros (count + 1) else ⟨length, 0, 0⟩ :: repeatLast length count

/-- Equal neighbours gathered into runs, each a length with how often it stands there. -/
def runs : List Nat → List (Nat × Nat)
  | [] => []
  | length :: lengths =>
    match runs lengths with
    | [] => [(length, 1)]
    | (next, count) :: later =>
      if length = next then (next, count + 1) :: later else (length, 1) :: (next, count) :: later

/-- Lengths without the zeros at the end, but at least `least` of them. -/
def trimmed (least : Nat) (lengths : List Nat) : List Nat :=
  lengths.take (max least (lengths.reverse.dropWhile (· = 0)).length)

/-- How often each symbol below a bound is in a list. -/
def counted (bound : Nat) (symbols : List Nat) : List Nat :=
  (symbols.foldl (fun counts symbol => counts.modify symbol (· + 1))
    (Array.replicate bound 0)).toList

/-- The greatest length of a codeword in the code for lengths. -/
def maxStepLength : Nat := 7

/-- Lengths of codewords that suit the first symbols of tokens and the end of their block. -/
def literalLengthsOf (tokens : List Token) : List Nat :=
  codeLengths maxCodeLength (counted 286 (endOfBlock :: tokens.map literalSymbol))

/-- Lengths of codewords that suit the distances of tokens. -/
def distanceLengthsOf (tokens : List Token) : List Nat :=
  codeLengths maxCodeLength (counted 30 (tokens.filterMap distanceSymbol?))

/-- Tokens as what follows the final bit of a block, in codes that suit them. -/
def ownCodesBits (tokens : List Token) : List Bool :=
  let literals := trimmed 257 (literalLengthsOf tokens)
  let distances := trimmed 1 (distanceLengthsOf tokens)
  let steps := (runs (literals ++ distances)).flatMap fun run => describeRun run.1 run.2
  let stepLengths := codeLengths maxStepLength (counted 19 (steps.map LengthStep.symbol))
  let sent := trimmed 4 (lengthOrder.map fun symbol => stepLengths.getD symbol 0)
  let stepWords := (codewords stepLengths).toArray
  let literalWords := (codewords literals).toArray
  let distanceWords := (codewords distances).toArray
  [false, true] ++ numberBits 5 (literals.length - 257) ++
    numberBits 5 (distances.length - 1) ++ numberBits 4 (sent.length - 4) ++
    sent.flatMap (numberBits 3) ++
    (steps.flatMap fun step =>
      stepWords.getD step.symbol [] ++ numberBits step.width step.extra) ++
    tokens.flatMap (tokenBits literalWords distanceWords) ++ literalWords.getD endOfBlock []

end EventTransport.Deflate
