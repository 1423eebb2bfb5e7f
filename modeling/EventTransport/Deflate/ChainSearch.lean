import EventTransport.Deflate.Chains

/-!
Contract: data as tokens, found by searching along chains of earlier places.

A match that has been found may be put off: if the match one byte later is longer, the byte becomes
a literal and the later match stands in its place.

Owns:
- `Effort`, how long is searched and whether matches are put off;
- `settle`, what is settled at a position;
- `chainMoves`, data as tokens.

Does not own: chains.
-/

namespace EventTransport.Deflate

/-- How matches are looked for. -/
structure Effort where
  /-- The tries at a position. -/
  tries : Nat
  /-- The tries if a good match has been found one byte earlier. -/
  triesAfterGood : Nat
  /-- Whether a match is taken without a look at the next position. -/
  isEager : Bool

/-- From this length on a match is good. -/
def goodLength : Nat := 32

/-- From this length on a match is taken without a look at the next position. -/
def plentyLength : Nat := 128

/-- A match found one byte back, with the byte that stands there. -/
structure Deferred where
  byte : UInt8
  found : Match

/-- What is settled at a position: the tokens, how far it leads, and a match that is put off. -/
structure Settled where
  move : Move
  advance : Nat
  deferred : Option Deferred := none

/-- A match taken or put off. -/
def Match.settled (effort : Effort) (byte : UInt8) (found : Match) (before : Move) : Settled :=
  if effort.isEager || plentyLength ≤ found.length then
    { move := before ++ [found.token], advance := found.length }
  else { move := before, advance := 1, deferred := some ⟨byte, found⟩ }

/-- A match that has been put off, taken one byte later. -/
def Deferred.settled (deferred : Deferred) : Settled :=
  { move := [deferred.found.token], advance := deferred.found.length - 1 }

/-- What is settled at a position where a byte stands and perhaps a match, after a match that may
have been put off. -/
def settle (effort : Effort) (byte : UInt8) (found : Option Match) : Option Deferred → Settled
  | none =>
    match found with
    | none => { move := [.literal byte], advance := 1 }
    | some found => found.settled effort byte []
  | some deferred =>
    match found with
    | none => deferred.settled
    | some found =>
      if found.length ≤ deferred.found.length then deferred.settled
      else found.settled effort byte [.literal deferred.byte]

/-- The match at a position that is longer than the one put off, if it is worth a copy. One that
reaches back to the first slot of the window is not taken. -/
def chainMatch? (effort : Effort) (data : Array UInt8) (chains : Chains) (position : Nat)
    (deferred : Option Deferred) : Option Match :=
  let least := (deferred.map fun earlier => earlier.found.length).getD (minCopyLength - 1)
  let tries := if goodLength ≤ least then effort.triesAfterGood else effort.tries
  let found := chains.longest data tries position least
  if found.distance = 0 || found.distance = position % maxDistance || found.isFar then none
  else some found

/-- Moves from a position on, gathered in reverse. The chains know the places up to `entered`; they
are to know all whose three bytes are among the bytes that a match may take. -/
def chainMovesFrom (effort : Effort) (data : Array UInt8) :
    Nat → Nat → Nat → Chains → Option Deferred → List Move → List Move
  | 0, _, _, _, _, gathered => gathered.reverse
  | fuel + 1, position, entered, chains, deferred, gathered =>
    match data[position]? with
    | none => gathered.reverse
    | some byte =>
      let known := min data.size (position + maxCopyLength) - (minCopyLength - 1)
      let chains := chains.enterTo data entered known
      let settled := settle effort byte (chainMatch? effort data chains position deferred) deferred
      chainMovesFrom effort data fuel (position + settled.advance) (max entered known) chains
        settled.deferred (settled.move :: gathered)

/-- Data as tokens. Every position leads on by a byte at least. -/
def chainMoves (effort : Effort) (data : Array UInt8) : List Move :=
  chainMovesFrom effort data data.size 0 0 Chains.empty none []

end EventTransport.Deflate
