import EventTransport.Deflate.QuickSearch

/-!
Contract: tokens gathered into sections, of which each becomes a block.

Owns:
- `Section`, some tokens with the number of bytes they stand for and the room they take while they
  are gathered;
- `sections`, moves cut into sections.

A section ends when the room is used up. A careful cut also ends one that is large and has not been
shrunk by its tokens. The last section may be empty.

Does not own: the bits of a block.
-/

namespace EventTransport.Deflate

/-- Tokens gathered for a block, the latest first. -/
structure Section where
  gathered : List Token := []
  count : Nat := 0
  size : Nat := 0
  /-- How much room the tokens take. -/
  room : Nat := 1

namespace Section

/-- How much room there is. -/
def maxRoom : Nat := 65528

/-- A section of more bytes is large. -/
def largeSize : Nat := 31744

/-- How many tokens share a unit of room. -/
def tokensPerUnit : Nat := 8

def tokens (part : Section) : List Token := part.gathered.reverse

/-- How much room a token takes by itself. -/
def tokenRoom : Token → Nat
  | .literal _ => 1
  | .copy _ _ => 3

def add (part : Section) (token : Token) : Section where
  gathered := token :: part.gathered
  count := part.count + 1
  size := part.size + token.size
  room := part.room + tokenRoom token + if (part.count + 1) % tokensPerUnit = 0 then 1 else 0

def isFull (careful : Bool) (part : Section) : Bool :=
  maxRoom < part.room ||
    (careful && largeSize < part.size && part.size ≤ part.room * 115 / 128)

end Section

/-- Moves cut into sections, after what has been gathered for the first one. -/
def sectionsFrom (careful : Bool) : Section → List Move → List Section
  | part, [] => [part]
  | part, move :: moves =>
    let extended := move.foldl Section.add part
    if extended.isFull careful then extended :: sectionsFrom careful {} moves
    else sectionsFrom careful extended moves

def sections (careful : Bool) (moves : List Move) : List Section := sectionsFrom careful {} moves

end EventTransport.Deflate
