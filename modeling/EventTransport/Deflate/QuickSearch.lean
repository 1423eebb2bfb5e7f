import EventTransport.Deflate.Token

/-!
Contract: data as tokens, found fast.

The data is taken in stretches. At each token the place is remembered under a number made of the
next three bytes, in place of the one before; if the three bytes stand there too, they are copied as
far as the places agree within the stretch.

Owns:
- `quickMatch?`, the copy from one remembered place;
- `quickMoves`, data as tokens.

Does not own: other ways to search.
-/

namespace EventTransport.Deflate

/-- Tokens that are settled together. -/
abbrev Move := List Token

/-- Places are remembered up to multiples of this number. -/
def placeModulus : Nat := 65536

def stretchSize : Nat := 4096

/-- How many groups of three bytes are told apart. -/
def quickGroups : Nat := 4096

/-- The fewest bytes left of a stretch for which a match is looked for. -/
def quickLeast : Nat := 4

/-- The number of the group of three bytes at a position: the first twelve bits, mixed with the
last seven. -/
def quickGroup (data : Array UInt8) (position : Nat) : Nat :=
  let byte (offset : Nat) : Nat := (data.getD (position + offset) 0).toNat
  Nat.xor ((byte 0 + 256 * byte 1) % quickGroups) (byte 2 / 2)

/-- How many of the bytes from a position on belong to its stretch. -/
def stretchLeft (data : Array UInt8) (position : Nat) : Nat :=
  min (stretchSize - position % stretchSize) (data.size - position)

/-- How far back a copy may reach when that many bytes ahead are held in the window. -/
def reach (position ahead : Nat) : Nat := min position (maxDistance - ahead)

/-- How far back a remembered place is. -/
def distanceTo (place position : Nat) : Nat :=
  (position % placeModulus + placeModulus - place) % placeModulus

/-- The match at a remembered place, if it is worth a copy. -/
def quickMatch? (data : Array UInt8) (position place : Nat) : Option Match :=
  let left := stretchLeft data position
  let distance := distanceTo place position
  if distance = 0 || reach position left < distance then none
  else
    let length := agreement data (position - distance) position (min maxCopyLength left)
    let found : Match := ⟨length, distance⟩
    if length < minCopyLength || found.isFar then none else some found

/-- Moves from a position on, gathered in reverse. -/
def quickMovesFrom (data : Array UInt8) : Nat → Nat → Array Nat → List Move → List Move
  | 0, _, _, gathered => gathered.reverse
  | fuel + 1, position, places, gathered =>
    match data[position]? with
    | none => gathered.reverse
    | some byte =>
      if stretchLeft data position < quickLeast then
        quickMovesFrom data fuel (position + 1) places ([.literal byte] :: gathered)
      else
        let group := quickGroup data position
        let found := quickMatch? data position (places.getD group 0)
        let places := places.setIfInBounds group (position % placeModulus)
        match found with
        | none => quickMovesFrom data fuel (position + 1) places ([.literal byte] :: gathered)
        | some found =>
          quickMovesFrom data fuel (position + found.length) places ([found.token] :: gathered)

/-- Data as tokens, each a move of its own. Every move takes a byte at least. -/
def quickMoves (data : Array UInt8) : List Move :=
  quickMovesFrom data data.size 0 (Array.replicate quickGroups 0) []

end EventTransport.Deflate
