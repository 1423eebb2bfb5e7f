import EventTransport.Deflate.QuickSearch

/-!
Contract: chains of places at which groups of three bytes stand, and the longest match along one.

Owns:
- `Chains`, for each group the latest place, and for each place the one before it of the same group;
- `Chains.enterTo`, which remembers the places up to a position;
- `Chains.longest`, the longest match that some tries find.

A try is three steps along the chain or as many as it takes to meet a place at which the match could
be longer than the best one so far. Only places that are no further back than the window are met,
and the place with the number zero ends every chain.

Does not own: which matches are taken.
-/

namespace EventTransport.Deflate

/-- How many groups of three bytes have chains of their own. -/
def chainGroups : Nat := 32768

/-- How many steps along a chain a try has. -/
def stepsPerTry : Nat := 3

/-- The number of the group of three bytes at a position: the bytes, each five bits further up than
the next one, mixed. -/
def chainGroup (data : Array UInt8) (position : Nat) : Nat :=
  let byte (offset : Nat) : Nat := (data.getD (position + offset) 0).toNat
  Nat.xor (Nat.xor (byte 0 * 1024) (byte 1 * 32)) (byte 2) % chainGroups

/-- Remembered places, by group and by the slot of the window that they are in. -/
structure Chains where
  latest : Array Nat
  previous : Array Nat

namespace Chains

def empty : Chains := ⟨Array.replicate chainGroups 0, Array.replicate maxDistance 0⟩

/-- A place remembered as the latest one of its group. -/
def enter (data : Array UInt8) (position : Nat) : Chains → Chains
  | ⟨latest, previous⟩ =>
    let group := chainGroup data position
    let before := latest.getD group 0
    ⟨latest.setIfInBounds group (position % placeModulus),
      previous.setIfInBounds (position % maxDistance) before⟩

/-- `count` places remembered, from a position on. -/
def enterMany (data : Array UInt8) : Nat → Nat → Chains → Chains
  | 0, _, chains => chains
  | count + 1, position, chains =>
    enterMany data count (position + 1) (enter data position chains)

/-- The places from `entered` up to a position remembered. -/
def enterTo (data : Array UInt8) (entered position : Nat) (chains : Chains) : Chains :=
  enterMany data (position - entered) entered chains

/-- How far back the place before the one in a slot is, if the chain goes on and stays within
`limit`. -/
def next? (chains : Chains) (position limit slot : Nat) : Option Nat :=
  let place := chains.previous.getD slot 0
  let distance := distanceTo place position
  if place = 0 || distance = 0 || limit < distance then none else some distance

/-- Whether a match of `length` bytes at an earlier place could be longer: its last byte and the one
after it are as they should be. -/
def couldExtend (data : Array UInt8) (earlier position length : Nat) : Bool :=
  data.getD (earlier + length - 1) 0 = data.getD (position + length - 1) 0 &&
    data.getD (earlier + length) 0 = data.getD (position + length) 0

/-- The best match after as many more steps, from a slot on. -/
def improve (chains : Chains) (data : Array UInt8) (position most : Nat) (steps slot : Nat)
    (best : Match) : Match :=
  match steps with
  | 0 => best
  | left + 1 =>
    match chains.next? position (reach position most) slot with
    | none => best
    | some distance =>
      let earlier := position - distance
      let slot := earlier % maxDistance
      if couldExtend data earlier position best.length then
        let later := left / stepsPerTry * stepsPerTry
        let length := agreement data earlier position most
        if length ≤ best.length then improve chains data position most later slot best
        else if length = most then ⟨length, distance⟩
        else improve chains data position most later slot ⟨length, distance⟩
      else improve chains data position most left slot best
termination_by steps
decreasing_by
  all_goals
    have below := Nat.div_mul_le_self left stepsPerTry
    omega

/-- The longest match of more than `least` bytes that `tries` tries find; its distance is zero if
there is none. -/
def longest (chains : Chains) (data : Array UInt8) (tries position least : Nat) : Match :=
  let most := min maxCopyLength (data.size - position)
  if most ≤ least then ⟨least, 0⟩
  else
    improve chains data position most (tries * stepsPerTry) (position % maxDistance) ⟨least, 0⟩

end Chains

end EventTransport.Deflate
