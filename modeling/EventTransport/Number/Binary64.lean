/-!
Contract: the numbers of the 64-bit binary floating-point format, as exact values.

Owns:
- `Binary64`, a number by its sixty-four bits;
- `Binary64.nearest`, the number nearest to a ratio, a tie going to the even neighbour;
- products and quotients, rounded once;
- `Binary64.parts`, the whole significand and the power of two that a finite number is made of.

Does not own: text.
-/

namespace EventTransport.Number

/-- A number of the 64-bit binary format: one sign bit, eleven exponent bits, fifty-two bits of
the significand. -/
structure Binary64 where
  bits : UInt64
deriving DecidableEq

namespace Binary64

/-- The bits of positive infinity, above those of every finite number that is not negative. -/
def infinityBits : Nat := 0x7FF0000000000000

def infinity : Binary64 := ⟨UInt64.ofNat infinityBits⟩

/-- The number that stands for no number. -/
def nan : Binary64 := ⟨0x7FF8000000000000⟩

def zero : Binary64 := ⟨0⟩

/-- The same number with the sign bit turned. -/
def negate (number : Binary64) : Binary64 := ⟨number.bits ^^^ 0x8000000000000000⟩

def isNegative (number : Binary64) : Bool := number.bits ≥ 0x8000000000000000

/-- The bits without the sign. -/
def magnitudeBits (number : Binary64) : Nat := number.bits.toNat % 0x8000000000000000

def isInfinite (number : Binary64) : Bool := number.magnitudeBits = infinityBits

def isZero (number : Binary64) : Bool := number.magnitudeBits = 0

/-- Significand and binary exponent of the magnitude of a finite number. -/
def parts (number : Binary64) : Nat × Int :=
  let exponent := number.magnitudeBits / 0x10000000000000
  let fraction := number.magnitudeBits % 0x10000000000000
  if exponent = 0 then (fraction, -1074) else (0x10000000000000 + fraction, exponent - 1075)

/-- Numerator and denominator of `numerator / denominator / 2 ^ exponent`. -/
def scaled (numerator denominator : Nat) (exponent : Int) : Nat × Nat :=
  if 0 ≤ exponent then (numerator, denominator * Nat.pow 2 exponent.toNat)
  else (numerator * Nat.pow 2 (-exponent).toNat, denominator)

/-- The whole number nearest to a ratio, a tie going to the even one. -/
def roundRatio (numerator denominator : Nat) : Nat :=
  let quotient := numerator / denominator
  let twice := 2 * (numerator % denominator)
  if denominator < twice || (twice = denominator && quotient % 2 = 1) then quotient + 1
  else quotient

/-- The binary exponent of the last place of the number nearest to a ratio: the significand gets
fifty-three bits, or fewer where the exponent cannot sink further. -/
def placeOf (numerator denominator : Nat) : Int :=
  let lower : Int := (numerator.log2 : Int) - denominator.log2 - 53
  let (above, below) := scaled numerator denominator lower
  let exponent := if 0x20000000000000 ≤ above / below then lower + 1 else lower
  if exponent < -1074 then -1074 else exponent

/-- The number nearest to a ratio that is not negative. The bits are those of the significand
counted on from the exponent, so a carry out of the significand raises the exponent by itself. -/
def nearest (numerator denominator : Nat) : Binary64 :=
  if numerator = 0 then zero
  else
    let exponent := placeOf numerator denominator
    let (above, below) := scaled numerator denominator exponent
    let bits := (exponent + 1074).toNat * 0x10000000000000 + roundRatio above below
    if infinityBits ≤ bits then infinity else ⟨UInt64.ofNat bits⟩

/-- The number nearest to `significand * 10 ^ exponent`. -/
def ofDecimal (significand : Nat) (exponent : Int) : Binary64 :=
  if 0 ≤ exponent then nearest (significand * Nat.pow 10 exponent.toNat) 1
  else nearest significand (Nat.pow 10 (-exponent).toNat)

def ofNat (value : Nat) : Binary64 := nearest value 1

/-- The ratio nearest to which `significand * 2 ^ exponent` lies, rounded once. -/
def ofBinary (numerator denominator : Nat) (exponent : Int) : Binary64 :=
  if 0 ≤ exponent then nearest (numerator * Nat.pow 2 exponent.toNat) denominator
  else nearest numerator (denominator * Nat.pow 2 (-exponent).toNat)

/-- The product of the magnitudes of two finite numbers, rounded once. -/
def mul (left right : Binary64) : Binary64 :=
  ofBinary (left.parts.1 * right.parts.1) 1 (left.parts.2 + right.parts.2)

/-- The quotient of the magnitudes of two finite numbers, the second not zero, rounded once. -/
def div (left right : Binary64) : Binary64 :=
  ofBinary left.parts.1 right.parts.1 (left.parts.2 - right.parts.2)

end Binary64

end EventTransport.Number
