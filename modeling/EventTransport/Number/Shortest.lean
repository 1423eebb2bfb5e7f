import EventTransport.Number.Binary64

/-!
Contract: the shortest decimal that reads back as a given binary number, and its text.

Owns:
- `ShortestDecimal`, the fewest digits that lie in the rounding interval of a number, the nearest
  of them, a tie going to the even digit;
- `FloatLayout`, where positional notation ends and how an exponent is written;
- `Binary64.text`, a finite number in such a layout.

Does not own: reading decimals.
-/

namespace EventTransport.Number

/-- Decimal digits, the first one not zero, with the power of ten of that first digit. -/
structure ShortestDecimal where
  digits : Nat
  exponent : Int
deriving DecidableEq

namespace ShortestDecimal

/-- Whether `a / b ≤ c / d`. -/
def ratioLe (left right : Nat × Nat) : Bool := left.1 * right.2 ≤ right.1 * left.2

/-- Whether `a / b < c / d`. -/
def ratioLt (left right : Nat × Nat) : Bool := left.1 * right.2 < right.1 * left.2

/-- `factor * 2 ^ exponent` as a ratio. -/
def binaryRatio (factor : Nat) (exponent : Int) : Nat × Nat :=
  if 0 ≤ exponent then (factor * Nat.pow 2 exponent.toNat, 1)
  else (factor, Nat.pow 2 (-exponent).toNat)

/-- `factor * 10 ^ exponent` as a ratio. -/
def decimalRatio (factor : Nat) (exponent : Int) : Nat × Nat :=
  if 0 ≤ exponent then (factor * Nat.pow 10 exponent.toNat, 1)
  else (factor, Nat.pow 10 (-exponent).toNat)

/-- The real numbers that round to a given one: between half-way points, which belong to it iff
its significand is even. -/
structure Interval where
  low : Nat × Nat
  high : Nat × Nat
  closed : Bool

/-- The rounding interval of `significand * 2 ^ exponent`. Below a power of two the neighbour is
twice as near. -/
def interval (significand : Nat) (exponent : Int) : Interval where
  low :=
    if significand = 0x10000000000000 && -1074 < exponent then
      binaryRatio (4 * significand - 1) (exponent - 2)
    else binaryRatio (2 * significand - 1) (exponent - 1)
  high := binaryRatio (2 * significand + 1) (exponent - 1)
  closed := significand % 2 = 0

/-- Whether a ratio lies in an interval. -/
def Interval.contains (range : Interval) (ratio : Nat × Nat) : Bool :=
  if range.closed then ratioLe range.low ratio && ratioLe ratio range.high
  else ratioLt range.low ratio && ratioLt ratio range.high

/-- The power of ten of the first digit of a ratio that is not zero. -/
def leadingExponent (ratio : Nat × Nat) : Int :=
  let guess := (((ratio.1.log2 : Int) - ratio.2.log2) * 30103) / 100000
  if ratioLt ratio (decimalRatio 1 guess) then guess - 1
  else if ratioLe (decimalRatio 1 (guess + 1)) ratio then guess + 1
  else guess

/-- The point of the grid `10 ^ place` in the interval that is nearest to the value, a tie going
to the even one. -/
def onGrid? (value : Nat × Nat) (range : Interval) (place : Int) : Option Nat :=
  let unit := decimalRatio 1 place
  let numerator := value.1 * unit.2
  let denominator := value.2 * unit.1
  let below := numerator / denominator
  let twice := 2 * (numerator % denominator)
  let belowFits := range.contains (decimalRatio below place)
  let aboveFits := range.contains (decimalRatio (below + 1) place)
  match belowFits, aboveFits with
  | true, true =>
    if twice < denominator || (twice = denominator && below % 2 = 0) then some below
    else some (below + 1)
  | true, false => some below
  | false, true => some (below + 1)
  | false, false => none

/-- The coarsest grid with a point in the interval, tried from one digit on; `count` more digits
may be tried. -/
def search (value : Nat × Nat) (range : Interval) : Nat → Int → Nat × Int
  | 0, place => (value.1 / value.2, place)
  | count + 1, place =>
    match onGrid? value range place with
    | some digits => (digits, place)
    | none => search value range count (place - 1)

/-- The shortest decimal of `significand * 2 ^ exponent`, the significand not zero. Seventeen
digits always suffice. -/
def of (significand : Nat) (exponent : Int) : ShortestDecimal :=
  let value := binaryRatio significand exponent
  let (digits, place) :=
    search value (interval significand exponent) 17 (leadingExponent value)
  ⟨digits, place + (Nat.toDigits 10 digits).length - 1⟩

end ShortestDecimal

/-- Where positional notation ends and how the exponent is marked. -/
structure FloatLayout where
  /-- The least power of ten of the first digit that is written with a leading zero and point. -/
  leastPositional : Int
  /-- The greatest power of ten of the first digit that is written positionally. -/
  greatestPositional : Int
  /-- The mark before a positive exponent. -/
  positiveMark : String
  /-- The mark before a negative exponent. -/
  negativeMark : String

namespace FloatLayout

/-- Digits without the zeros at their end. -/
def trimZeros (digits : List Char) : List Char :=
  (digits.reverse.dropWhile (· = '0')).reverse

/-- The text of digits whose first one counts `10 ^ exponent`. -/
def write (layout : FloatLayout) (allDigits : List Char) (exponent : Int) : String :=
  let digits := match trimZeros allDigits with
    | [] => ['0']
    | kept => kept
  if layout.leastPositional ≤ exponent && exponent ≤ layout.greatestPositional then
    if exponent < 0 then
      "0." ++ String.ofList (List.replicate (-exponent - 1).toNat '0' ++ digits)
    else
      let count := exponent.toNat + 1
      let whole := digits.take count ++ List.replicate (count - digits.length) '0'
      let fraction := match digits.drop count with
        | [] => ['0']
        | kept => kept
      String.ofList whole ++ "." ++ String.ofList fraction
  else
    let front := match digits with
      | [] => "0"
      | [only] => String.ofList [only]
      | first :: rest => String.ofList (first :: '.' :: rest)
    let mark := if exponent < 0 then layout.negativeMark else layout.positiveMark
    front ++ mark ++ toString exponent.natAbs

end FloatLayout

/-- The text of a finite number in a layout; zero keeps its sign. -/
def Binary64.text (layout : FloatLayout) (number : Binary64) : String :=
  let sign := if number.isNegative then "-" else ""
  if number.isZero then sign ++ "0.0"
  else
    let shortest := ShortestDecimal.of number.parts.1 number.parts.2
    sign ++ layout.write (Nat.toDigits 10 shortest.digits) shortest.exponent

end EventTransport.Number
