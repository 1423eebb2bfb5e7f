import EventTransport.Number.Binary64
import EventTransport.Number.Positional
import EventTransport.Number.Whole

/-!
Contract: floating-point numbers read from decimal text.

Owns:
- `Decimal`, digits with a power of ten;
- `Decimal.read?`, digits, at most one point among or beside them, and an optional exponent;
- `readFloat`, a sign and a decimal or one of the words for infinity and no-number.

A decimal is read as the binary number nearest to it, a tie going to the even one. The digits of an
exponent count until it is beyond every use.
-/

namespace EventTransport.Number

/-- `significand * 10 ^ exponent`. -/
structure Decimal where
  significand : Nat
  exponent : Int
deriving DecidableEq

def isDigit (char : Char) : Bool := '0' ≤ char && char ≤ '9'

namespace Decimal

/-- An exponent that has reached this takes no further digits. -/
def longExponent : Nat := 65536

/-- The number that the digits of an exponent denote. Digits that follow when it has become long do
not count. -/
def exponentValue (digits : List Char) : Nat :=
  digits.foldl
    (fun value char => if value < longExponent then value * 10 + digitValue char else value) 0

/-- The digits of an exponent, at least one of them and nothing else. -/
def exponentDigits? (chars : List Char) : Option Nat :=
  if chars.isEmpty || chars.any (fun char => !isDigit char) then none
  else some (exponentValue chars)

/-- What follows the digits: nothing, or a marked exponent with an optional sign. -/
def readExponent? : List Char → Option Int
  | [] => some 0
  | mark :: rest =>
    if mark = 'e' || mark = 'E' then
      match rest with
      | '+' :: digits => (exponentDigits? digits).map Int.ofNat
      | '-' :: digits => (exponentDigits? digits).map fun value => -Int.ofNat value
      | digits => (exponentDigits? digits).map Int.ofNat
    else none

/-- Digits with at most one point, at least one digit in all, then an optional exponent. -/
def read? (chars : List Char) : Option Decimal :=
  let whole := chars.takeWhile isDigit
  let (fraction, rest) :=
    match chars.dropWhile isDigit with
    | '.' :: tail => (tail.takeWhile isDigit, tail.dropWhile isDigit)
    | tail => ([], tail)
  if whole.isEmpty && fraction.isEmpty then none
  else
    (readExponent? rest).map fun exponent =>
      ⟨digitsValue (whole ++ fraction), exponent - fraction.length⟩

/-- About how many decimal digits a number has. -/
def digitCount (number : Nat) : Nat := number.log2 * 30103 / 100000 + 1

/-- The nearest number. Powers of ten far outside the range of the format are not computed. -/
def toBinary64 (decimal : Decimal) : Binary64 :=
  if decimal.significand = 0 then Binary64.zero
  else
    let leading := digitCount decimal.significand + decimal.exponent
    if 400 < leading then Binary64.infinity
    else if leading < -400 then Binary64.zero
    else Binary64.ofDecimal decimal.significand decimal.exponent

end Decimal

/-- The words for numbers that have no digits, in any case of their ASCII letters. -/
def floatWord? (chars : List Char) : Option Binary64 :=
  let word := String.ofList (chars.map Char.toLower)
  if word = "nan" then some Binary64.nan
  else if word = "inf" || word = "infinity" then some Binary64.infinity
  else none

/-- The magnitude that a text without sign denotes. -/
def readMagnitude? (chars : List Char) : Option Binary64 :=
  match Decimal.read? chars with
  | some decimal => some decimal.toBinary64
  | none => floatWord? chars

/-- The floating-point number that a text denotes. -/
def readFloat (text : String) : Except ReadFault Binary64 :=
  match text.toList with
  | [] => .error .emptyFloat
  | '-' :: rest =>
    match readMagnitude? rest with
    | some magnitude => .ok magnitude.negate
    | none => .error .badFloat
  | chars =>
    match readMagnitude? (if chars.head? = some '+' then chars.tail else chars) with
    | some magnitude => .ok magnitude
    | none => .error .badFloat

end EventTransport.Number
