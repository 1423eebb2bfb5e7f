import EventTransport.Json.Value

/-!
Contract: numbers in JSON text.

Owns:
- `Json.readNumber`, a number at the front of a text and what follows it;
- `Json.floatOfParts`, a significand with a power of ten as a floating-point number.

The digits of a number are gathered in a significand of sixty-four bits; digits that no longer fit
count only for their place. A fraction or an exponent makes the number a floating-point one: the
significand is rounded, then multiplied or divided by the rounded power of ten, so the result may
differ from the nearest number in the last place. A number above the greatest finite one is
refused.
-/

namespace EventTransport.Json

open EventTransport.Number

/-- What a reader gives: a value and the text after it, or a fault. -/
abbrev Reading (α : Type) := Except Fault (α × List Char)

def maxSignificand : Nat := 18446744073709551615

/-- The greatest power of ten that is a finite number. -/
def maxPower : Nat := 308

def isDigit (char : Char) : Bool := '0' ≤ char && char ≤ '9'

def digitValue (char : Char) : Nat := char.toNat - '0'.toNat

/-- Division by `10 ^ power`, in steps that are finite numbers. -/
def divideByPower (number : Binary64) (power : Nat) : Binary64 :=
  if maxPower < power then
    if number.isZero then number
    else divideByPower (number.div (Binary64.ofNat (Nat.pow 10 maxPower))) (power - maxPower)
  else number.div (Binary64.ofNat (Nat.pow 10 power))
termination_by power
decreasing_by
  have : 0 < maxPower := by decide
  omega

/-- `significand * 10 ^ exponent`, the factors and the result rounded in turn. -/
def floatOfParts (significand : Nat) (exponent : Int) : Except Fault Binary64 :=
  let number := Binary64.ofNat significand
  if exponent < 0 then .ok (divideByPower number (-exponent).toNat)
  else if exponent.toNat ≤ maxPower then
    let product := number.mul (Binary64.ofNat (Nat.pow 10 exponent.toNat))
    if product.isInfinite then .error .malformed else .ok product
  else if number.isZero then .ok number
  else .error .malformed

/-- The floating-point number with a sign. -/
def signedFloat (negative : Bool) (number : Binary64) : Number :=
  .float (if negative then number.negate else number)

/-- A finished floating-point number before the rest of the text. -/
def finishFloat (negative : Bool) (significand : Nat) (exponent : Int) (rest : List Char) :
    Reading Number :=
  match floatOfParts significand exponent with
  | .error fault => .error fault
  | .ok number => .ok (signedFloat negative number, rest)

/-- The greatest exponent that is read digit by digit. -/
def maxExponent : Nat := 2147483647

/-- The digits of an exponent, the first of which has been read. An exponent too large to hold is
refused if it is positive and the significand is not zero, and else makes the number zero. -/
def readExponentDigits (negative below : Bool) (significand : Nat) (start : Int) :
    Nat → List Char → Reading Number
  | value, [] => finishFloat negative significand
      (if below then start - value else start + value) []
  | value, char :: rest =>
    if isDigit char then
      if maxExponent < value * 10 + digitValue char then
        if significand ≠ 0 && !below then .error .malformed
        else .ok (signedFloat negative Binary64.zero, rest.dropWhile isDigit)
      else
        readExponentDigits negative below significand start (value * 10 + digitValue char) rest
    else
      finishFloat negative significand (if below then start - value else start + value)
        (char :: rest)

/-- What follows the mark and the sign of an exponent: one digit at least. -/
def readExponentBody (negative below : Bool) (significand : Nat) (start : Int) :
    List Char → Reading Number
  | [] => .error .unfinished
  | char :: rest =>
    if isDigit char then
      readExponentDigits negative below significand start (digitValue char) rest
    else .error .malformed

/-- What follows the mark of an exponent: an optional sign and digits. -/
def readExponent (negative : Bool) (significand : Nat) (start : Int) : List Char → Reading Number
  | '+' :: rest => readExponentBody negative false significand start rest
  | '-' :: rest => readExponentBody negative true significand start rest
  | rest => readExponentBody negative false significand start rest

/-- The end of the digits: an exponent, or the end of the number. -/
def afterDigits (negative : Bool) (significand : Nat) (exponent : Int) : List Char → Reading Number
  | char :: rest =>
    if char = 'e' || char = 'E' then readExponent negative significand exponent rest
    else finishFloat negative significand exponent (char :: rest)
  | [] => finishFloat negative significand exponent []

/-- The digits after a point; `places` of them have been read. -/
def readFraction (negative : Bool) (before : Int) : Nat → Nat → List Char → Reading Number
  | significand, places, [] =>
    if places = 0 then .error .unfinished
    else afterDigits negative significand (before - places) []
  | significand, places, char :: rest =>
    if isDigit char then
      if maxSignificand < significand * 10 + digitValue char then
        afterDigits negative significand (before - places) (rest.dropWhile isDigit)
      else readFraction negative before (significand * 10 + digitValue char) (places + 1) rest
    else if places = 0 then .error .malformed
    else afterDigits negative significand (before - places) (char :: rest)

/-- The end of a whole part that no longer fits: `places` digits count only for their place. -/
def afterLongWhole (negative : Bool) (significand places : Nat) : List Char → Reading Number
  | '.' :: rest => readFraction negative places significand 0 rest
  | rest => afterDigits negative significand places rest

/-- A whole number with its sign; beyond the least sixty-four-bit number, and for a negative zero,
it is a floating-point number. -/
def wholeNumber (negative : Bool) (significand : Nat) : Number :=
  if negative then
    if 1 ≤ significand && significand ≤ 9223372036854775808 then .negative (-significand)
    else signedFloat true (Binary64.ofNat significand)
  else .natural significand

/-- The end of a whole part that fits: a fraction, an exponent, or the end of the number. -/
def afterWhole (negative : Bool) (significand : Nat) : List Char → Reading Number
  | [] => .ok (wholeNumber negative significand, [])
  | char :: rest =>
    if char = '.' then readFraction negative 0 significand 0 rest
    else if char = 'e' || char = 'E' then readExponent negative significand 0 rest
    else .ok (wholeNumber negative significand, char :: rest)

/-- The digits of a whole part after its first one. -/
def readWhole (negative : Bool) : Nat → List Char → Reading Number
  | significand, [] => afterWhole negative significand []
  | significand, char :: rest =>
    if isDigit char then
      if maxSignificand < significand * 10 + digitValue char then
        let places := 1 + (rest.takeWhile isDigit).length
        afterLongWhole negative significand places (rest.dropWhile isDigit)
      else readWhole negative (significand * 10 + digitValue char) rest
    else afterWhole negative significand (char :: rest)

/-- A number after its sign. A leading zero stands alone. -/
def readUnsigned (negative : Bool) : List Char → Reading Number
  | [] => .error .unfinished
  | char :: rest =>
    if char = '0' then
      if rest.head?.any isDigit then .error .malformed else afterWhole negative 0 rest
    else if isDigit char then readWhole negative (digitValue char) rest
    else .error .malformed

def readNumber : List Char → Reading Number
  | '-' :: rest => readUnsigned true rest
  | rest => readUnsigned false rest

end EventTransport.Json
