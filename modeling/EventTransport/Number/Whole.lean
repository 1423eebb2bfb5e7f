/-!
Contract: whole numbers and truth values read from decimal text.

Owns:
- `WholeRange`, the numbers that a type of whole numbers holds;
- `WholeRange.read`, an optional sign and ASCII digits read into a range;
- `readBool`, the two words for a truth value;
- `ReadFault`, why a text is refused, and its wording.

The first fault from the left is the one that is reported.

Main statement: what is read lies in the range.

Does not own: trimming, fractions, exponents.
-/

namespace EventTransport.Number

/-- Why a text is not read as a value. -/
inductive ReadFault where
  | emptyInteger
  | badDigit
  | tooLarge
  | tooSmall
  | notABoolean
  | emptyCharacter
  | severalCharacters
  | emptyFloat
  | badFloat
deriving DecidableEq

def ReadFault.message : ReadFault → String
  | .emptyInteger => "cannot parse integer from empty string"
  | .badDigit => "invalid digit found in string"
  | .tooLarge => "number too large to fit in target type"
  | .tooSmall => "number too small to fit in target type"
  | .notABoolean => "provided string was not `true` or `false`"
  | .emptyCharacter => "cannot parse char from empty string"
  | .severalCharacters => "too many characters in string"
  | .emptyFloat => "cannot parse float from empty string"
  | .badFloat => "invalid float literal"

/-- The numbers from `low` to `high`. -/
structure WholeRange where
  low : Int
  high : Int
deriving DecidableEq

namespace WholeRange

/-- The numbers of an unsigned word of the given width. -/
def unsigned (bits : Nat) : WholeRange := ⟨0, (Nat.pow 2 bits : Nat) - 1⟩

/-- The numbers of a two's complement word of the given width. -/
def signed (bits : Nat) : WholeRange :=
  ⟨-(Nat.pow 2 (bits - 1) : Nat), (Nat.pow 2 (bits - 1) : Nat) - 1⟩

def Contains (range : WholeRange) (value : Int) : Prop :=
  range.low ≤ value ∧ value ≤ range.high

instance (range : WholeRange) (value : Int) : Decidable (range.Contains value) :=
  inferInstanceAs (Decidable (_ ∧ _))

end WholeRange

def digitValue? (char : Char) : Option Nat :=
  if '0' ≤ char ∧ char ≤ '9' then some (char.toNat - '0'.toNat) else none

namespace WholeRange

/-- Digits appended to `value`, away from zero; the range is checked after each of them. -/
def readDigits (range : WholeRange) (negative : Bool) : Int → List Char → Except ReadFault Int
  | value, [] => .ok value
  | value, char :: rest =>
    match digitValue? char with
    | none => .error .badDigit
    | some digit =>
      let next := if negative then value * 10 - digit else value * 10 + digit
      if range.high < next then .error .tooLarge
      else if next < range.low then .error .tooSmall
      else range.readDigits negative next rest

/-- An optional sign, then one digit or more. A minus sign is a sign only in a range that has
negative numbers. -/
def readChars (range : WholeRange) : List Char → Except ReadFault Int
  | [] => .error .emptyInteger
  | ['+'] => .error .badDigit
  | ['-'] => .error .badDigit
  | '+' :: digits => range.readDigits false 0 digits
  | '-' :: digits =>
    if range.low < 0 then range.readDigits true 0 digits else .error .badDigit
  | digits => range.readDigits false 0 digits

/-- The number that a text denotes. -/
def read (range : WholeRange) (text : String) : Except ReadFault Int :=
  range.readChars text.toList

/-- What digits are read as lies in the range, if the number before them does. -/
theorem contains_of_readDigits {range : WholeRange} {negative : Bool} {digits : List Char}
    {start value : Int} (inside : range.Contains start)
    (read : range.readDigits negative start digits = .ok value) : range.Contains value := by
  induction digits generalizing start with
  | nil => cases read; exact inside
  | cons char rest inductionHypothesis =>
    simp only [readDigits] at read
    split at read
    · cases read
    · rename_i digit _
      generalize (if negative = true then start * 10 - (digit : Int) else start * 10 + digit) = next
        at read
      split at read
      · cases read
      · split at read
        · cases read
        · exact inductionHypothesis ⟨by omega, by omega⟩ read

/-- What a text is read as lies in the range. -/
theorem contains_of_read {range : WholeRange} {text : String} {value : Int}
    (zero : range.Contains 0) (read : range.read text = .ok value) : range.Contains value := by
  unfold WholeRange.read readChars at read
  split at read
  · cases read
  · cases read
  · cases read
  · exact contains_of_readDigits zero read
  · split at read
    · exact contains_of_readDigits zero read
    · cases read
  · exact contains_of_readDigits zero read

end WholeRange

/-- The truth value that a word stands for. -/
def readBool (text : String) : Except ReadFault Bool :=
  if text = "true" then .ok true
  else if text = "false" then .ok false
  else .error .notABoolean

/-- The only character of a text. -/
def readChar (text : String) : Except ReadFault Char :=
  match text.toList with
  | [] => .error .emptyCharacter
  | [char] => .ok char
  | _ => .error .severalCharacters

end EventTransport.Number
