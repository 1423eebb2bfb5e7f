import EventTransport.Json.Document
import EventTransport.Json.NumberReading

/-!
Contract: JSON text read as a value.

Owns:
- `Json.readText`, a text after its opening quote, with its escapes;
- `Json.readDocument`, a whole text read as it stands;
- `Json.read`, a whole text read as the value that it denotes.

Values may stand at most `maxDepth` arrays and objects deep. A text that ends inside a value is
unfinished; every other departure from the grammar, text after the value included, is malformed.
-/

namespace EventTransport.Json

/-- How many arrays and objects may stand inside one another. -/
def maxDepth : Nat := 127

/-- The four characters that may stand between tokens. -/
def isSpace (char : Char) : Bool :=
  char = ' ' || char = '\n' || char = '\t' || char = '\r'

/-- A text without the spaces at its front. -/
def skipSpace (chars : List Char) : List Char := chars.dropWhile isSpace

def hexValue? (char : Char) : Option Nat :=
  if '0' ≤ char ∧ char ≤ '9' then some (char.toNat - '0'.toNat)
  else if 'a' ≤ char ∧ char ≤ 'f' then some (char.toNat - 'a'.toNat + 10)
  else if 'A' ≤ char ∧ char ≤ 'F' then some (char.toNat - 'A'.toNat + 10)
  else none

/-- How many bytes a text takes. -/
def byteCount (chars : List Char) : Nat :=
  chars.foldr (fun char total => char.utf8Size + total) 0

/-- Where the reader of a text stands between two characters. -/
inductive TextState where
  /-- Between characters of the text. -/
  | plain
  | escape
  /-- Among the four digits of a code unit, the second one of a pair if the first is given. -/
  | unit (first : Option Nat) (count value : Nat)
  /-- After the first code unit of a pair. -/
  | pair (first : Nat)
  /-- After the first code unit of a pair and a backslash. -/
  | pairEscape (first : Nat)

/-- What a backslash and a character stand for. -/
def escaped? (char : Char) : Option Char :=
  match char with
  | '"' => some '"'
  | '\\' => some '\\'
  | '/' => some '/'
  | 'b' => some '\x08'
  | 'f' => some '\x0c'
  | 'n' => some '\n'
  | 'r' => some '\r'
  | 't' => some '\t'
  | _ => none

/-- Whether a code unit is the first of a pair. -/
def isFirstUnit (unit : Nat) : Bool := 0xD800 ≤ unit && unit ≤ 0xDBFF

/-- Whether a code unit is the second of a pair. -/
def isSecondUnit (unit : Nat) : Bool := 0xDC00 ≤ unit && unit ≤ 0xDFFF

/-- The character of a pair of code units. -/
def pairChar (first second : Nat) : Char :=
  Char.ofNat (0x10000 + (first - 0xD800) * 0x400 + (second - 0xDC00))

/-- A finished code unit: the character it completes, or the first half of a pair. Half of a pair
does not stand alone. -/
def finishUnit (first : Option Nat) (unit : Nat) : Except Fault (Option Char × TextState) :=
  match first with
  | none =>
    if isSecondUnit unit then .error .malformed
    else if isFirstUnit unit then .ok (none, .pair unit)
    else .ok (some (Char.ofNat unit), .plain)
  | some high =>
    if isSecondUnit unit then .ok (some (pairChar high unit), .plain) else .error .malformed

/-- The characters up to the closing quote, gathered in reverse. A code unit needs four bytes of
text; if fewer are left, the text is unfinished rather than malformed. -/
def readText : TextState → List Char → List Char → Reading String
  | _, _, [] => .error .unfinished
  | .plain, gathered, char :: rest =>
    if char = '"' then .ok (String.ofList gathered.reverse, rest)
    else if char = '\\' then readText .escape gathered rest
    else if char.toNat < 0x20 then .error .malformed
    else readText .plain (char :: gathered) rest
  | .escape, gathered, char :: rest =>
    if char = 'u' then readText (.unit none 0 0) gathered rest
    else
      match escaped? char with
      | some meaning => readText .plain (meaning :: gathered) rest
      | none => .error .malformed
  | .unit first count value, gathered, char :: rest =>
    match hexValue? char with
    | none =>
      if count + byteCount (char :: rest) < 4 then .error .unfinished else .error .malformed
    | some digit =>
      if count < 3 then readText (.unit first (count + 1) (value * 16 + digit)) gathered rest
      else
        match finishUnit first (value * 16 + digit) with
        | .error fault => .error fault
        | .ok (none, state) => readText state gathered rest
        | .ok (some meaning, state) => readText state (meaning :: gathered) rest
  | .pair first, gathered, char :: rest =>
    if char = '\\' then readText (.pairEscape first) gathered rest else .error .malformed
  | .pairEscape first, gathered, char :: rest =>
    if char = 'u' then readText (.unit (some first) 0 0) gathered rest else .error .malformed

/-- The rest of a word whose first letter has been read. -/
def readWord (value : Document) : List Char → List Char → Reading Document
  | [], rest => .ok (value, rest)
  | _ :: _, [] => .error .unfinished
  | expected :: word, char :: rest =>
    if char = expected then readWord value word rest else .error .malformed

mutual

/-- A value at the front of a text, spaces before it skipped. The first argument bounds the number
of calls, the second the nesting. -/
def readValue : Nat → Nat → List Char → Reading Document
  | 0, _, _ => .error .malformed
  | fuel + 1, depth, chars =>
    match skipSpace chars with
    | [] => .error .unfinished
    | 'n' :: rest => readWord .null ['u', 'l', 'l'] rest
    | 't' :: rest => readWord (.bool true) ['r', 'u', 'e'] rest
    | 'f' :: rest => readWord (.bool false) ['a', 'l', 's', 'e'] rest
    | '"' :: rest =>
      match readText .plain [] rest with
      | .error fault => .error fault
      | .ok (text, after) => .ok (.text text, after)
    | '[' :: rest =>
      match depth with
      | 0 => .error .malformed
      | inner + 1 => readItems fuel inner true [] rest
    | '{' :: rest =>
      match depth with
      | 0 => .error .malformed
      | inner + 1 => readMembers fuel inner true [] rest
    | char :: rest =>
      if char = '-' || isDigit char then
        match readNumber (char :: rest) with
        | .error fault => .error fault
        | .ok (number, after) => .ok (.number number, after)
      else .error .malformed

/-- The items of an array after its bracket or an item, gathered in reverse. -/
def readItems : Nat → Nat → Bool → List Document → List Char → Reading Document
  | 0, _, _, _, _ => .error .malformed
  | fuel + 1, depth, first, gathered, chars =>
    match skipSpace chars with
    | [] => .error .unfinished
    | ']' :: rest => .ok (.array gathered.reverse, rest)
    | char :: rest =>
      if first then
        match readValue fuel depth (char :: rest) with
        | .error fault => .error fault
        | .ok (item, after) => readItems fuel depth false (item :: gathered) after
      else if char = ',' then
        match skipSpace rest with
        | [] => .error .unfinished
        | ']' :: _ => .error .malformed
        | next =>
          match readValue fuel depth next with
          | .error fault => .error fault
          | .ok (item, after) => readItems fuel depth false (item :: gathered) after
      else .error .malformed

/-- The members of an object after its brace or a member, gathered in reverse. -/
def readMembers : Nat → Nat → Bool → List (String × Document) → List Char → Reading Document
  | 0, _, _, _, _ => .error .malformed
  | fuel + 1, depth, first, gathered, chars =>
    match skipSpace chars with
    | [] => .error .unfinished
    | '}' :: rest => .ok (.object gathered.reverse, rest)
    | char :: rest =>
      if first then
        if char = '"' then readMember fuel depth gathered rest else .error .malformed
      else if char = ',' then
        match skipSpace rest with
        | [] => .error .unfinished
        | '"' :: next => readMember fuel depth gathered next
        | _ :: _ => .error .malformed
      else .error .malformed

/-- A member after the opening quote of its key, then the members after it. -/
def readMember : Nat → Nat → List (String × Document) → List Char → Reading Document
  | 0, _, _, _ => .error .malformed
  | fuel + 1, depth, gathered, chars =>
    match readText .plain [] chars with
    | .error fault => .error fault
    | .ok (key, afterKey) =>
      match skipSpace afterKey with
      | [] => .error .unfinished
      | ':' :: rest =>
        match readValue fuel depth rest with
        | .error fault => .error fault
        | .ok (value, after) => readMembers fuel depth false ((key, value) :: gathered) after
      | _ :: _ => .error .malformed

end

/-- A text read as one value, with nothing but spaces around it. Every call of a reader is answered
by a character of the text at most three times, so the number of calls is bounded by its length. -/
def readDocument (text : String) : Except Fault Document :=
  let chars := text.toList
  match readValue (3 * chars.length + 3) maxDepth chars with
  | .error fault => .error fault
  | .ok (document, rest) => if (skipSpace rest).isEmpty then .ok document else .error .malformed

/-- The value that a text denotes. -/
def read (text : String) : Except Fault Value :=
  match readDocument text with
  | .error fault => .error fault
  | .ok document => .ok document.value

end EventTransport.Json
