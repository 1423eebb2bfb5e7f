import EventTransport.Number.Shortest
import EventTransport.Text.Keyed

/-!
Contract: the values that JSON text denotes.

Owns:
- `Json.Number`, whole numbers of sixty-four bits apart from floating-point ones, and their text;
- `Json.Value`, with the members of an object in the byte order of their keys, each key once;
- `Json.Fault`, the two ways in which a text fails to be JSON.

Does not own: reading text.
-/

namespace EventTransport.Json

open EventTransport.Number

/-- A number: whole ones keep all their digits. -/
inductive Number where
  | natural (value : Nat)
  | negative (value : Int)
  | float (value : Binary64)
deriving DecidableEq

/-- Positional between `1e-5` and `1e16`, with a point in any case; else one digit before the
point and a signed exponent. -/
def floatLayout : FloatLayout := ⟨-5, 15, "e+", "e-"⟩

def Number.text : Number → String
  | .natural value => toString value
  | .negative value => toString value
  | .float value => value.text floatLayout

inductive Value where
  | null
  | bool (value : Bool)
  | number (value : Number)
  | text (value : String)
  | array (items : List Value)
  | object (members : List (String × Value))

/-- Why a text is not JSON: it breaks a rule, or it ends in the middle of a value. -/
inductive Fault where
  | malformed
  | unfinished
deriving DecidableEq

end EventTransport.Json
