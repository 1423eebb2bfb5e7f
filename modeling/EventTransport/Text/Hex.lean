/-!
Contract: numbers written in base sixteen.

Owns:
- `hex`, the shortest lower-case form of a number;
- `hexPadded`, the same filled up with zeros to a width.
-/

namespace EventTransport.Text

/-- The lower-case hexadecimal digits of a number, without leading zeros. -/
def hex (value : Nat) : String :=
  String.ofList (Nat.toDigits 16 value)

/-- The lower-case hexadecimal digits of a number, at least `width` of them. -/
def hexPadded (width value : Nat) : String :=
  let digits := Nat.toDigits 16 value
  String.ofList (List.replicate (width - digits.length) '0' ++ digits)

end EventTransport.Text
