/-!
Contract: byte strings and the big-endian words that frames are laid out with.

Owns:
- `Bytes`, the byte strings of this library;
- `Bytes.word`, the four bytes of a number, most significant first;
- `Bytes.wordValue`, the number that four bytes stand for.

Main statements: four bytes stand for a number below `2 ^ 32`, and each such number is read back
from its own four bytes.

Does not own: checksums, text.
-/

namespace EventTransport

abbrev Bytes := List UInt8

namespace Bytes

/-- The four bytes of `value` modulo `2 ^ 32`, most significant first. -/
def word (value : Nat) : Bytes :=
  [UInt8.ofNat (value / 16777216), UInt8.ofNat (value / 65536), UInt8.ofNat (value / 256),
    UInt8.ofNat value]

/-- The number that four bytes stand for, most significant first. -/
def wordValue (first second third fourth : UInt8) : Nat :=
  first.toNat * 16777216 + second.toNat * 65536 + third.toNat * 256 + fourth.toNat

@[simp] theorem length_word (value : Nat) : (word value).length = 4 := rfl

theorem wordValue_lt (first second third fourth : UInt8) :
    wordValue first second third fourth < 4294967296 := by
  have := first.toNat_lt
  have := second.toNat_lt
  have := third.toNat_lt
  have := fourth.toNat_lt
  unfold wordValue
  omega

/-- A number below `2 ^ 32` is read back from its own bytes. -/
theorem wordValue_word {value : Nat} (small : value < 4294967296) :
    wordValue (UInt8.ofNat (value / 16777216)) (UInt8.ofNat (value / 65536))
      (UInt8.ofNat (value / 256)) (UInt8.ofNat value) = value := by
  unfold wordValue
  simp only [UInt8.toNat_ofNat']
  omega

/-- Four bytes are the word of the number they stand for. -/
theorem word_wordValue (first second third fourth : UInt8) :
    word (wordValue first second third fourth) = [first, second, third, fourth] := by
  have := first.toNat_lt
  have := second.toNat_lt
  have := third.toNat_lt
  have := fourth.toNat_lt
  simp only [word, wordValue, List.cons.injEq, and_true, ← UInt8.toNat_inj, UInt8.toNat_ofNat']
  omega

end Bytes

end EventTransport
