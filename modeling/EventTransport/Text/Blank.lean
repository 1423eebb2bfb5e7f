/-!
Contract: the characters that count as blank around a setting.

Owns:
- `isBlank`, the property `White_Space` of the Unicode standard;
- `trim`, a text without its leading and trailing blanks.

Main statements: white space of ASCII is blank, and a text without blanks is trimmed to itself.
-/

namespace EventTransport.Text

/-- The characters with the Unicode property `White_Space`. -/
def isBlank (char : Char) : Bool :=
  let code := char.toNat
  (0x9 ≤ code && code ≤ 0xD) || code = 0x20 || code = 0x85 || code = 0xA0 || code = 0x1680 ||
    (0x2000 ≤ code && code ≤ 0x200A) || code = 0x2028 || code = 0x2029 || code = 0x202F ||
    code = 0x205F || code = 0x3000

/-- The characters of a text from the first to the last one that is not blank. -/
def trimChars (chars : List Char) : List Char :=
  ((chars.dropWhile isBlank).reverse.dropWhile isBlank).reverse

def trim (text : String) : String :=
  String.ofList (trimChars text.toList)

/-- Every character that the core library calls white space is blank. -/
theorem isBlank_of_isWhitespace {char : Char} (white : char.isWhitespace = true) :
    isBlank char = true := by
  simp only [Char.isWhitespace, Bool.or_eq_true, decide_eq_true_eq] at white
  rcases white with ((rfl | rfl) | rfl) | rfl <;> decide

/-- A text without blanks at its ends is its own trimmed form. -/
theorem trimChars_eq_self {chars : List Char} (front : ∀ char ∈ chars, isBlank char = false) :
    trimChars chars = chars := by
  have keep (list : List Char) (clear : ∀ char ∈ list, isBlank char = false) :
      list.dropWhile isBlank = list := by
    cases list with
    | nil => rfl
    | cons head tail => simp [clear head (List.mem_cons_self ..)]
  unfold trimChars
  rw [keep chars front, keep chars.reverse
    (fun char inside => front char (List.mem_reverse.mp inside)),
    List.reverse_reverse]

end EventTransport.Text
