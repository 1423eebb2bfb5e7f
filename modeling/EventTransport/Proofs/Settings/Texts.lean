import EventTransport.Proofs.Number.Decimal
import EventTransport.Settings.Config
import Mathlib.Data.List.TakeWhile

/-!
Contract: the texts that stand for the values of settings.

Owns:
- `Text.Strips`, a text beside what is left of it without the blanks at its ends;
- `Config.WritesSize` and `Config.DenotesSize`, sizes in decimal;
- `Config.DenotesSwitch`, the words for truth values, in any case;
- that texts are read as what they stand for, and that no others are read.

Does not own: which setting reads what.
-/

namespace EventTransport

open EventTransport.Number

/-! ### Blanks at the ends -/

namespace Text

/-- What is left of a text without the blanks at its ends. -/
structure Strips (chars core : List Char) : Prop where
  split : ∃ front back, chars = front ++ core ++ back ∧ (∀ char ∈ front, isBlank char = true) ∧
    ∀ char ∈ back, isBlank char = true
  head : ∀ char, core.head? = some char → isBlank char = false
  last : ∀ char, core.getLast? = some char → isBlank char = false

theorem dropWhile_isBlank_append {front rest : List Char}
    (blank : ∀ char ∈ front, isBlank char = true)
    (clear : ∀ char, rest.head? = some char → isBlank char = false) :
    (front ++ rest).dropWhile isBlank = rest := by
  rw [List.dropWhile_append_of_pos blank]
  cases rest with
  | nil => rfl
  | cons char rest => rw [List.dropWhile_cons_of_neg (by simp [clear char rfl])]

theorem isBlank_of_head?_dropWhile {chars : List Char} {char : Char}
    (first : (chars.dropWhile isBlank).head? = some char) : isBlank char = false := by
  have stopped := List.head?_dropWhile_not isBlank chars
  rw [first] at stopped
  exact stopped

theorem strips_trimChars (chars : List Char) : Strips chars (trimChars chars) := by
  let behind := chars.dropWhile isBlank
  let back := (behind.reverse.takeWhile isBlank).reverse
  have isBehind : behind = trimChars chars ++ back := by
    calc behind = (behind.reverse.takeWhile isBlank ++
      behind.reverse.dropWhile isBlank).reverse := by
          rw [List.takeWhile_append_dropWhile, List.reverse_reverse]
      _ = trimChars chars ++ back := List.reverse_append
  refine ⟨⟨chars.takeWhile isBlank, back, ?_, ?_, ?_⟩, ?_, ?_⟩
  · rw [List.append_assoc, ← isBehind]
    exact List.takeWhile_append_dropWhile.symm
  · exact fun char inside => List.mem_takeWhile_imp inside
  · exact fun char inside => List.mem_takeWhile_imp (List.mem_reverse.mp inside)
  · intro char first
    have front : behind.head? = some char := by
      rw [isBehind, List.head?_append, first]
      rfl
    exact isBlank_of_head?_dropWhile front
  · intro char final
    unfold trimChars at final
    rw [List.getLast?_reverse] at final
    exact isBlank_of_head?_dropWhile final

/-- There is only one way to strip a text. -/
theorem Strips.eq_trimChars {chars core : List Char} (strips : Strips chars core) :
    core = trimChars chars := by
  obtain ⟨front, back, rfl, blankFront, blankBack⟩ := strips.split
  have blankEnd : ∀ char ∈ back.reverse, isBlank char = true :=
    fun char inside => blankBack char (List.mem_reverse.mp inside)
  unfold trimChars
  rw [List.append_assoc]
  cases core with
  | nil =>
      have none : (front ++ back).dropWhile isBlank = [] := by
        rw [List.dropWhile_append_of_pos blankFront, ← List.append_nil back]
        exact dropWhile_isBlank_append blankBack (fun char first => nomatch first)
      rw [List.nil_append, none]
      rfl
  | cons first core =>
      have behind : (front ++ (first :: core ++ back)).dropWhile isBlank = first :: core ++ back :=
        dropWhile_isBlank_append blankFront strips.head
      rw [behind, List.reverse_append, dropWhile_isBlank_append blankEnd, List.reverse_reverse]
      rw [List.head?_reverse]
      exact strips.last

theorem strips_iff {chars core : List Char} : Strips chars core ↔ core = trimChars chars :=
  ⟨Strips.eq_trimChars, fun same => same ▸ strips_trimChars chars⟩

theorem isBlank_of_between {char : Char} (above : 0x20 < char.toNat) (below : char.toNat < 0x85) :
    isBlank char = false := by
  simp only [isBlank, Bool.or_eq_false_iff, Bool.and_eq_false_iff, decide_eq_false_iff_not]
  omega

theorem isBlank_of_isDigit {char : Char} (digit : char.isDigit = true) : isBlank char = false := by
  have between := toNat_of_isDigit digit
  exact isBlank_of_between (by omega) (by omega)

/-- A letter is no blank in either case. -/
theorem isBlank_toLower (char : Char) : isBlank char.toLower = isBlank char := by
  unfold Char.toLower
  split
  · rename_i upper
    have between : 65 ≤ char.toNat ∧ char.toNat ≤ 90 := by
      simpa [UInt32.le_iff_toNat_le] using upper
    have code : (char.val + ('a'.val - 'A'.val)).toNat = char.toNat + 32 := by
      rw [UInt32.toNat_add]
      exact Nat.mod_eq_of_lt (by show char.toNat + 32 < _; omega)
    have above : 0x20 < (char.val + ('a'.val - 'A'.val)).toNat := by omega
    have below : (char.val + ('a'.val - 'A'.val)).toNat < 0x85 := by omega
    have visible : isBlank char = false := isBlank_of_between (by omega) (by omega)
    refine Eq.trans (isBlank_of_between ?_ ?_) visible.symm
    · exact above
    · exact below
  · rfl

theorem trimChars_map_toLower (chars : List Char) :
    trimChars (chars.map Char.toLower) = (trimChars chars).map Char.toLower := by
  have same : isBlank ∘ Char.toLower = isBlank := funext isBlank_toLower
  unfold trimChars
  rw [List.dropWhile_map, ← List.map_reverse, List.dropWhile_map, same, List.map_reverse]

end Text

/-! ### Sizes and switches -/

namespace Config

/-- A number of sixty-four bits in decimal, one ASCII digit or more. -/
structure IsNumeral (digits : List Char) (size : Nat) : Prop where
  some : digits ≠ []
  ascii : ∀ char ∈ digits, char.isDigit = true
  value : Nat.ofDigitChars 10 digits 0 = size
  fits : size < 2 ^ 64

/-- A numeral, which may have a plus sign before it. -/
def WritesSize (chars : List Char) (size : Nat) : Prop :=
  ∃ digits, (chars = digits ∨ chars = '+' :: digits) ∧ IsNumeral digits size

/-- A text that stands for a size, between blanks. -/
def DenotesSize (text : String) (size : Nat) : Prop :=
  ∃ core, Text.Strips text.toList core ∧ WritesSize core size

/-- A text that stands for a truth value, between blanks, its letters in any case. -/
def DenotesSwitch (text : String) (switch : Bool) : Prop :=
  ∃ core, Text.Strips text.toList core ∧ core.map Char.toLower = (toString switch).toList

theorem readDigits_eq_ok_iff_isNumeral {digits : List Char} (some : digits ≠ []) {value : Int} :
    sizes.readDigits false 0 digits = .ok value ↔
      ∃ size : Nat, IsNumeral digits size ∧ value = size := by
  have start : (0 : Nat) < 2 ^ 64 := by decide
  refine (WholeRange.readDigits_eq_ok_iff start).trans ⟨?_, ?_⟩
  · rintro ⟨ascii, rfl, fits⟩
    exact ⟨_, ⟨some, ascii, rfl, fits⟩, rfl⟩
  · rintro ⟨size, numeral, rfl⟩
    have value := numeral.value
    exact ⟨numeral.ascii, by rw [value], by rw [value]; exact numeral.fits⟩

theorem not_isNumeral_of_head {char : Char} (other : char.isDigit = false) (rest : List Char)
    (size : Nat) : ¬IsNumeral (char :: rest) size := by
  intro numeral
  have digit := numeral.ascii char List.mem_cons_self
  rw [other] at digit
  cases digit

theorem writesSize_plus {digits : List Char} {size : Nat} :
    WritesSize ('+' :: digits) size ↔ IsNumeral digits size := by
  constructor
  · rintro ⟨others, rfl | same, numeral⟩
    · exact absurd numeral (not_isNumeral_of_head rfl digits size)
    · cases same
      exact numeral
  · exact fun numeral => ⟨digits, .inr rfl, numeral⟩

theorem writesSize_of_head {chars : List Char} (bare : chars.head? ≠ some '+') {size : Nat} :
    WritesSize chars size ↔ IsNumeral chars size := by
  constructor
  · rintro ⟨digits, rfl | rfl, numeral⟩
    · exact numeral
    · exact absurd rfl bare
  · exact fun numeral => ⟨chars, .inl rfl, numeral⟩

theorem readChars_eq_ok_iff {chars : List Char} {value : Int} :
    sizes.readChars chars = .ok value ↔ ∃ size : Nat, WritesSize chars size ∧ value = size := by
  have refused {fault : ReadFault} (none : ∀ size, ¬WritesSize chars size) :
      (Except.error fault : Except ReadFault Int) = .ok value ↔
        ∃ size : Nat, WritesSize chars size ∧ value = size :=
    ⟨fun read => (nomatch read), fun ⟨size, writes, _⟩ => absurd writes (none size)⟩
  have minus (rest : List Char) (size : Nat) : ¬WritesSize ('-' :: rest) size := by
    rw [writesSize_of_head (by simp)]
    exact not_isNumeral_of_head rfl rest size
  unfold WholeRange.readChars
  split
  · refine refused fun size writes => ?_
    exact ((writesSize_of_head (by simp)).mp writes).some rfl
  · exact refused fun size writes => (writesSize_plus.mp writes).some rfl
  · exact refused (minus [])
  · rename_i digits alone
    simp only [writesSize_plus]
    exact readDigits_eq_ok_iff_isNumeral alone
  · rename_i rest _
    rw [if_neg (by decide)]
    exact refused (minus rest)
  · rename_i empty _ _ unsigned _
    have bare : chars.head? ≠ some '+' := by
      intro first
      obtain ⟨digits, split⟩ := List.head?_eq_some_iff.mp first
      exact unsigned digits split
    simp only [writesSize_of_head bare]
    exact readDigits_eq_ok_iff_isNumeral empty

theorem readSize_eq_ok_iff {text : String} {size : Nat} :
    readSize text = .ok size ↔ DenotesSize text size := by
  have read : readSize text = .ok size ↔
      ∃ value, sizes.readChars (Text.trimChars text.toList) = .ok value ∧ value.toNat = size := by
    unfold readSize WholeRange.read Text.trim
    rw [String.toList_ofList]
    cases sizes.readChars (Text.trimChars text.toList) with
    | error fault => simp
    | ok value => simp
  unfold DenotesSize
  simp only [read, readChars_eq_ok_iff, Text.strips_iff, exists_eq_left]
  constructor
  · rintro ⟨value, ⟨written, writes, rfl⟩, rfl⟩
    exact writes
  · exact fun writes => ⟨size, ⟨size, writes, rfl⟩, rfl⟩

theorem DenotesSize.unique {text : String} {size other : Nat} (denotes : DenotesSize text size)
    (denotesOther : DenotesSize text other) : size = other :=
  Except.ok.inj ((readSize_eq_ok_iff.mpr denotes).symm.trans (readSize_eq_ok_iff.mpr denotesOther))

theorem readSwitch_eq_ok_iff {text : String} {switch : Bool} :
    readSwitch text = .ok switch ↔ DenotesSwitch text switch := by
  have lower : Text.trim text.toLower =
      String.ofList ((Text.trimChars text.toList).map Char.toLower) := by
    unfold Text.trim String.toLower
    rw [String.toList_map, Text.trimChars_map_toLower]
  unfold DenotesSwitch readSwitch
  simp only [lower, Text.strips_iff, exists_eq_left]
  rw [readBool_eq_ok_iff, ← String.toList_inj, String.toList_ofList]

end Config

end EventTransport
