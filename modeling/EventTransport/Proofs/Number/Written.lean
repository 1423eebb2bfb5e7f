import EventTransport.Proofs.Number.Decimal

/-!
Contract: whole numbers read back from the text that they are written as.

Owns:
- `withSign`, a number with its sign, and the digits of such a number read into any range;
- `WholeRange.refusal`, why a range refuses the text of a number;
- `WholeRange.read_toString`, by which a range reads the text of a number exactly if it holds the
  number.

Does not own: texts that no number is written as.
-/

namespace EventTransport.Number

/-- A number away from zero, on one side or the other. -/
def withSign (negative : Bool) (size : Nat) : Int := if negative then -(size : Int) else size

theorem withSign_next (negative : Bool) (size digit : Nat) :
    (if negative then withSign negative size * 10 - digit
      else withSign negative size * 10 + digit) =
      withSign negative (10 * size + digit) := by
  unfold withSign
  cases negative with
  | true =>
      simp only [if_true]
      omega
  | false =>
      simp only [Bool.false_eq_true, if_false]
      omega

/-! ### The text of a number -/

theorem toList_toString_natCast (size : Nat) :
    (toString (size : Int)).toList = Nat.toDigits 10 size := by
  show (Nat.repr size).toList = _
  exact Nat.toList_repr

theorem toList_toString_neg {size : Nat} (positive : 0 < size) :
    (toString (-(size : Int))).toList = '-' :: Nat.toDigits 10 size := by
  obtain ⟨before, rfl⟩ := Nat.exists_eq_succ_of_ne_zero (Nat.ne_of_gt positive)
  show ("-" ++ Nat.repr (before + 1)).toList = _
  rw [String.toList_append, Nat.toList_repr]
  rfl

namespace WholeRange

/-- Why the text of a number outside a range is refused. A minus sign is no digit. -/
def refusal (range : WholeRange) (value : Int) : ReadFault :=
  if 0 ≤ value then .tooLarge else if range.low < 0 then .tooSmall else .badDigit

/-- What a range makes of the text of a number. -/
def reading (range : WholeRange) (value : Int) : Except ReadFault Int :=
  if range.Contains value then .ok value else .error (range.refusal value)

variable {range : WholeRange}

/-- Between zero and a number that a range holds there is none that it does not hold. -/
theorem contains_withSign_of_le (zero : range.Contains 0) {negative : Bool} {size more : Nat}
    (grown : size ≤ more) (inside : range.Contains (withSign negative more)) :
    range.Contains (withSign negative size) := by
  unfold Contains withSign at *
  cases negative with
  | true =>
      simp only [if_true] at *
      omega
  | false =>
      simp only [Bool.false_eq_true, if_false] at *
      omega

/-- Digits are read as long as their number fits; the side on which it does not is the fault. -/
theorem readDigits_withSign (zero : range.Contains 0) (negative : Bool) {digits : List Char}
    (ascii : ∀ char ∈ digits, char.isDigit = true) {start : Nat}
    (inside : range.Contains (withSign negative start)) :
    range.readDigits negative (withSign negative start) digits =
      if range.Contains (withSign negative (Nat.ofDigitChars 10 digits start)) then
        .ok (withSign negative (Nat.ofDigitChars 10 digits start))
      else .error (if negative then .tooSmall else .tooLarge) := by
  induction digits generalizing start with
  | nil => rw [readDigits, Nat.ofDigitChars_nil, if_pos inside]
  | cons char rest inductionHypothesis =>
      obtain ⟨digit, later⟩ := List.forall_mem_cons.mp ascii
      rw [readDigits, digitValue?_eq, if_pos digit, Nat.ofDigitChars_cons]
      simp only [withSign_next]
      generalize 10 * start + (char.toNat - '0'.toNat) = next
      by_cases fits : range.Contains (withSign negative next)
      · rw [if_neg (Int.not_lt.mpr fits.2), if_neg (Int.not_lt.mpr fits.1)]
        exact inductionHypothesis later fits
      · -- What does not fit now does not fit with more digits behind it either.
        have beyond : ¬range.Contains (withSign negative (Nat.ofDigitChars 10 rest next)) :=
          fun whole => fits (contains_withSign_of_le zero (le_ofDigitChars rest next) whole)
        rw [if_neg beyond]
        unfold Contains withSign at *
        cases negative with
        | true =>
            simp only [if_true] at *
            rw [if_neg (by omega), if_pos (by omega)]
        | false =>
            simp only [Bool.false_eq_true, if_false] at *
            rw [if_pos (by omega)]

/-- The digits of a number are read as the number, from zero. -/
theorem readDigits_toDigits (zero : range.Contains 0) (negative : Bool) (size : Nat) :
    range.readDigits negative 0 (Nat.toDigits 10 size) =
      if range.Contains (withSign negative size) then .ok (withSign negative size)
      else .error (if negative then .tooSmall else .tooLarge) := by
  have ascii : ∀ char ∈ Nat.toDigits 10 size, char.isDigit = true :=
    fun char inside => Nat.isDigit_of_mem_toDigits (by decide) (by decide) inside
  have start : withSign negative 0 = 0 := by cases negative <;> rfl
  have inside : range.Contains (withSign negative 0) := start.symm ▸ zero
  have read := readDigits_withSign zero negative ascii inside
  rwa [start, Nat.ofDigitChars_ten_toDigits] at read

/-- Digits without a sign. -/
theorem readChars_toDigits (range : WholeRange) (size : Nat) :
    range.readChars (Nat.toDigits 10 size) = range.readDigits false 0 (Nat.toDigits 10 size) := by
  obtain ⟨first, digits, split⟩ := List.exists_cons_of_ne_nil
    (Nat.toDigits_ne_nil : Nat.toDigits 10 size ≠ [])
  have digit : first.isDigit = true :=
    Nat.isDigit_of_mem_toDigits (b := 10) (n := size) (by decide) (by decide)
      (split ▸ List.mem_cons_self)
  rw [split]
  unfold readChars
  split
  case h_1 same => cases same
  case h_2 same => injection same with sign; rw [sign] at digit; cases digit
  case h_3 same => injection same with sign; rw [sign] at digit; cases digit
  case h_4 same => injection same with sign; rw [sign] at digit; cases digit
  case h_5 same => injection same with sign; rw [sign] at digit; cases digit
  case h_6 => rfl

/-- Digits behind a minus sign, which only a range with negative numbers knows. -/
theorem readChars_minus (range : WholeRange) (size : Nat) :
    range.readChars ('-' :: Nat.toDigits 10 size) =
      if range.low < 0 then range.readDigits true 0 (Nat.toDigits 10 size)
      else .error .badDigit := by
  obtain ⟨first, digits, split⟩ := List.exists_cons_of_ne_nil
    (Nat.toDigits_ne_nil : Nat.toDigits 10 size ≠ [])
  rw [split]
  rfl

/-- **A range reads the text of a number exactly if it holds the number**, and then as
that number. -/
theorem read_toString (zero : range.Contains 0) (value : Int) :
    range.read (toString value) = range.reading value := by
  unfold read reading refusal
  by_cases above : 0 ≤ value
  · obtain ⟨size, rfl⟩ := Int.eq_ofNat_of_zero_le above
    have isNatural : withSign false size = (size : Int) := rfl
    rw [toList_toString_natCast, readChars_toDigits, readDigits_toDigits zero, isNatural,
      if_pos above]
    rfl
  · obtain ⟨size, rfl⟩ := Int.exists_eq_neg_ofNat (Int.le_of_lt (Int.not_le.mp above))
    have isNegative : withSign true size = -(size : Int) := rfl
    rw [toList_toString_neg (by omega), readChars_minus, readDigits_toDigits zero, isNegative,
      if_neg above]
    by_cases negatives : range.low < 0
    · simp only [if_pos negatives, if_true]
    · have outside : ¬range.Contains (-(size : Int)) := by
        unfold Contains
        omega
      rw [if_neg negatives, if_neg outside, if_neg negatives]

end WholeRange

end EventTransport.Number
