import EventTransport.Number.Whole
import Mathlib.Algebra.Group.Nat.Defs

/-!
Contract: whole numbers and truth values against their decimal digits and their words.

Owns:
- the digits of a number: what they are worth, and which of them stands in front;
- `WholeRange.readDigits_eq_ok_iff`, by which digits are read exactly if their number fits.

Does not own: what may stand around digits.
-/

namespace EventTransport.Number

theorem digitValue?_eq (char : Char) :
    digitValue? char = if char.isDigit then some (char.toNat - '0'.toNat) else none := by
  have same : char.isDigit = true ↔ '0' ≤ char ∧ char ≤ '9' := by
    simp [Char.isDigit, Char.le_def]
  unfold digitValue?
  by_cases digit : char.isDigit = true
  · rw [if_pos digit, if_pos (same.mp digit)]
  · rw [if_neg digit, if_neg fun between => digit (same.mpr between)]

theorem toNat_of_isDigit {char : Char} (digit : char.isDigit = true) :
    48 ≤ char.toNat ∧ char.toNat ≤ 57 := by
  simpa [Char.isDigit, UInt32.le_iff_toNat_le] using digit

/-- What has been read of a number is not more than the number. -/
theorem le_ofDigitChars (digits : List Char) (start : Nat) :
    start ≤ Nat.ofDigitChars 10 digits start := by
  rw [Nat.ofDigitChars_eq_ofDigitChars_zero]
  have grown : 1 * start ≤ 10 ^ digits.length * start :=
    Nat.mul_le_mul_right start (Nat.pow_pos (by decide))
  omega

/-- A number that is not zero has no zero in front. -/
theorem head?_toDigits {number : Nat} (positive : 0 < number) :
    (Nat.toDigits 10 number).head? ≠ some '0' := by
  have digit : ∀ value < 10, 0 < value → Nat.digitChar value ≠ '0' := by decide
  induction number using Nat.strongRecOn with
  | ind number inductionHypothesis =>
      rw [Nat.toDigits_eq_if (by decide)]
      split
      · rename_i small
        rw [List.head?_cons, ne_eq, Option.some.injEq]
        exact digit number small positive
      · rename_i large
        have front := inductionHypothesis (number / 10) (by omega) (by omega)
        obtain ⟨first, rest, split⟩ := List.exists_cons_of_ne_nil
          (Nat.toDigits_ne_nil : Nat.toDigits 10 (number / 10) ≠ [])
        rw [split] at front ⊢
        exact front

namespace WholeRange

/-- Digits are read into an unsigned range exactly if they are digits and their number fits. -/
theorem readDigits_eq_ok_iff {bits : Nat} {digits : List Char} {start : Nat} {value : Int}
    (fits : start < 2 ^ bits) :
    (unsigned bits).readDigits false start digits = .ok value ↔
      (∀ char ∈ digits, char.isDigit = true) ∧ value = Nat.ofDigitChars 10 digits start ∧
        Nat.ofDigitChars 10 digits start < 2 ^ bits := by
  induction digits generalizing start with
  | nil =>
      simp only [readDigits, Except.ok.injEq, Nat.ofDigitChars_nil]
      constructor
      · rintro rfl
        exact ⟨List.forall_mem_nil _, rfl, fits⟩
      · exact fun read => read.2.1.symm
  | cons char rest inductionHypothesis =>
      rw [readDigits, digitValue?_eq, List.forall_mem_cons, Nat.ofDigitChars_cons]
      by_cases digit : char.isDigit = true
      · have isNext : (start : Int) * 10 + ((char.toNat - '0'.toNat : Nat) : Int) =
            (10 * start + (char.toNat - '0'.toNat) : Nat) := by omega
        simp only [digit, if_true, Bool.false_eq_true, if_false, true_and, isNext]
        generalize 10 * start + (char.toNat - '0'.toNat) = next
        have high : (unsigned bits).high = (2 ^ bits : Nat) - 1 := rfl
        have grown := le_ofDigitChars rest next
        by_cases tooLarge : (unsigned bits).high < (next : Int)
        · rw [if_pos tooLarge]
          simp only [reduceCtorEq, false_iff]
          rintro ⟨-, -, within⟩
          omega
        · have notUnder : ¬(next : Int) < (unsigned bits).low :=
            Int.not_lt.mpr (Int.natCast_nonneg next)
          rw [if_neg tooLarge, if_neg notUnder]
          exact inductionHypothesis (by omega)
      · simp [digit]

end WholeRange

theorem readBool_eq_ok_iff {text : String} {value : Bool} :
    readBool text = .ok value ↔ text = toString value := by
  unfold readBool
  by_cases isTrue : text = "true"
  · rw [if_pos isTrue, isTrue, Except.ok.injEq]
    cases value <;> decide
  · by_cases isFalse : text = "false"
    · rw [if_neg isTrue, if_pos isFalse, isFalse, Except.ok.injEq]
      cases value <;> decide
    · rw [if_neg isTrue, if_neg isFalse]
      cases value with
      | true => exact iff_of_false (fun read => nomatch read) isTrue
      | false => exact iff_of_false (fun read => nomatch read) isFalse

end EventTransport.Number
