/-!
Contract: numbers from their digits.

Owns:
- `positional`, the number that digits in a base denote;
- `digitValue` and `digitsValue`, the same for decimal digits in a text.

Digits are joined in pairs, which halves their number and squares the base, so that the number of
large products stays small however many digits there are.

Main statement: the lowest digit counts once, and the number that the digits above it denote counts
as often as the base says.

Does not own: signs, points and exponents.
-/

namespace EventTransport.Number

/-- Digits in the square of a base from digits in the base, the lowest first. -/
def joinPairs (base : Nat) : List Nat → List Nat
  | low :: high :: rest => (low + base * high) :: joinPairs base rest
  | rest => rest

theorem length_joinPairs_le (base : Nat) (digits : List Nat) :
    (joinPairs base digits).length ≤ digits.length := by
  fun_induction joinPairs base digits with
  | case1 low high rest inductionHypothesis =>
    simp only [List.length_cons]
    omega
  | case2 digits _ => exact Nat.le_refl _

/-- The number that digits in a base denote, the lowest first. -/
def positional (base : Nat) : List Nat → Nat
  | [] => 0
  | [digit] => digit
  | low :: high :: rest => positional (base * base) ((low + base * high) :: joinPairs base rest)
termination_by digits => digits.length
decreasing_by
  have := length_joinPairs_le base rest
  simp only [List.length_cons]
  omega

theorem foldr_joinPairs (base : Nat) (digits : List Nat) :
    (joinPairs base digits).foldr (fun digit value => digit + base * base * value) 0 =
      digits.foldr (fun digit value => digit + base * value) 0 := by
  fun_induction joinPairs base digits with
  | case1 low high rest inductionHypothesis =>
    rw [List.foldr_cons, inductionHypothesis, List.foldr_cons, List.foldr_cons, Nat.mul_add,
      Nat.add_assoc, Nat.mul_assoc]
  | case2 digits short =>
    match digits, short with
    | [], _ => rfl
    | [digit], _ => simp
    | low :: high :: rest, short => exact absurd rfl (short low high rest)

theorem positional_eq_foldr (base : Nat) (digits : List Nat) :
    positional base digits = digits.foldr (fun digit value => digit + base * value) 0 := by
  fun_induction positional base digits with
  | case1 base => rfl
  | case2 base digit => simp
  | case3 base low high rest inductionHypothesis =>
    rw [inductionHypothesis]
    exact foldr_joinPairs base (low :: high :: rest)

/-- The lowest digit counts once, and what is above it as often as the base says. -/
theorem positional_cons (base digit : Nat) (digits : List Nat) :
    positional base (digit :: digits) = digit + base * positional base digits := by
  simp only [positional_eq_foldr, List.foldr_cons]

/-- The number that a decimal digit denotes. -/
def digitValue (digit : Char) : Nat := digit.toNat - '0'.toNat

/-- The number that a run of decimal digits denotes. -/
def digitsValue (digits : List Char) : Nat := positional 10 (digits.reverse.map digitValue)

end EventTransport.Number
