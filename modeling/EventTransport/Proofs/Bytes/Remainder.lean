import Mathlib.Algebra.Group.Nat.Defs
import Mathlib.Logic.Function.Iterate
import EventTransport.Bytes.Crc32

/-!
Contract: what a change of a few bytes does to a checksum.

Owns:
- injectivity of the division in its remainder;
- `Crc32.packed`, a block of bytes as one number, and the division of a block of at most four bytes;
- that strings which differ in one such block have different checksums.

A block of four bytes is as wide as the remainder. So it enters the remainder as a whole before any
of its bits can meet another, and no block is taken for a different one.

Does not own: frames.
-/

namespace EventTransport

namespace Crc32

/-! ### One bit -/

theorem and_one_eq_one_iff (value : UInt32) : value &&& 1 = 1 ↔ value.toNat % 2 = 1 := by
  rw [← UInt32.toNat_inj, UInt32.toNat_and]
  exact Eq.congr_left (Nat.and_one_is_mod _)

theorem toNat_shiftRight_one (value : UInt32) : (value >>> 1).toNat = value.toNat / 2 := by
  rw [UInt32.toNat_shiftRight, Nat.shiftRight_eq_div_pow]
  rfl

/-- The division loses nothing: the top bit of the polynomial tells which bit has left. -/
theorem shift_injective : Function.Injective shift := by
  intro left right same
  have halves {first second : UInt32} (half : first >>> 1 = second >>> 1)
      (parity : first.toNat % 2 = second.toNat % 2) : first = second := by
    have numbers := congrArg UInt32.toNat half
    rw [toNat_shiftRight_one, toNat_shiftRight_one] at numbers
    rw [← UInt32.toNat_inj]
    omega
  -- What is shifted down has no top bit, and the polynomial has one.
  have apart {first second : UInt32} : (first >>> 1) ^^^ polynomial ≠ second >>> 1 := by
    intro equal
    have isHalf : polynomial = (first ^^^ second) >>> 1 := by
      rw [UInt32.shiftRight_xor, ← equal, ← UInt32.xor_assoc, UInt32.xor_self, UInt32.zero_xor]
    have large := congrArg UInt32.toNat isHalf
    rw [toNat_shiftRight_one] at large
    have small := (first ^^^ second).toNat_lt
    have top : polynomial.toNat = 3988292384 := rfl
    omega
  unfold shift at same
  simp only [and_one_eq_one_iff] at same
  split at same <;> split at same
  · exact halves ((UInt32.xor_left_inj _).mp same) (by omega)
  · exact absurd same apart
  · exact absurd same.symm apart
  · exact halves same (by omega)

/-- An even number that enters the remainder moves down with it by one place. -/
theorem shift_xor_double (remainder : UInt32) {value : Nat} (small : 2 * value < 2 ^ 32) :
    shift (remainder ^^^ UInt32.ofNat (2 * value)) = shift remainder ^^^ UInt32.ofNat value := by
  have half : UInt32.ofNat (2 * value) >>> 1 = UInt32.ofNat value := by
    rw [← UInt32.toNat_inj, toNat_shiftRight_one, UInt32.toNat_ofNat', UInt32.toNat_ofNat']
    omega
  have parity : (remainder ^^^ UInt32.ofNat (2 * value)).toNat % 2 = remainder.toNat % 2 := by
    rw [UInt32.toNat_xor, UInt32.toNat_ofNat', Nat.mod_eq_of_lt small]
    have bits := Nat.xor_mod_two_pow (a := remainder.toNat) (b := 2 * value) (n := 1)
    simpa only [Nat.pow_one, Nat.mul_mod_right, Nat.xor_zero, Nat.mod_mod] using bits
  unfold shift
  simp only [and_one_eq_one_iff, parity, UInt32.shiftRight_xor, half]
  split
  · rw [UInt32.xor_assoc, UInt32.xor_comm (UInt32.ofNat value), ← UInt32.xor_assoc]
  · rfl

theorem iterate_shift_xor (count : Nat) (remainder : UInt32) {value : Nat}
    (small : 2 ^ count * value < 2 ^ 32) :
    shift^[count] (remainder ^^^ UInt32.ofNat (2 ^ count * value)) =
      shift^[count] remainder ^^^ UInt32.ofNat value := by
  induction count generalizing remainder with
  | zero => simp
  | succ count inductionHypothesis =>
      rw [Nat.pow_succ', Nat.mul_assoc] at small ⊢
      rw [Function.iterate_succ_apply, shift_xor_double _ small, inductionHypothesis _ (by omega),
        Function.iterate_succ_apply]

/-! ### Blocks -/

/-- A block of bytes as one number, the first byte lowest. -/
def packed : Bytes → Nat
  | [] => 0
  | byte :: bytes => byte.toNat ^^^ (2 ^ 8 * packed bytes)

theorem packed_cons_div (byte : UInt8) (bytes : Bytes) :
    packed (byte :: bytes) / 2 ^ 8 = packed bytes := by
  show (byte.toNat ^^^ (2 ^ 8 * packed bytes)) / 2 ^ 8 = _
  rw [Nat.xor_div_two_pow, Nat.div_eq_of_lt byte.toNat_lt, Nat.zero_xor,
    Nat.mul_div_cancel_left _ (by decide)]

theorem packed_cons_mod (byte : UInt8) (bytes : Bytes) :
    packed (byte :: bytes) % 2 ^ 8 = byte.toNat := by
  show (byte.toNat ^^^ (2 ^ 8 * packed bytes)) % 2 ^ 8 = _
  rw [Nat.xor_mod_two_pow, Nat.mod_eq_of_lt byte.toNat_lt, Nat.mul_mod_right, Nat.xor_zero]

theorem packed_lt (bytes : Bytes) : packed bytes < 2 ^ (8 * bytes.length) := by
  induction bytes with
  | nil => decide
  | cons byte bytes inductionHypothesis =>
      rw [List.length_cons, Nat.mul_succ, Nat.pow_add]
      apply Nat.lt_mul_of_div_lt _ (by decide)
      rw [packed_cons_div]
      exact inductionHypothesis

theorem packed_lt_word {block : Bytes} (short : block.length ≤ 4) : packed block < 2 ^ 32 :=
  Nat.lt_of_lt_of_le (packed_lt block) (Nat.pow_le_pow_right (by decide) (by omega))

theorem packed_inj {left right : Bytes} (sameLength : left.length = right.length)
    (same : packed left = packed right) : left = right := by
  induction left generalizing right with
  | nil => exact (List.eq_nil_of_length_eq_zero sameLength.symm).symm
  | cons byte bytes inductionHypothesis =>
      cases right with
      | nil => cases sameLength
      | cons other others =>
          have heads := congrArg (· % 2 ^ 8) same
          have tails := congrArg (· / 2 ^ 8) same
          simp only [packed_cons_mod] at heads
          simp only [packed_cons_div] at tails
          rw [UInt8.toNat_inj.mp heads, inductionHypothesis (Nat.succ.inj sameLength) tails]

/-- A block of at most four bytes enters the remainder as one number, and is then divided out. -/
theorem run_eq_iterate (start : UInt32) {block : Bytes} (short : block.length ≤ 4) :
    run start block = shift^[8 * block.length] (start ^^^ UInt32.ofNat (packed block)) := by
  -- The later bytes enter after eight steps; they may as well enter now, eight places higher.
  induction block generalizing start with
  | nil => simp [packed]
  | cons byte block inductionHypothesis =>
      rw [List.length_cons] at short
      have small : 2 ^ 8 * packed block < 2 ^ 32 := by
        have below := packed_lt block
        have most : 2 ^ (8 * block.length) ≤ 2 ^ 24 := Nat.pow_le_pow_right (by decide) (by omega)
        omega
      calc run start (byte :: block)
          = run (feed start byte) block := rfl
        _ = shift^[8 * block.length] (feed start byte ^^^ UInt32.ofNat (packed block)) :=
            inductionHypothesis _ (by omega)
        _ = shift^[8 * block.length]
              (shift^[8] (start ^^^ byte.toUInt32 ^^^ UInt32.ofNat (2 ^ 8 * packed block))) := by
            rw [iterate_shift_xor _ _ small]
            rfl
        _ = shift^[8 * block.length + 8]
              (start ^^^ (byte.toUInt32 ^^^ UInt32.ofNat (2 ^ 8 * packed block))) := by
            rw [Function.iterate_add_apply, UInt32.xor_assoc]
        _ = shift^[8 * (byte :: block).length]
          (start ^^^ UInt32.ofNat (packed (byte :: block))) := by
            rw [packed, UInt32.ofNat_xor, UInt32.ofNat_uInt8ToNat]
            rfl

/-! ### Strings -/

/-- Different remainders stay different under the same bytes. -/
theorem run_injective (bytes : Bytes) : Function.Injective fun start => run start bytes := by
  induction bytes with
  | nil => exact Function.injective_id
  | cons byte bytes inductionHypothesis =>
      intro left right same
      have fed : feed left byte = feed right byte := inductionHypothesis same
      exact (UInt32.xor_left_inj _).mp (shift_injective.iterate 8 fed)

/-- Different blocks of at most four bytes leave different remainders. -/
theorem block_eq_of_run_eq {start : UInt32} {left right : Bytes} (short : left.length ≤ 4)
    (sameLength : left.length = right.length) (same : run start left = run start right) :
    left = right := by
  rw [run_eq_iterate start short, run_eq_iterate start (sameLength ▸ short), sameLength] at same
  have words := (UInt32.xor_right_inj _).mp (shift_injective.iterate _ same)
  have numbers := congrArg UInt32.toNat words
  rw [UInt32.toNat_ofNat', UInt32.toNat_ofNat', Nat.mod_eq_of_lt (packed_lt_word short),
    Nat.mod_eq_of_lt (packed_lt_word (sameLength ▸ short))] at numbers
  exact packed_inj sameLength numbers

end Crc32

/-- Strings that differ in one block of at most four bytes have different checksums. -/
theorem crc32_ne_of_block {front left right back : Bytes} (short : left.length ≤ 4)
    (sameLength : left.length = right.length) (different : left ≠ right) :
    crc32 (front ++ (left ++ back)) ≠ crc32 (front ++ (right ++ back)) := by
  intro same
  have remainders := (UInt32.xor_left_inj _).mp same
  simp only [Crc32.run_append] at remainders
  exact different (Crc32.block_eq_of_run_eq short sameLength (Crc32.run_injective back remainders))

end EventTransport
