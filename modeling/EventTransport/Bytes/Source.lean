import EventTransport.Bytes.Basic

/-!
Contract: bytes that are handed over piece by piece until there are no more.

Owns:
- `Source`, what is handed over and how it ends;
- `Source.upTo`, the same for a reader who asks for a number of bytes at most;
- `Source.readToEnd`, all of it as one byte string.

Main statement: a reader who asks for more bytes than he accepts gets what he would get without a
bound, or else too many bytes.
-/

namespace EventTransport

/-- The greatest number of bytes that a byte string can have in memory. -/
def Bytes.greatestLength : Nat := 9223372036854775807

/-- What is handed over until the end, and the fault that is met then if it does not end well. -/
structure Source (φ : Type) where
  bytes : Bytes
  fault : Option φ

namespace Source

variable {φ : Type}

/-- A source of which no more than `most` bytes are asked for. Once these are there it is over, and
what would have come behind them is not seen, a fault included. -/
def upTo (most : Nat) (source : Source φ) : Source φ :=
  if most ≤ source.bytes.length then ⟨source.bytes.take most, none⟩ else source

/-- All that a source hands over. There is `full` instead if that is more than a byte string can
hold. -/
def readToEnd (full : φ) (source : Source φ) : Except φ Bytes :=
  if Bytes.greatestLength < source.bytes.length then .error full
  else
    match source.fault with
    | some fault => .error fault
    | none => .ok source.bytes

theorem readToEnd_eq_ok_iff {full : φ} {source : Source φ} {bytes : Bytes} :
    source.readToEnd full = .ok bytes ↔
      source = ⟨bytes, none⟩ ∧ bytes.length ≤ Bytes.greatestLength := by
  obtain ⟨handed, fault⟩ := source
  unfold readToEnd
  split
  · rename_i tooMany
    simp only [reduceCtorEq, mk.injEq, false_iff, not_and]
    rintro ⟨rfl, -⟩
    exact Nat.not_le.mpr tooMany
  · rename_i holds
    cases fault with
    | some fault => simp
    | none =>
      simp only [Except.ok.injEq, mk.injEq, and_true]
      constructor
      · rintro rfl
        exact ⟨rfl, Nat.le_of_not_lt holds⟩
      · exact And.left

/-- Fewer bytes than were asked for are all that there are. -/
theorem readToEnd_upTo_eq_ok_iff {full : φ} {source : Source φ} {most : Nat} {bytes : Bytes}
    (fewer : bytes.length < most) :
    (source.upTo most).readToEnd full = .ok bytes ↔ source.readToEnd full = .ok bytes := by
  rw [readToEnd_eq_ok_iff, readToEnd_eq_ok_iff]
  unfold upTo
  split
  · rename_i enough
    have cut : ∀ fault : Option φ, (⟨source.bytes.take most, fault⟩ : Source φ) ≠
        ⟨bytes, none⟩ := by
      rintro fault same
      have length := congrArg (fun source => source.bytes.length) same
      simp only [List.length_take] at length
      omega
    have whole : source ≠ ⟨bytes, none⟩ := by
      rintro rfl
      simp only at enough
      omega
    simp [cut none, whole]
  · exact Iff.rfl

/-- A source that hands over as much as is asked for is read without a fault, whatever would have
followed. -/
theorem readToEnd_upTo_of_le {full : φ} {source : Source φ} {most : Nat}
    (enough : most ≤ source.bytes.length) (holds : most ≤ Bytes.greatestLength) :
    (source.upTo most).readToEnd full = .ok (source.bytes.take most) := by
  rw [readToEnd_eq_ok_iff]
  unfold upTo
  rw [if_pos enough, List.length_take, Nat.min_eq_left enough]
  exact ⟨rfl, holds⟩

end Source

end EventTransport
