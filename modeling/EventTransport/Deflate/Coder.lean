import EventTransport.Bytes.Source
import EventTransport.Compressor

/-!
Contract: a coder of streams as a compressor.

Owns:
- `StreamCoder`, what writes data as streams and what reads streams, whichever they are;
- `StreamCoder.inflateFully` and `StreamCoder.inflate`, a stream read without a limit and under one;
- `StreamCoder.compressor`, the compressor of a level.

Under a limit the decoder is asked for one byte more than the limit allows, and for nothing after
it.

Main statement: under a limit a stream succeeds exactly if it does without one and is not longer.

Does not own: any particular coder.
-/

namespace EventTransport

/-- What writes data as a stream at a level, and what hands over the data of a stream. -/
structure StreamCoder where
  encode : Nat → Bytes → Except CompressionFault Bytes
  decode : Bytes → Source CompressionFault

namespace StreamCoder

/-- The fault of data for which there is no room in memory. -/
def noRoom : CompressionFault := .described "out of memory"

/-- The greatest number of bytes that can be asked for. -/
def greatestDemand : Nat := 18446744073709551615

/-- How many bytes the decoder is asked for under a limit: one more than may come, if there is such
a number. -/
def demand (limit : Nat) : Nat := min (limit + 1) greatestDemand

/-- All data of a stream, if it ends well. -/
def inflateFully (coder : StreamCoder) (packed : Bytes) : Except CompressionFault Bytes :=
  (coder.decode packed).readToEnd noRoom

/-- The data of a stream, if it ends well and is not longer than the limit. -/
def inflate (coder : StreamCoder) (packed : Bytes) (limit : Nat) : Except CompressionFault Bytes :=
  match ((coder.decode packed).upTo (demand limit)).readToEnd noRoom with
  | .error fault => .error fault
  | .ok plain => if limit < plain.length then .error (.overLimit limit) else .ok plain

/-- The greatest level. -/
def greatestLevel : Nat := 9

/-- Streams at a level; levels above the greatest mean the greatest. -/
def compressor (coder : StreamCoder) (level : Nat) : Compressor where
  compress := coder.encode (min level greatestLevel)
  decompress := coder.inflate

variable {coder : StreamCoder} {packed plain : Bytes} {limit : Nat}

/-- A byte string within a limit is shorter than what is asked for under the limit. -/
theorem lt_demand {length : Nat} (within : length ≤ limit)
    (holds : length ≤ Bytes.greatestLength) : length < demand limit := by
  unfold Bytes.greatestLength at holds
  unfold demand greatestDemand
  omega

/-- What is read under a limit are all bytes asked for, and they are within the limit. -/
theorem inflate_eq_ok_iff_upTo :
    coder.inflate packed limit = .ok plain ↔
      ((coder.decode packed).upTo (demand limit)).readToEnd noRoom = .ok plain ∧
        plain.length ≤ limit := by
  unfold inflate
  cases ((coder.decode packed).upTo (demand limit)).readToEnd noRoom with
  | error fault => simp
  | ok out =>
    simp only [Except.ok.injEq]
    split
    · rename_i beyond
      simp only [reduceCtorEq, false_iff, not_and]
      rintro rfl
      exact Nat.not_le.mpr beyond
    · rename_i within
      simp only [Except.ok.injEq]
      constructor
      · rintro rfl
        exact ⟨rfl, Nat.le_of_not_lt within⟩
      · exact And.left

/-- Under a limit a stream succeeds exactly if it does without one and is not longer. -/
theorem inflate_eq_ok_iff :
    coder.inflate packed limit = .ok plain ↔
      coder.inflateFully packed = .ok plain ∧ plain.length ≤ limit := by
  rw [inflate_eq_ok_iff_upTo]
  constructor
  · rintro ⟨success, within⟩
    have holds := (Source.readToEnd_eq_ok_iff.mp success).2
    exact ⟨(Source.readToEnd_upTo_eq_ok_iff (lt_demand within holds)).mp success, within⟩
  · rintro ⟨success, within⟩
    have holds := (Source.readToEnd_eq_ok_iff.mp success).2
    exact ⟨(Source.readToEnd_upTo_eq_ok_iff (lt_demand within holds)).mpr success, within⟩

/-- Data that are longer than the limit are refused for that, even if the limit is the greatest. -/
theorem inflate_of_longer (whole : coder.inflateFully packed = .ok plain)
    (longer : limit < plain.length) : coder.inflate packed limit = .error (.overLimit limit) := by
  obtain ⟨handed, holds⟩ := Source.readToEnd_eq_ok_iff.mp whole
  have asked : demand limit = limit + 1 := by
    unfold Bytes.greatestLength at holds
    unfold demand greatestDemand
    omega
  unfold inflate
  rw [asked, handed, Source.readToEnd_upTo_of_le longer (Nat.le_trans longer holds)]
  simp only [List.length_take]
  rw [if_pos]
  omega

/-- A compressor made of a coder keeps to the limits that it is given. -/
theorem bounded_compressor (coder : StreamCoder) (level : Nat) : (coder.compressor level).Bounded :=
  fun _ _ _ restored => (inflate_eq_ok_iff.mp restored).2

end StreamCoder

end EventTransport
