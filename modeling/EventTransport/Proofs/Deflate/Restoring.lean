import EventTransport.Deflate.Basic
import EventTransport.Proofs.Deflate.Delimiting

/-!
Contract: what is restored of a stream under a limit.

Owns:
- `StreamCoder.IsStream`, a stream with nothing behind it, and `StreamCoder.Restores`, what a coder
  owes to the data that it writes;
- that the coder of this library finds in every byte string that it accepts the stream which it
  begins with, and restores the data that it stores;
- inflating under a limit against inflating without one, for every coder.

Does not own: which fault a stream that does not end well is refused with.
-/

namespace EventTransport

namespace Deflate

open Reading

/-! ### Stored blocks restored -/

/-- The header of a stored block, final or not. -/
theorem readNumber_storedHeader (final : Bool) (behind : Bytes) :
    readNumber 3 (BitStream.ofBytes (UInt8.ofNat final.toNat :: behind)) =
      .ok (final.toNat, ⟨[false, false, false, false, false], behind⟩) := by
  cases final <;> rfl

/-- A stored block, header included, adds its data to what there is. -/
theorem readBlock_storedBlock {data : Bytes} (small : data.length ≤ storedSize) (final : Bool)
    (bound : Nat) (output : Array UInt8) (behind : Bytes) :
    ∃ rest, readNumber 3 (BitStream.ofBytes (storedBlock final data ++ behind)) =
        .ok (final.toNat, rest) ∧
      readBlock bound (final.toNat / 2) output rest =
        .ok (output ++ data, BitStream.ofBytes behind) := by
  refine ⟨_, readNumber_storedHeader final _, ?_⟩
  have stored : final.toNat / 2 = 0 := by cases final <;> rfl
  unfold storedSize at small
  rw [stored, readBlock_eq, if_pos rfl, finished_eq_ok_iff]
  refine expandStored_append ?_ ?_ output _ behind
  · simp only [UInt8.toNat_ofNat']
    omega
  · simp only [UInt8.toNat_ofNat']
    omega

theorem readBlocks_storedBlocks {blocks : Nat} {data : Bytes}
    (fits : data.length / storedSize = blocks) (bound : Nat) (output : Array UInt8) :
    readBlocks bound (blocks + 1) output (BitStream.ofBytes (storedBlocks blocks data)) =
      .ok (output ++ data, BitStream.ofBytes []) := by
  have positive : 0 < storedSize := by decide
  induction blocks generalizing data output with
  | zero =>
      have small : data.length < storedSize := Nat.lt_of_div_eq_zero positive fits
      obtain ⟨rest, isHeader, isBlock⟩ :=
        readBlock_storedBlock (Nat.le_of_lt small) true bound output []
      rw [List.append_nil] at isHeader
      rw [readBlocks_succ, storedBlocks, andThen_of_ok isHeader, andThen_of_ok isBlock]
      rfl
  | succ blocks inductionHypothesis =>
      have less : (data.take storedSize).length ≤ storedSize := by
        rw [List.length_take]
        exact Nat.min_le_left _ _
      have others : (data.drop storedSize).length / storedSize = blocks := by
        rw [List.length_drop]
        unfold storedSize at fits ⊢
        omega
      -- The other blocks stand behind the first one, and its data are there when they are read.
      obtain ⟨rest, isHeader, isBlock⟩ := readBlock_storedBlock less false bound output
        (storedBlocks blocks (data.drop storedSize))
      rw [readBlocks_succ, storedBlocks, andThen_of_ok isHeader, andThen_of_ok isBlock]
      have whole : output ++ data.take storedSize ++ data.drop storedSize = output ++ data := by
        apply Array.ext'
        simp only [Array.toList_appendList, List.append_assoc, List.take_append_drop]
      rw [← whole]
      exact inductionHypothesis others (output ++ data.take storedSize)

theorem inflateAll_storedStream (data : Bytes) :
    inflateAll (storedStream data) = (data.toArray, none) := by
  have fits : data.length / storedSize = data.length / storedSize := rfl
  have isRead := readBlocks_storedBlocks fits 0 #[]
  rw [List.toArray_appendList, List.nil_append] at isRead
  exact inflateAll_eq_none_iff.mpr ⟨_, _, _, isRead⟩

/-- What the coder accepts is what ends well with data that can be held. -/
theorem inflateFully_eq_ok_iff {packed plain : Bytes} :
    coder.inflateFully packed = .ok plain ↔
      inflateAll packed = (plain.toArray, none) ∧ plain.length ≤ Bytes.greatestLength := by
  rw [← decoder_eq_iff]
  exact Source.readToEnd_eq_ok_iff

theorem exists_error_of_fault {packed : Bytes} (fails : (inflateAll packed).2 ≠ none) :
    ∃ fault, coder.inflateFully packed = .error fault := by
  cases found : coder.inflateFully packed with
  | error fault => exact ⟨fault, rfl⟩
  | ok plain => exact absurd (congrArg Prod.snd (inflateFully_eq_ok_iff.mp found).1) fails

end Deflate

/-! ### Under a limit -/

namespace StreamCoder

variable {coder : StreamCoder} {packed plain : Bytes}

/-- A stream that stands for some data: bytes behind it change nothing, and cut off before its end
it is refused. -/
structure IsStream (coder : StreamCoder) (stream plain : Bytes) : Prop where
  whole : ∀ rest, coder.inflateFully (stream ++ rest) = .ok plain
  uncut : ∀ front missing, stream = front ++ missing → missing ≠ [] →
    ∃ fault, coder.inflateFully front = .error fault

/-- What a coder writes of some data at a level, it restores. -/
def Restores (coder : StreamCoder) (level : Nat) (data : Bytes) : Prop :=
  ∃ written, coder.encode level data = .ok written ∧ coder.inflateFully written = .ok data

/-- What fails without a limit fails under every limit, however much of it comes before
the fault. -/
theorem exists_error_of_inflateFully {fault : CompressionFault}
    (fails : coder.inflateFully packed = .error fault) (limit : Nat) :
    ∃ fault, coder.inflate packed limit = .error fault := by
  cases isInflated : coder.inflate packed limit with
  | error fault => exact ⟨fault, rfl⟩
  | ok plain =>
      have whole := (inflate_eq_ok_iff.mp isInflated).1
      rw [fails] at whole
      cases whole

/-- What succeeds without a limit succeeds under every limit that it keeps to, and is refused as too
long under all others. -/
theorem inflate_of_inflateFully (whole : coder.inflateFully packed = .ok plain) (limit : Nat) :
    coder.inflate packed limit =
      if plain.length ≤ limit then .ok plain else .error (.overLimit limit) := by
  split
  · rename_i within
    exact inflate_eq_ok_iff.mpr ⟨whole, within⟩
  · rename_i longer
    exact inflate_of_longer whole (Nat.lt_of_not_le longer)

end StreamCoder

/-- A byte string that is accepted begins with a stream, and nothing behind it counts. -/
theorem Deflate.exists_isStream_of_inflateFully {packed plain : Bytes}
    (accepted : coder.inflateFully packed = .ok plain) :
    ∃ stream rest, packed = stream ++ rest ∧ coder.IsStream stream plain := by
  obtain ⟨ends, holds⟩ := inflateFully_eq_ok_iff.mp accepted
  obtain ⟨stream, rest, isPacked, behind, fronts⟩ := exists_stream_of_inflateAll ends
  refine ⟨stream, rest, isPacked, fun other => ?_, fun front missing isStream some => ?_⟩
  · exact inflateFully_eq_ok_iff.mpr ⟨behind other, holds⟩
  · exact exists_error_of_fault (fronts front missing isStream some)

/-- Data of any size written at level zero are restored. -/
theorem Deflate.restores_zero {data : Bytes} (holds : data.length ≤ Bytes.greatestLength) :
    coder.Restores 0 data :=
  ⟨storedStream data, rfl, inflateFully_eq_ok_iff.mpr ⟨inflateAll_storedStream data, holds⟩⟩

namespace StreamCoder

/-- **Inflating under a limit agrees with inflating without one, for every coder.** A byte string is
accepted exactly if it is accepted without a limit and its data are within the limit, so what one
limit lets pass every larger one does, and what fails somewhere is refused under every limit. Of a
stream with bytes behind it only the stream counts, and cut off before its end it is refused. Data
that the coder restores from what it writes of them are restored within the limit, and refused as
too long beyond it. -/
theorem inflate_agrees_with_unlimited (coder : StreamCoder) (packed : Bytes) (limit : Nat) :
    (∀ plain, coder.inflate packed limit = .ok plain ↔
      coder.inflateFully packed = .ok plain ∧ plain.length ≤ limit) ∧
    (∀ plain larger, limit ≤ larger → coder.inflate packed limit = .ok plain →
      coder.inflate packed larger = .ok plain) ∧
    (∀ fault, coder.inflateFully packed = .error fault →
      ∃ other, coder.inflate packed limit = .error other) ∧
    (∀ stream plain, coder.IsStream stream plain →
      (∀ rest, coder.inflate (stream ++ rest) limit =
        if plain.length ≤ limit then .ok plain else .error (.overLimit limit)) ∧
      ∀ front missing, stream = front ++ missing → missing ≠ [] →
        ∃ fault, coder.inflate front limit = .error fault) ∧
    ∀ level data, coder.Restores (min level greatestLevel) data → ∃ written,
      (coder.compressor level).compress data = .ok written ∧
      (coder.compressor level).decompress written limit =
        if data.length ≤ limit then .ok data else .error (.overLimit limit) := by
  refine ⟨fun plain => inflate_eq_ok_iff, ?_,
    fun fault fails => exists_error_of_inflateFully fails limit, ?_, ?_⟩
  · intro plain larger more success
    obtain ⟨whole, within⟩ := inflate_eq_ok_iff.mp success
    exact inflate_eq_ok_iff.mpr ⟨whole, Nat.le_trans within more⟩
  · intro stream plain isStream
    refine ⟨fun rest => inflate_of_inflateFully (isStream.whole rest) limit, ?_⟩
    intro front missing isFront some
    obtain ⟨fault, fails⟩ := isStream.uncut front missing isFront some
    exact exists_error_of_inflateFully fails limit
  · rintro level data ⟨written, isWritten, restored⟩
    exact ⟨written, isWritten, inflate_of_inflateFully restored limit⟩

/-- A stored block with a byte behind it, with just enough room and with one byte less; the
same block without its last byte; data of which level one copies a part, and data that level
zero stores. -/
theorem inflate_agrees_for_storedBlock :
    let coder := Deflate.coder
    let packed : Bytes := [1, 3, 0, 252, 255, 7, 8, 9, 42]
    let repeated : Bytes := [7, 8, 9, 7, 8, 9, 7, 8, 9, 7]
    coder.inflate packed 3 = .ok [7, 8, 9] ∧ coder.inflate packed 4 = .ok [7, 8, 9] ∧
    coder.inflate packed 2 ≠ .ok [7, 8, 9] ∧
    (∃ stream rest, packed = stream ++ rest ∧
      ∀ other, coder.inflate (stream ++ other) 2 = .error (.overLimit 2)) ∧
    (∃ fault, coder.inflate (packed.take 7) 1 = .error fault) ∧
    (∃ written, (coder.compressor 1).compress repeated = .ok written ∧
      (coder.compressor 1).decompress written 10 = .ok repeated) ∧
    ∃ written, (coder.compressor 0).compress [7, 8, 9] = .ok written ∧
      (coder.compressor 0).decompress written 2 = .error (.overLimit 2) := by
  intro coder packed repeated
  have whole : coder.inflateFully packed = .ok [7, 8, 9] :=
    Deflate.inflateFully_eq_ok_iff.mpr ⟨by decide +kernel, by decide⟩
  obtain ⟨fault, fails⟩ : ∃ fault, coder.inflateFully (packed.take 7) = .error fault :=
    Deflate.exists_error_of_fault (by decide +kernel)
  have copies : coder.Restores 1 repeated :=
    ⟨_, rfl, Deflate.inflateFully_eq_ok_iff.mpr ⟨by decide +kernel, by decide⟩⟩
  have stores : coder.Restores 0 [7, 8, 9] := Deflate.restores_zero (by decide)
  have inRoom := inflate_agrees_with_unlimited coder packed 3
  have accepted := (inRoom.1 [7, 8, 9]).mpr ⟨whole, by decide⟩
  have short := inflate_agrees_with_unlimited coder packed 2
  refine ⟨accepted, inRoom.2.1 [7, 8, 9] 4 (by decide) accepted, fun success => ?_, ?_,
    (inflate_agrees_with_unlimited coder (packed.take 7) 1).2.2.1 fault fails,
    (inflate_agrees_with_unlimited coder packed 10).2.2.2.2 1 repeated copies,
    short.2.2.2.2 0 [7, 8, 9] stores⟩
  · exact absurd ((short.1 [7, 8, 9]).mp success).2 (by decide)
  · obtain ⟨stream, rest, isPacked, isStream⟩ := Deflate.exists_isStream_of_inflateFully whole
    exact ⟨stream, rest, isPacked, (short.2.2.2.1 stream [7, 8, 9] isStream).1⟩

end StreamCoder

end EventTransport
