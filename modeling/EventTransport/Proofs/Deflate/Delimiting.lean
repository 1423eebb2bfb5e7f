import EventTransport.Proofs.Deflate.Locality

/-!
Contract: a deflate stream shows by itself where it ends.

Owns:
- the loops over the tokens of a block, over lengths of codewords and over blocks, as readers of
  bits;
- that no such loop gives up on a stream for want of steps;
- that bytes behind a stream do not count, and that no shorter front of it ends well.

Does not own: what a stream expands to.
-/

namespace EventTransport.Deflate

open Reading

/-- Data that is finished, with the rest of the stream. -/
def finished : Progress → Reading (Array UInt8)
  | (_, .error fault) => .error fault
  | (output, .ok rest) => .ok (output, rest)

theorem finished_eq_ok_iff {progress : Progress} {output : Array UInt8} {rest : BitStream} :
    finished progress = .ok (output, rest) ↔ progress = (output, .ok rest) := by
  obtain ⟨extended, ending⟩ := progress
  cases ending <;> simp [finished]

/-! ### Stored blocks -/

section Stored

variable {sizeLow sizeHigh checkLow checkHigh : UInt8} {stored : Bytes}

/-- A stored block: its size, the complement of its size and as many bytes, whatever
stands behind. -/
theorem expandStored_append (size : sizeLow.toNat + 256 * sizeHigh.toNat = stored.length)
    (check : stored.length + (checkLow.toNat + 256 * checkHigh.toNat) = 65535)
    (output : Array UInt8) (begun : List Bool) (behind : Bytes) :
    expandStored output
        ⟨begun, sizeLow :: sizeHigh :: checkLow :: checkHigh :: (stored ++ behind)⟩ =
      (output ++ stored, .ok (BitStream.ofBytes behind)) := by
  simp only [expandStored, BitStream.aligned, size, check, ne_eq, not_true_eq_false, if_false,
    List.take_left, Nat.lt_irrefl, List.drop_left]

theorem exists_of_expandStored {output extended : Array UInt8} {stream rest : BitStream}
    (success : expandStored output stream = (extended, .ok rest)) :
    ∃ (sizeLow sizeHigh checkLow checkHigh : UInt8) (stored : Bytes),
      stream.bytes = sizeLow :: sizeHigh :: checkLow :: checkHigh :: (stored ++ rest.bytes) ∧
      sizeLow.toNat + 256 * sizeHigh.toNat = stored.length ∧
      stored.length + (checkLow.toNat + 256 * checkHigh.toNat) = 65535 ∧
      extended = output ++ stored ∧ rest.begun = [] := by
  unfold expandStored BitStream.aligned at success
  split at success
  · rename_i sizeLow sizeHigh checkLow checkHigh behind isBytes
    simp only at success
    split at success
    · cases success
    · rename_i check
      split at success
      · cases success
      · rename_i enough
        cases success
        have whole : (behind.take (sizeLow.toNat + 256 * sizeHigh.toNat)).length =
            sizeLow.toNat + 256 * sizeHigh.toNat := by
          rw [List.length_take] at enough ⊢
          omega
        refine ⟨sizeLow, sizeHigh, checkLow, checkHigh, _, ?_, whole.symm, ?_, rfl, rfl⟩
        · simp only [isBytes, BitStream.ofBytes, List.take_append_drop]
        · rw [whole]
          exact Decidable.not_not.mp check
  · cases success

end Stored

theorem isLocal_expandStored (output : Array UInt8) :
    IsLocal fun stream => finished (expandStored output stream) := by
  intro stream extended rest success
  obtain ⟨sizeLow, sizeHigh, checkLow, checkHigh, stored, isBytes, size, check, rfl, aligned⟩ :=
    exists_of_expandStored (finished_eq_ok_iff.mp success)
  refine ⟨?_, sizeLow :: sizeHigh :: checkLow :: checkHigh :: stored, isBytes, fun other => ?_⟩
  · simp only [BitStream.size, isBytes, aligned, List.length_cons, List.length_append,
      List.length_nil]
    omega
  · rw [finished_eq_ok_iff, aligned]
    exact expandStored_append size check output stream.begun other

/-! ### Tokens -/

/-- The tokens of a block up to its end, as a reader. -/
def readTokens (literals distances : PrefixCode) (fuel : Nat) (output : Array UInt8)
    (stream : BitStream) : Reading (Array UInt8) :=
  finished (expandTokens literals distances fuel output stream)

theorem readTokens_succ (literals distances : PrefixCode) (fuel : Nat) (output : Array UInt8) :
    readTokens literals distances (fuel + 1) output =
      andThen literals.read fun symbol => andThen (readToken distances symbol) fun
        | none => done output
        | some token => readTokens literals distances fuel (token.expand output) := by
  funext stream
  unfold readTokens andThen
  rw [expandTokens]
  cases literals.read stream with
  | error fault => rfl
  | ok found =>
      simp only
      cases readToken distances found.1 found.2 with
      | error fault => rfl
      | ok tokenFound =>
          obtain ⟨token, rest⟩ := tokenFound
          cases token <;> rfl

theorem isLocal_readTokens (literals distances : PrefixCode) (fuel : Nat) (output : Array UInt8) :
    IsLocal (readTokens literals distances fuel output) := by
  induction fuel generalizing output with
  | zero => exact isLocal_fail .corrupt
  | succ fuel inductionHypothesis =>
      rw [readTokens_succ]
      refine literals.isLocal_read.andThen fun symbol =>
        (isLocal_readToken distances symbol).andThen fun token => ?_
      cases token with
      | none => exact isLocal_done output
      | some token => exact inductionHypothesis (token.expand output)

/-- A token takes a bit at least, so there are no more steps than bits. -/
theorem readTokens_succeedsAs {literals : PrefixCode} (isNode : literals.IsNode)
    (distances : PrefixCode) {bound fuel : Nat} (enough : bound ≤ fuel) (other : Nat)
    (output : Array UInt8) :
    SucceedsAs bound (readTokens literals distances fuel output)
      (readTokens literals distances other output) := by
  -- The induction is on the steps of the other reading. With each of them the stream loses a bit,
  -- so the bound may fall as fast as the steps that are left.
  induction other generalizing bound fuel output with
  | zero =>
      intro stream value rest short success
      cases success
  | succ other inductionHypothesis =>
      cases bound with
      | zero =>
          intro stream value rest short
          exact absurd short (Nat.not_lt_zero _)
      | succ bound =>
          obtain ⟨fuel, rfl⟩ : ∃ less, fuel = less + 1 := ⟨fuel - 1, by omega⟩
          rw [readTokens_succ, readTokens_succ]
          refine (SucceedsAs.refl (bound + 1) _).andThen ?_ fun _ symbol _ _ => ?_
          · intro stream symbol rest found
            exact PrefixCode.size_lt_of_read isNode found
          · refine (SucceedsAs.refl bound _).andThen_of_isLocal (isLocal_readToken distances symbol)
              fun _ token _ _ => ?_
            cases token with
            | none => exact SucceedsAs.refl bound _
            | some token => exact inductionHypothesis (by omega) (token.expand output)

/-! ### Lengths of codewords -/

theorem readCodeLengths_cons (symbol : Nat) (order : List Nat) (count : Nat) (lengths : Array Nat) :
    readCodeLengths (symbol :: order) (count + 1) lengths =
      andThen (readNumber 3) fun length =>
        readCodeLengths order count (lengths.setIfInBounds symbol length) := by
  funext stream
  unfold andThen
  rw [readCodeLengths]
  cases readNumber 3 stream <;> rfl

theorem isLocal_readCodeLengths (order : List Nat) (count : Nat) (lengths : Array Nat) :
    IsLocal (readCodeLengths order count lengths) := by
  induction order generalizing count lengths with
  | nil => cases count <;> exact isLocal_done lengths
  | cons symbol order inductionHypothesis =>
      cases count with
      | zero => exact isLocal_done lengths
      | succ count =>
          rw [readCodeLengths_cons]
          exact (isLocal_readNumber 3).andThen fun length => inductionHypothesis count _

/-- What a symbol that repeats a length stands for: the length, the extra bits and the
least count. -/
def repetition (symbol : Nat) (gathered : List Nat) : Nat × Nat × Nat :=
  if symbol = 16 then (gathered.headD 0, 2, 3)
  else if symbol = 17 then (0, 3, 3)
  else (0, 7, 11)

theorem readLengths_succ (code : PrefixCode) (total fuel : Nat) (gathered : List Nat)
    (count : Nat) :
    readLengths code total (fuel + 1) gathered count =
      if total ≤ count then
        if count = total then done gathered.reverse else fail .corrupt
      else
        andThen code.read fun symbol =>
          if symbol < 16 then readLengths code total fuel (symbol :: gathered) (count + 1)
          else if (symbol = 16 && gathered.isEmpty) = true then fail .corrupt
          else
            andThen (readNumber (repetition symbol gathered).2.1) fun more =>
              readLengths code total fuel
                (List.replicate ((repetition symbol gathered).2.2 + more)
                  (repetition symbol gathered).1 ++ gathered)
                (count + (repetition symbol gathered).2.2 + more) := by
  funext stream
  rw [readLengths]
  split
  · split <;> rfl
  · unfold andThen
    cases code.read stream with
    | error fault => rfl
    | ok found =>
        simp only
        split
        · rfl
        · split
          · rfl
          · simp only [repetition]
            cases readNumber _ found.2 <;> rfl

theorem isLocal_readLengths (code : PrefixCode) (total fuel : Nat) (gathered : List Nat)
    (count : Nat) : IsLocal (readLengths code total fuel gathered count) := by
  induction fuel generalizing gathered count with
  | zero => exact isLocal_fail .corrupt
  | succ fuel inductionHypothesis =>
      rw [readLengths_succ]
      split
      · split
        · exact isLocal_done _
        · exact isLocal_fail .corrupt
      · refine code.isLocal_read.andThen fun symbol => ?_
        split
        · exact inductionHypothesis _ _
        · split
          · exact isLocal_fail .corrupt
          · exact (isLocal_readNumber _).andThen fun more => inductionHypothesis _ _

/-- A symbol takes a bit at least, and one more step finds that the lengths are complete. -/
theorem readLengths_succeedsAs {code : PrefixCode} (isNode : code.IsNode) (total : Nat)
    {bound fuel : Nat} (enough : bound ≤ fuel) (other : Nat) (gathered : List Nat) (count : Nat) :
    SucceedsAs bound (readLengths code total fuel gathered count)
      (readLengths code total other gathered count) := by
  induction other generalizing bound fuel gathered count with
  | zero =>
      intro stream value rest short success
      cases success
  | succ other inductionHypothesis =>
      cases bound with
      | zero =>
          intro stream value rest short
          exact absurd short (Nat.not_lt_zero _)
      | succ bound =>
          obtain ⟨fuel, rfl⟩ : ∃ less, fuel = less + 1 := ⟨fuel - 1, by omega⟩
          have fewer : bound ≤ fuel := by omega
          rw [readLengths_succ, readLengths_succ]
          split
          · exact SucceedsAs.refl _ _
          · refine (SucceedsAs.refl (bound + 1) _).andThen ?_ fun _ symbol _ _ => ?_
            · intro stream symbol rest found
              exact PrefixCode.size_lt_of_read isNode found
            · split
              · exact inductionHypothesis fewer _ _
              · split
                · exact SucceedsAs.refl _ _
                · exact (SucceedsAs.refl bound _).andThen_of_isLocal (isLocal_readNumber _)
                    fun _ more _ _ => inductionHypothesis fewer _ _

/-! ### Codes -/

/-- The codes for literals and for distances whose lengths stand one behind the other. -/
def chooseCodes (literalCount : Nat) (lengths : List Nat) (stream : BitStream) :
    Reading (PrefixCode × PrefixCode) :=
  match PrefixCode.ofLengths? (lengths.take literalCount),
    PrefixCode.ofLengths? (lengths.drop literalCount) with
  | some literals, some distances => .ok ((literals, distances), stream)
  | _, _ => .error .corrupt

theorem readCodes_eq (fuel : Nat) :
    readCodes fuel =
      andThen (readNumber 5) fun literalExtra => andThen (readNumber 5) fun distanceExtra =>
        andThen (readNumber 4) fun lengthExtra =>
          if (286 < literalExtra + 257 || 30 < distanceExtra + 1) = true then fail .corrupt
          else
            andThen (readCodeLengths lengthOrder (lengthExtra + 4) (Array.replicate 19 0))
              fun lengths =>
                if (!isComplete lengths.toList) = true then fail .corrupt
                else
                  andThen (readLengths (PrefixCode.ofLengths lengths.toList)
                    (literalExtra + 257 + (distanceExtra + 1)) fuel [] 0)
                    (chooseCodes (literalExtra + 257)) := by
  funext stream
  unfold readCodes andThen
  cases readNumber 5 stream with
  | error fault => rfl
  | ok literal =>
      simp only [bind, Except.bind]
      cases readNumber 5 literal.2 with
      | error fault => rfl
      | ok distance =>
          simp only
          cases readNumber 4 distance.2 with
          | error fault => rfl
          | ok length =>
              simp only
              split
              · rfl
              · dsimp only
                cases readCodeLengths lengthOrder (length.1 + 4)
                  (Array.replicate 19 0) length.2 with
                | error fault => rfl
                | ok lengths =>
                    simp only
                    split
                    · rfl
                    · dsimp only
                      cases readLengths _ _ fuel [] 0 lengths.2 <;> rfl

theorem isLocal_chooseCodes (literalCount : Nat) (lengths : List Nat) :
    IsLocal (chooseCodes literalCount lengths) := by
  intro stream codes rest success
  unfold chooseCodes at success ⊢
  split at success
  · cases success
    exact ⟨Nat.le_refl _, [], rfl, fun other => rfl⟩
  · cases success

theorem isLocal_readCodes (fuel : Nat) : IsLocal (readCodes fuel) := by
  rw [readCodes_eq]
  refine (isLocal_readNumber 5).andThen fun literalExtra =>
    (isLocal_readNumber 5).andThen fun distanceExtra =>
      (isLocal_readNumber 4).andThen fun lengthExtra => ?_
  split
  · exact isLocal_fail .corrupt
  · refine (isLocal_readCodeLengths _ _ _).andThen fun lengths => ?_
    split
    · exact isLocal_fail .corrupt
    · exact (isLocal_readLengths _ _ _ _ _).andThen fun all => isLocal_chooseCodes _ _

theorem readCodes_succeedsAs {bound fuel : Nat} (enough : bound ≤ fuel) (other : Nat) :
    SucceedsAs bound (readCodes fuel) (readCodes other) := by
  rw [readCodes_eq, readCodes_eq]
  refine (SucceedsAs.refl bound _).andThen_of_isLocal (isLocal_readNumber 5)
    fun _ literalExtra _ _ => ?_
  refine (SucceedsAs.refl bound _).andThen_of_isLocal (isLocal_readNumber 5)
    fun _ distanceExtra _ _ => ?_
  refine (SucceedsAs.refl bound _).andThen_of_isLocal (isLocal_readNumber 4)
    fun _ lengthExtra _ _ => ?_
  split
  · exact SucceedsAs.refl _ _
  · refine (SucceedsAs.refl bound _).andThen_of_isLocal (isLocal_readCodeLengths _ _ _)
      fun _ lengths _ _ => ?_
    split
    · exact SucceedsAs.refl _ _
    · have isNode := PrefixCode.isNode_ofLengths lengths.toList
      exact (readLengths_succeedsAs isNode _ enough other [] 0).andThen_of_isLocal
        (isLocal_readLengths _ _ _ _ _) fun _ _ _ _ => SucceedsAs.refl _ _

theorem isNode_of_readCodes {fuel : Nat} {stream rest : BitStream}
    {codes : PrefixCode × PrefixCode} (success : readCodes fuel stream = .ok (codes, rest)) :
    codes.1.IsNode := by
  rw [readCodes_eq] at success
  obtain ⟨literalExtra, afterLiteral, -, success⟩ := exists_of_andThen success
  obtain ⟨distanceExtra, afterDistance, -, success⟩ := exists_of_andThen success
  obtain ⟨lengthExtra, afterLength, -, success⟩ := exists_of_andThen success
  split at success
  · cases success
  · obtain ⟨lengths, afterLengths, -, success⟩ := exists_of_andThen success
    split at success
    · cases success
    · obtain ⟨all, afterAll, -, chosen⟩ := exists_of_andThen success
      unfold chooseCodes at chosen
      split at chosen
      · rename_i literals distances isLiterals isDistances
        cases chosen
        exact PrefixCode.isNode_of_ofLengths? isLiterals
      · cases chosen

/-! ### Blocks -/

/-- A block after its header, as a reader. -/
def readBlock (fuel kind : Nat) (output : Array UInt8) (stream : BitStream) :
    Reading (Array UInt8) :=
  finished (expandBlock fuel kind output stream)

theorem readBlock_eq (fuel kind : Nat) (output : Array UInt8) :
    readBlock fuel kind output =
      if kind = 0 then fun stream => finished (expandStored output stream)
      else if kind = 1 then readTokens fixedLiterals fixedDistances fuel output
      else if kind = 2 then
        andThen (readCodes fuel) fun codes => readTokens codes.1 codes.2 fuel output
      else fail .corrupt := by
  funext stream
  unfold readBlock expandBlock
  split
  · rfl
  · split
    · rfl
    · split
      · unfold andThen
        cases readCodes fuel stream <;> rfl
      · rfl

theorem isLocal_readBlock (fuel kind : Nat) (output : Array UInt8) :
    IsLocal (readBlock fuel kind output) := by
  rw [readBlock_eq]
  split
  · exact isLocal_expandStored output
  · split
    · exact isLocal_readTokens _ _ _ _
    · split
      · exact (isLocal_readCodes fuel).andThen fun codes => isLocal_readTokens _ _ _ _
      · exact isLocal_fail .corrupt

theorem readBlock_succeedsAs {bound fuel : Nat} (enough : bound ≤ fuel) (other kind : Nat)
    (output : Array UInt8) :
    SucceedsAs bound (readBlock fuel kind output) (readBlock other kind output) := by
  rw [readBlock_eq, readBlock_eq]
  split
  · exact SucceedsAs.refl _ _
  · split
    · exact readTokens_succeedsAs (PrefixCode.isNode_ofLengths _) _ enough _ _
    · split
      · exact (readCodes_succeedsAs enough other).andThen_of_isLocal (isLocal_readCodes other)
          fun stream codes rest isCodes =>
            readTokens_succeedsAs (isNode_of_readCodes isCodes) _ enough _ _
      · exact SucceedsAs.refl _ _

/-- The blocks of a stream up to the final one, as a reader. -/
def readBlocks (bound fuel : Nat) (output : Array UInt8) (stream : BitStream) :
    Reading (Array UInt8) :=
  finished (expandBlocks bound fuel output stream)

theorem readBlocks_succ (bound fuel : Nat) (output : Array UInt8) :
    readBlocks bound (fuel + 1) output =
      andThen (readNumber 3) fun header =>
        andThen (readBlock bound (header / 2) output) fun extended =>
          if header % 2 = 1 then done extended else readBlocks bound fuel extended := by
  funext stream
  unfold readBlocks readBlock andThen
  rw [expandBlocks]
  cases readNumber 3 stream with
  | error fault => rfl
  | ok header =>
      simp only
      obtain ⟨extended, ending⟩ := expandBlock bound (header.1 / 2) output header.2
      cases ending with
      | error fault => rfl
      | ok after =>
          simp only [finished]
          by_cases isFinal : header.1 % 2 = 1
          · simp only [isFinal, if_true]
            rfl
          · simp only [isFinal, if_false]

theorem isLocal_readBlocks (bound fuel : Nat) (output : Array UInt8) :
    IsLocal (readBlocks bound fuel output) := by
  induction fuel generalizing output with
  | zero => exact isLocal_fail .corrupt
  | succ fuel inductionHypothesis =>
      rw [readBlocks_succ]
      refine (isLocal_readNumber 3).andThen fun header =>
        (isLocal_readBlock _ _ _).andThen fun extended => ?_
      split
      · exact isLocal_done extended
      · exact inductionHypothesis extended

/-- A block takes the bits of its header at least, so there are no more steps than bits. -/
theorem readBlocks_succeedsAs {bound steps fuel : Nat} (enoughSteps : bound ≤ steps)
    (enough : bound ≤ fuel) (other otherSteps : Nat) (output : Array UInt8) :
    SucceedsAs bound (readBlocks fuel steps output) (readBlocks other otherSteps output) := by
  induction otherSteps generalizing bound steps output with
  | zero =>
      intro stream value rest short success
      cases success
  | succ otherSteps inductionHypothesis =>
      cases bound with
      | zero =>
          intro stream value rest short
          exact absurd short (Nat.not_lt_zero _)
      | succ bound =>
          obtain ⟨steps, rfl⟩ : ∃ less, steps = less + 1 := ⟨steps - 1, by omega⟩
          rw [readBlocks_succ, readBlocks_succ]
          refine (SucceedsAs.refl (bound + 1) _).andThen ?_ fun _ header _ _ => ?_
          · intro stream header rest found
            have three := size_of_readNumber found
            omega
          · have less : bound ≤ fuel := by omega
            refine (readBlock_succeedsAs less other _ _).andThen_of_isLocal
              (isLocal_readBlock _ _ _)
              fun _ extended _ _ => ?_
            split
            · exact SucceedsAs.refl _ _
            · exact inductionHypothesis (by omega) less extended

/-! ### Streams -/

/-- Two readings of the same blocks that end do so alike, however many steps they are allowed. -/
theorem readBlocks_unique {bound steps other otherSteps : Nat}
    {output extended otherOutput : Array UInt8}
    {stream rest otherRest : BitStream}
    (success : readBlocks bound steps output stream = .ok (extended, rest))
    (otherSuccess : readBlocks other otherSteps output stream = .ok (otherOutput, otherRest)) :
    extended = otherOutput ∧ rest = otherRest := by
  have enough := Nat.le_refl (stream.size + 1)
  have isRead := readBlocks_succeedsAs enough enough bound steps output stream extended rest
    (Nat.lt_succ_self _) success
  have isOther := readBlocks_succeedsAs enough enough other otherSteps output stream otherOutput
    otherRest (Nat.lt_succ_self _) otherSuccess
  have same := isRead.symm.trans isOther
  cases same
  exact ⟨rfl, rfl⟩

theorem inflateAll_eq_none_iff {packed : Bytes} {output : Array UInt8} :
    inflateAll packed = (output, none) ↔
      ∃ bound steps rest,
        readBlocks bound steps #[] (BitStream.ofBytes packed) = .ok (output, rest) := by
  have atOnce : inflateAll packed = (output, none) ↔ ∃ rest,
      readBlocks ((BitStream.ofBytes packed).size + 1) ((BitStream.ofBytes packed).size + 1) #[]
        (BitStream.ofBytes packed) = .ok (output, rest) := by
    simp only [readBlocks, finished_eq_ok_iff]
    unfold inflateAll
    simp only
    generalize expandBlocks _ _ _ _ = progress
    obtain ⟨extended, ending⟩ := progress
    cases ending <;> simp
  refine atOnce.trans ⟨fun ⟨rest, isRead⟩ =>
    ⟨_, _, rest, isRead⟩, fun ⟨bound, steps, rest, isRead⟩ =>
    ⟨rest, ?_⟩⟩
  exact readBlocks_succeedsAs (Nat.le_refl _) (Nat.le_refl _) bound steps #[] _ _ _
    (Nat.lt_succ_self _) isRead

/-- A byte string that ends well begins with a stream that ends it: whatever stands behind the
stream the data are the same, and no shorter front of the stream ends well. -/
theorem exists_stream_of_inflateAll {packed : Bytes} {output : Array UInt8}
    (success : inflateAll packed = (output, none)) :
    ∃ stream rest, packed = stream ++ rest ∧
      (∀ other, inflateAll (stream ++ other) = (output, none)) ∧
      ∀ front more, stream = front ++ more → more ≠ [] → (inflateAll front).2 ≠ none := by
  obtain ⟨bound, steps, rest, isRead⟩ := inflateAll_eq_none_iff.mp success
  obtain ⟨-, stream, isPacked, again⟩ := isLocal_readBlocks _ _ _ _ _ _ isRead
  refine ⟨stream, rest.bytes, isPacked,
    fun other => inflateAll_eq_none_iff.mpr ⟨bound, steps, _, again other⟩,
    fun front more isStream some endsWell => some ?_⟩
  obtain ⟨early, isEarly⟩ : ∃ early, inflateAll front = (early, none) :=
    ⟨(inflateAll front).1, Prod.ext rfl endsWell⟩
  obtain ⟨earlyBound, earlySteps, earlyRest, earlyRead⟩ := inflateAll_eq_none_iff.mp isEarly
  obtain ⟨-, head, isFront, earlyAgain⟩ := isLocal_readBlocks _ _ _ _ _ _ earlyRead
  -- The whole stream leaves no byte, and its front leaves what stands behind the front.
  have whole := again []
  have part := earlyAgain (earlyRest.bytes ++ more)
  have same : stream ++ [] = head ++ (earlyRest.bytes ++ more) := by
    rw [List.append_nil, isStream, ← List.append_assoc, ← isFront]
    rfl
  rw [same] at whole
  have leaves := (readBlocks_unique whole part).2
  have nothing : [] = earlyRest.bytes ++ more := congrArg BitStream.bytes leaves
  exact (List.append_eq_nil_iff.mp nothing.symm).2

end EventTransport.Deflate
