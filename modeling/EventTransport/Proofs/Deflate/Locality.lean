import EventTransport.Deflate.Inflate

/-!
Contract: what a reader of bits takes, and that nothing behind it counts.

Owns:
- `Reading.andThen`, one reader after the other;
- `Reading.IsLocal`, a reader whose answer depends on the bytes that it takes, and not on those
  behind;
- `Reading.SucceedsAs`, a reader that succeeds on short streams wherever another one does;
- the readers of numbers, symbols and tokens in these terms.

Does not own: the loops of blocks.
-/

namespace EventTransport.Deflate

namespace BitStream

/-- Taking a bit leaves a bit less. -/
theorem size_of_next? {stream rest : BitStream} {bit : Bool}
    (taken : stream.next? = some (bit, rest)) : rest.size + 1 = stream.size := by
  obtain ⟨begun, bytes⟩ := stream
  unfold next? at taken
  cases begun with
  | cons first begun =>
      cases taken
      simp only [size, List.length_cons]
      omega
  | nil =>
      cases bytes with
      | nil => cases taken
      | cons byte bytes =>
          cases taken
          simp only [size, List.length_cons, List.length_nil]
          omega

/-- A bit comes from the byte that has been begun, or from the first one behind it. -/
theorem exists_front_of_next? {stream rest : BitStream} {bit : Bool}
    (taken : stream.next? = some (bit, rest)) :
    ∃ front, stream.bytes = front ++ rest.bytes ∧
      ∀ other, next? ⟨stream.begun, front ++ other⟩ = some (bit, ⟨rest.begun, other⟩) := by
  obtain ⟨begun, bytes⟩ := stream
  unfold next? at taken
  cases begun with
  | cons first begun =>
      cases taken
      exact ⟨[], rfl, fun other => rfl⟩
  | nil =>
      cases bytes with
      | nil => cases taken
      | cons byte bytes =>
          cases taken
          exact ⟨[byte], rfl, fun other => rfl⟩

end BitStream

namespace Reading

variable {α β : Type}

/-- A value without a bit taken. -/
def done (value : α) (stream : BitStream) : Reading α := .ok (value, stream)

/-- No value, whatever the stream. -/
def fail (fault : CompressionFault) (_ : BitStream) : Reading α := .error fault

/-- One reader, and another one for what it leaves. -/
def andThen (read : BitStream → Reading α) (next : α → BitStream → Reading β)
    (stream : BitStream) : Reading β :=
  match read stream with
  | .error fault => .error fault
  | .ok (value, rest) => next value rest

theorem exists_of_andThen {read : BitStream → Reading α} {next : α → BitStream → Reading β}
    {stream rest : BitStream} {value : β} (success : andThen read next stream = .ok (value, rest)) :
    ∃ first middle, read stream = .ok (first, middle) ∧ next first middle = .ok (value, rest) := by
  unfold andThen at success
  split at success
  · cases success
  · rename_i first middle isFirst
    exact ⟨first, middle, isFirst, success⟩

theorem andThen_of_ok {read : BitStream → Reading α} {next : α → BitStream → Reading β}
    {stream middle : BitStream} {first : α} (isFirst : read stream = .ok (first, middle)) :
    andThen read next stream = next first middle := by
  unfold andThen
  rw [isFirst]

/-! ### Locality -/

/-- What a reader leaves is no more than there was, and it would have answered the same had there
been anything else behind the bytes that it takes. -/
def IsLocal (read : BitStream → Reading α) : Prop :=
  ∀ stream value rest, read stream = .ok (value, rest) →
    rest.size ≤ stream.size ∧ ∃ front, stream.bytes = front ++ rest.bytes ∧
      ∀ other, read ⟨stream.begun, front ++ other⟩ = .ok (value, ⟨rest.begun, other⟩)

theorem isLocal_done (value : α) : IsLocal (done value) := by
  intro stream other rest success
  cases success
  exact ⟨Nat.le_refl _, [], rfl, fun other => rfl⟩

theorem isLocal_fail (fault : CompressionFault) : IsLocal (fail fault : BitStream → Reading α) := by
  intro stream value rest success
  cases success

theorem IsLocal.andThen {read : BitStream → Reading α} {next : α → BitStream → Reading β}
    (isLocal : IsLocal read) (nextLocal : ∀ value, IsLocal (next value)) :
    IsLocal (andThen read next) := by
  intro stream value rest success
  obtain ⟨first, middle, isFirst, isSecond⟩ := exists_of_andThen success
  obtain ⟨firstLess, front, firstBytes, firstAgain⟩ := isLocal stream first middle isFirst
  obtain ⟨secondLess, back, secondBytes, secondAgain⟩ := nextLocal first middle value rest isSecond
  refine ⟨Nat.le_trans secondLess firstLess, front ++ back, ?_, fun other => ?_⟩
  · rw [firstBytes, secondBytes, List.append_assoc]
  · rw [List.append_assoc, andThen_of_ok (firstAgain (back ++ other))]
    exact secondAgain other

/-! ### Short streams -/

/-- On streams of fewer than `bound` bits one reader succeeds, with the same value, wherever another
does. -/
def SucceedsAs (bound : Nat) (read other : BitStream → Reading α) : Prop :=
  ∀ stream value rest, stream.size < bound → other stream = .ok (value, rest) →
    read stream = .ok (value, rest)

theorem SucceedsAs.refl (bound : Nat) (read : BitStream → Reading α) :
    SucceedsAs bound read read :=
  fun _ _ _ _ success => success

/-- What goes on after a reader that takes `least` bits at least meets a stream that
much shorter. -/
theorem SucceedsAs.andThen {bound least : Nat} {read other : BitStream → Reading α}
    {next otherNext : α → BitStream → Reading β} (succeeds : SucceedsAs (bound + least) read other)
    (takes : ∀ stream value rest, other stream = .ok (value, rest) →
      rest.size + least ≤ stream.size)
    (nextSucceeds : ∀ stream value rest, other stream = .ok (value, rest) →
      SucceedsAs bound (next value) (otherNext value)) :
    SucceedsAs (bound + least) (andThen read next) (andThen other otherNext) := by
  intro stream value rest short success
  obtain ⟨first, middle, isFirst, isSecond⟩ := exists_of_andThen success
  rw [andThen_of_ok (succeeds stream first middle short isFirst)]
  have shorter := takes stream first middle isFirst
  exact nextSucceeds stream first middle isFirst middle value rest (by omega) isSecond

/-- What goes on after a reader that may take nothing meets a stream that is no longer. -/
theorem SucceedsAs.andThen_of_isLocal {bound : Nat} {read other : BitStream → Reading α}
    {next otherNext : α → BitStream → Reading β} (succeeds : SucceedsAs bound read other)
    (isLocal : IsLocal other)
    (nextSucceeds : ∀ stream value rest, other stream = .ok (value, rest) →
      SucceedsAs bound (next value) (otherNext value)) :
    SucceedsAs bound (Reading.andThen read next) (Reading.andThen other otherNext) := by
  have less : ∀ stream value rest, other stream = .ok (value, rest) → rest.size + 0 ≤ stream.size :=
    fun stream value rest success => (isLocal stream value rest success).1
  have alike : SucceedsAs (bound + 0) read other := succeeds
  exact alike.andThen less nextSucceeds

end Reading

open Reading

/-! ### Numbers -/

/-- The next bit. -/
def readBit (stream : BitStream) : Reading Bool :=
  match stream.next? with
  | none => .error .incomplete
  | some found => .ok found

theorem next?_of_readBit {stream rest : BitStream} {bit : Bool}
    (success : readBit stream = .ok (bit, rest)) : stream.next? = some (bit, rest) := by
  unfold readBit at success
  split at success
  · cases success
  · rename_i taken
    cases success
    exact taken

theorem size_of_readBit {stream rest : BitStream} {bit : Bool}
    (success : readBit stream = .ok (bit, rest)) : rest.size + 1 = stream.size :=
  BitStream.size_of_next? (next?_of_readBit success)

theorem isLocal_readBit : IsLocal readBit := by
  intro stream bit rest success
  obtain ⟨front, bytes, again⟩ := BitStream.exists_front_of_next? (next?_of_readBit success)
  have less := size_of_readBit success
  refine ⟨by omega, front, bytes, fun other => ?_⟩
  unfold readBit
  rw [again]

theorem readNumber_succ (count : Nat) :
    readNumber (count + 1) =
      andThen readBit fun bit => andThen (readNumber count) fun higher =>
        done (bit.toNat + 2 * higher) := by
  funext stream
  unfold readNumber andThen readBit
  rw [BitStream.number?]
  cases stream.next? with
  | none => rfl
  | some found =>
      simp only
      cases BitStream.number? count found.2 <;> rfl

theorem isLocal_readNumber (count : Nat) : IsLocal (readNumber count) := by
  induction count with
  | zero => exact isLocal_done 0
  | succ count inductionHypothesis =>
      rw [readNumber_succ]
      exact isLocal_readBit.andThen fun bit => inductionHypothesis.andThen fun higher =>
        isLocal_done _

/-- A number takes as many bits as it has. -/
theorem size_of_readNumber {count value : Nat} {stream rest : BitStream}
    (success : readNumber count stream = .ok (value, rest)) : rest.size + count = stream.size := by
  induction count generalizing stream value with
  | zero =>
      cases success
      rfl
  | succ count inductionHypothesis =>
      rw [readNumber_succ] at success
      obtain ⟨bit, middle, isBit, later⟩ := exists_of_andThen success
      obtain ⟨higher, last, isNumber, ended⟩ := exists_of_andThen later
      cases ended
      have one := size_of_readBit isBit
      have others := inductionHypothesis isNumber
      omega

/-! ### Symbols -/

namespace PrefixCode

theorem read_node (zero one : PrefixCode) :
    (node zero one).read = andThen readBit fun bit => if bit then one.read else zero.read := by
  funext stream
  unfold andThen readBit
  rw [read]
  cases stream.next? with
  | none => rfl
  | some found =>
      obtain ⟨bit, rest⟩ := found
      cases bit <;> rfl

theorem isLocal_read (code : PrefixCode) : IsLocal code.read := by
  induction code with
  | unused => exact isLocal_fail .corrupt
  | leaf symbol => exact isLocal_done symbol
  | node zero one fromZero fromOne =>
      rw [read_node]
      refine isLocal_readBit.andThen fun bit => ?_
      cases bit with
      | false => exact fromZero
      | true => exact fromOne

/-- A code in which no symbol has an empty codeword. -/
def IsNode : PrefixCode → Prop
  | node _ _ => True
  | _ => False

theorem isNode_insert {code : PrefixCode} {symbol : Nat} {bits : List Bool} (some : bits ≠ []) :
    (insert symbol bits code).IsNode := by
  cases bits with
  | nil => exact absurd rfl some
  | cons bit bits => cases bit <;> cases code <;> trivial

theorem isNode_insertAll {code : PrefixCode} (isNode : code.IsNode) (symbol : Nat)
    (words : List (List Bool)) : (insertAll code symbol words).IsNode := by
  induction words generalizing code symbol with
  | nil => exact isNode
  | cons word words inductionHypothesis =>
      cases word with
      | nil => exact inductionHypothesis isNode (symbol + 1)
      | cons bit bits =>
          exact inductionHypothesis (isNode_insert (List.cons_ne_nil bit bits)) (symbol + 1)

theorem isNode_ofLengths (lengths : List Nat) : (ofLengths lengths).IsNode := by
  have isNode : empty.IsNode := trivial
  exact isNode_insertAll isNode 0 (codewords lengths)

theorem isNode_of_ofLengths? {lengths : List Nat} {code : PrefixCode}
    (isCode : ofLengths? lengths = some code) : code.IsNode := by
  unfold ofLengths? at isCode
  split at isCode
  · cases isCode
    exact isNode_ofLengths lengths
  · cases isCode

/-- A symbol takes a bit at least. -/
theorem size_lt_of_read {code : PrefixCode} (isNode : code.IsNode) {stream rest : BitStream}
    {symbol : Nat} (found : code.read stream = .ok (symbol, rest)) : rest.size < stream.size := by
  cases code with
  | node zero one =>
      rw [read_node] at found
      obtain ⟨bit, middle, isBit, later⟩ := exists_of_andThen found
      have one := size_of_readBit isBit
      have less : rest.size ≤ middle.size := by
        cases bit <;> exact size_le_of_read later
      omega
  | unused => cases isNode
  | leaf symbol => cases isNode

end PrefixCode

/-! ### Tokens -/

theorem readValue_eq (symbols : Array (Nat × Nat)) (symbol : Nat) :
    readValue symbols symbol =
      match symbols[symbol]? with
      | none => fail .corrupt
      | some (base, extra) => andThen (readNumber extra) fun offset => done (base + offset) := by
  funext stream
  unfold readValue
  cases symbols[symbol]? with
  | none => rfl
  | some entry =>
      obtain ⟨base, extra⟩ := entry
      simp only [andThen]
      cases readNumber extra stream <;> rfl

theorem isLocal_readValue (symbols : Array (Nat × Nat)) (symbol : Nat) :
    IsLocal (readValue symbols symbol) := by
  rw [readValue_eq]
  split
  · exact isLocal_fail .corrupt
  · exact (isLocal_readNumber _).andThen fun offset => isLocal_done _

theorem readToken_eq (distances : PrefixCode) (symbol : Nat) :
    readToken distances symbol =
      if symbol < endOfBlock then done (some (.literal (UInt8.ofNat symbol)))
      else if symbol = endOfBlock then done none
      else
        andThen (readValue lengthSymbols (symbol - firstLengthSymbol)) fun length =>
          andThen distances.read fun distanceSymbol =>
            andThen (readValue distanceSymbols distanceSymbol) fun distance =>
              done (some (.copy length distance)) := by
  funext stream
  unfold readToken
  split
  · rfl
  · split
    · rfl
    · unfold andThen
      cases readValue lengthSymbols (symbol - firstLengthSymbol) stream with
      | error fault => rfl
      | ok found =>
          simp only
          cases distances.read found.2 with
          | error fault => rfl
          | ok symbolFound =>
              simp only
              cases readValue distanceSymbols symbolFound.1 symbolFound.2 <;> rfl

theorem isLocal_readToken (distances : PrefixCode) (symbol : Nat) :
    IsLocal (readToken distances symbol) := by
  rw [readToken_eq]
  split
  · exact isLocal_done _
  · split
    · exact isLocal_done _
    · exact (isLocal_readValue _ _).andThen fun length =>
        distances.isLocal_read.andThen fun distanceSymbol =>
          (isLocal_readValue _ _).andThen fun distance => isLocal_done _

end EventTransport.Deflate
