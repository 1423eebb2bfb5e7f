import EventTransport.Proofs.Channel.Peers

/-!
Contract: how much the tasks of a closed channel still do.

Owns:
- `Channel.toil`, how many moves are left at most to the tasks of a channel that is told to stop,
  with the bytes that are on their way to it;
- that every move of a task lowers this number;
- what no task changes.

Operations are counted with the handlers that are bound, so handlers are taken not to bind others.

Does not own: whether a move is possible.
-/

namespace EventTransport

namespace Registry

variable {α : Type}

theorem length_get_le (registry : Registry α) (key : Subscription) :
    (registry.get key).length ≤ (registry.entries.flatMap Prod.snd).length := by
  obtain ⟨entries⟩ := registry
  unfold get
  induction entries with
  | nil => exact Nat.zero_le _
  | cons entry entries inductionHypothesis =>
      obtain ⟨own, values⟩ := entry
      rw [List.lookup_cons, List.flatMap_cons, List.length_append]
      cases key == own with
      | true => exact Nat.le_add_right _ _
      | false => exact Nat.le_trans inductionHypothesis (Nat.le_add_left _ _)

/-- No kind of event goes to more than so many values. -/
theorem exists_length_route_le (registry : Registry α) :
    ∃ most, ∀ event, (registry.route event).length ≤ most := by
  let total := (registry.entries.flatMap Prod.snd).length
  refine ⟨total + total, fun event => ?_⟩
  have own := registry.length_get_le (.uid event)
  have general := registry.length_get_le .all
  simp only [route, Subscription.route, List.flatMap_cons, List.flatMap_nil, List.append_nil,
    List.length_append]
  omega

end Registry

namespace Channel

variable {H : Type}

/-- How many moves an operation takes at most, if no event has more than so many handlers: it is
begun and ended, and each handler is called and returns. -/
def operationToil (most : Nat) : Nat := 2 * most + 2

/-- How many moves it takes to leave the loop, to find no operation left, and to shut down. -/
def stageToil : StrandStage → Nat
  | .running => 3
  | .draining _ => 2

/-- How many moves a strand that is told to stop has left at most, with so many operations not
begun, and with a handler at work or not. A write in flight goes on to its end. -/
def strandToil (most operations : Nat) (atWork : Bool) : Strand H → Nat
  | .absent => 0
  | .between stage => operations * operationToil most + stageToil stage
  | .calling stage _ handlers =>
    operations * operationToil most + stageToil stage + 2 * handlers.length + 1 + atWork.toNat
  | .writing _ rest => operations * operationToil most + stageToil .running + rest.length + 1
  | .closing _ => 1
  | .ended => 0
  | .died => 0

/-- How many moves a read loop brings about at most, with so many bytes in the stream. Every byte
may be read by a move of its own, after which the loop looks for a frame; one that it finds has a
byte at least, and is dispatched. -/
def readerToil (most inStream : Nat) : ReadLoop → Nat
  | .absent => 0
  | .awaiting buffer =>
    buffer.held.length * (operationToil most + 1) + inStream * (operationToil most + 3) + 1
  | .decoding buffer =>
    buffer.held.length * (operationToil most + 1) + inStream * (operationToil most + 3) + 2
  | .ended => 0

/-- How many moves the tasks of a closed channel have left at most. -/
def toil (most inStream : Nat) (atWork : Bool) (channel : Channel H) : Nat :=
  strandToil most channel.operations.length atWork channel.strand +
    readerToil most inStream channel.reader

variable {before after : Channel H} {move : Move H} {most : Nat}

/-- An operation more costs no more than an operation does. -/
theorem strandToil_le_of_le {fewer more : Nat} (oneMore : more ≤ fewer + 1) (atWork : Bool)
    (strand : Strand H) :
    strandToil most more atWork strand ≤ strandToil most fewer atWork strand +
      operationToil most := by
  have dearer : more * operationToil most ≤ fewer * operationToil most + operationToil most := by
    rw [← Nat.succ_mul]
    exact Nat.mul_le_mul_right _ oneMore
  cases strand <;> simp only [strandToil] <;> omega

theorem readerToil_pos (most inStream : Nat) {reader : ReadLoop} (present : reader ≠ .absent)
    (alive : reader ≠ .ended) : 0 < readerToil most inStream reader := by
  cases reader with
  | absent => exact absurd rfl present
  | ended => exact absurd rfl alive
  | _ => exact Nat.succ_pos _

/-- Bytes that come into the stream make as much work as they cost there. -/
theorem readerToil_le_of_le (most : Nat) {inStream more puts : Nat} (came : more ≤ inStream + puts)
    (reader : ReadLoop) :
    readerToil most more reader ≤
      readerToil most inStream reader + (operationToil most + 3) * puts := by
  have dearer := Nat.mul_le_mul_right (operationToil most + 3) came
  rw [Nat.add_mul, Nat.mul_comm puts] at dearer
  cases reader <;> simp only [readerToil] <;> omega

theorem length_operations_post_le (channel : Channel H) (operation : Operation) :
    (channel.post operation).operations.length ≤ channel.operations.length + 1 := by
  unfold Channel.post
  split <;> simp

/-- A frame taken from a buffer costs more than an operation does. -/
theorem held_drop_toil_le (most : Nat) (buffer : ReadBuffer) {count : Nat} (some : 15 ≤ count)
    (inside : count ≤ buffer.held.length) :
    (buffer.drop count).held.length * (operationToil most + 1) + operationToil most + 1 ≤
      buffer.held.length * (operationToil most + 1) := by
  have fewer : (buffer.drop count).held.length + 1 ≤ buffer.held.length := by
    rw [ReadBuffer.held_drop, List.length_drop]
    omega
  have cheaper := Nat.mul_le_mul_right (operationToil most + 1) fewer
  rw [Nat.succ_mul] at cheaper
  exact cheaper

/-- Every move of the read loop lowers what is left to do: what it reads costs less in its buffer
than in the stream, and an event that it finds costs less in the queue than its bytes did. -/
theorem toil_lt_of_reading (moves : Moves before move after) (own : move.isOfReader = true)
    (atWork : Bool) {inStream left : Nat}
    (read : inStream = (Made.mk before move after).bytes.length + left) :
    after.toil most left atWork < before.toil most inStream atWork := by
  have ends {reader : ReadLoop} (same : before.reader = reader) (present : reader ≠ .absent)
      (alive : reader ≠ .ended) :
      strandToil most before.operations.length atWork before.strand + 0 <
        before.toil most inStream atWork := by
    unfold toil
    rw [same]
    exact Nat.add_lt_add_left (readerToil_pos most inStream present alive) _
  cases moves with
  | starved reader greedy => exact ends reader nofun nofun
  | invalid reader decoded => exact ends reader nofun nofun
  | finished reader => exact ends reader nofun nofun
  | failed reader fault => exact ends reader nofun nofun
  | told reader cancelled => exact ends reader nofun nofun
  | @unfinished buffer reader decoded =>
      have same : inStream = left := by simpa using read
      have held : (before.makeRoom buffer).held = buffer.held := by simp [makeRoom]
      unfold toil
      rw [reader, same]
      apply Nat.add_lt_add_left
      show readerToil most left (.awaiting (before.makeRoom buffer)) < _
      simp only [readerToil, held]
      omega
  | @decoded buffer event count reader decoded =>
      have same : inStream = left := by simpa using read
      let found : Channel H :=
        { before with reader := .decoding (buffer.drop count), bus := before.bus.enqueue event }
      have queued : strandToil most (found.post .dispatch).operations.length atWork before.strand ≤
          strandToil most before.operations.length atWork before.strand + operationToil most :=
        strandToil_le_of_le (length_operations_post_le found .dispatch) atWork before.strand
      have usedUp := held_drop_toil_le most buffer (Codec.fifteen_le_of_decode decoded)
        (Codec.taken_le_of_decode decoded)
      show strandToil most (found.post .dispatch).operations.length atWork
          (found.post .dispatch).strand +
        readerToil most left (found.post .dispatch).reader < _
      unfold toil
      rw [strand_post, reader_post, reader, same]
      simp only [found, readerToil] at queued usedUp ⊢
      omega
  | @received buffer bytes reader some fits =>
      have cameFrom : inStream = bytes.length + left := read
      have positive := List.length_pos_iff.mpr some
      unfold toil
      rw [reader, cameFrom]
      apply Nat.add_lt_add_left
      show readerToil most left (.decoding (buffer.append bytes)) < _
      simp only [readerToil, ReadBuffer.held_append, List.length_append, Nat.add_mul, Nat.mul_add]
      omega
  | _ => cases own

/-- Only moves of the read loop change it once it has begun. -/
theorem Moves.reader_eq (moves : Moves before move after) (task : move.isOfTask = true)
    (aside : move.isOfReader = false) : after.reader = before.reader := by
  cases moves <;> first | cases task; done | cases aside; done | rfl

/-- Every move of the strand, and of the handlers that it calls, lowers what is left to do. -/
theorem strandToil_lt (moves : Moves before move after) (task : move.isOfTask = true)
    (aside : move.isOfReader = false) (cancelled : before.cancelled = true) {atWork works : Bool}
    (attended : move.Attended atWork works)
    (attends : atWork = true → ∃ stage event handlers,
      before.strand = .calling stage event handlers)
    (bounded : ∀ event, (before.bus.handlersFor event).length ≤ most) :
    strandToil most after.operations.length works after.strand <
      strandToil most before.operations.length atWork before.strand := by
  cases moves with
  | act | joined => cases task
  | left strand =>
      obtain ⟨rfl, rfl⟩ := attended
      rw [strand]
      exact Nat.lt_succ_self _
  | @dispatched stage later event handlers bus strand untold operations taken =>
      obtain ⟨rfl, rfl⟩ := attended
      have few := bounded event
      rw [← (LocalBus.take?_eq_some_iff.mp taken).2.2] at few
      rw [strand, operations]
      simp only [strandToil, operationToil, List.length_cons, Nat.succ_mul, Bool.toNat_false]
      omega
  | foundNothing strand untold operations nothing =>
      obtain ⟨rfl, rfl⟩ := attended
      rw [strand, operations]
      simp only [strandToil, operationToil, List.length_cons, Nat.succ_mul]
      omega
  | encoded strand untold operations framed => rw [cancelled] at untold; cases untold
  | unencodable strand untold operations framed => rw [cancelled] at untold; cases untold
  | discarded strand operations =>
      rw [strand, operations]
      simp only [strandToil, operationToil, List.length_cons, Nat.succ_mul]
      omega
  | emptied strand operations =>
      rw [strand, operations]
      simp only [strandToil, stageToil]
      omega
  | handled strand =>
      obtain ⟨rfl, rfl⟩ := attended
      rw [strand]
      simp only [strandToil]
      omega
  | flushed strand =>
      rw [strand]
      simp only [strandToil]
      omega
  | called strand =>
      obtain ⟨rfl, rfl⟩ := attended
      rw [strand]
      simp only [strandToil, List.length_cons, Bool.toNat_true, Bool.toNat_false]
      omega
  | returned =>
      obtain ⟨rfl, rfl⟩ := attended
      obtain ⟨stage, event, handlers, strand⟩ := attends rfl
      rw [strand]
      simp only [strandToil, Bool.toNat_true, Bool.toNat_false]
      omega
  | died =>
      obtain ⟨rfl, rfl⟩ := attended
      obtain ⟨stage, event, handlers, strand⟩ := attends rfl
      rw [strand]
      simp only [Channel.handlerDied, strandToil]
      omega
  | wrote strand some fits =>
      rw [strand]
      simp only [strandToil, List.length_drop]
      omega
  | refused strand fault =>
      rw [strand]
      simp only [Channel.leave, Channel.close, strandToil, stageToil]
      omega
  | shut strand =>
      rw [strand]
      exact Nat.one_pos
  | _ => cases aside

/-- What no task changes: a channel that is told to stop stays so, and the handlers stay bound. -/
theorem Moves.settled (moves : Moves before move after) (task : move.isOfTask = true)
    (cancelled : before.cancelled = true) :
    after.cancelled = true ∧ after.bus.bindings = before.bus.bindings := by
  cases moves with
  | act | joined => cases task
  | decoded => exact ⟨(cancelled_post _ _).trans cancelled, by rw [bus_deliver]; rfl⟩
  | dispatched strand untold operations taken =>
      exact ⟨cancelled, (LocalBus.take?_eq_some_iff.mp taken).2.1⟩
  | invalid | finished | failed | told | left | unencodable | refused => exact ⟨rfl, rfl⟩
  | _ => exact ⟨cancelled, rfl⟩

end Channel

end EventTransport
