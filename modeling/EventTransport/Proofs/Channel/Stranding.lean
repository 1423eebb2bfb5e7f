import EventTransport.Proofs.Channel.Serving

/-!
Contract: what becomes of the events that a read loop delivers while its channel closes.

Owns:
- `Channel.Made.delivered`, what the read loop puts into the queue;
- `Channel.Strands`, the invariant of a session whose queue is left to the tasks, whatever closes
  it: a dispatch is outstanding for every event that was delivered in time and has not been
  dispatched;
- that what was delivered before the strand left its loop is dispatched, and nothing else ever.

A read loop that waits for bytes heeds them or the order to stop, whichever it comes upon first, and
it puts every event of the bytes that it has into the queue before it looks again. The strand does
not wait for it: nobody dispatches what comes after it has gone.

Does not own: what is in the bytes read.
-/

namespace EventTransport

namespace Channel

variable {H : Type}

/-- The events that the read loop has put into the queue. -/
def Made.delivered (made : Made H) : List Event :=
  match made.move with
  | .readerTurn => made.after.bus.queue.drop made.before.bus.queue.length
  | _ => []

/-- Whether the strand takes operations, and what of the events delivered it has still
to dispatch. -/
structure Strands (channel : Channel H) (dispatched inTime late : List Event) : Prop where
  account : dispatched ++ channel.bus.queue = inTime ++ late
  outstanding : channel.operations.count .dispatch + dispatched.length = inTime.length
  accepting : channel.accepting = !hasLeft channel.strand
  nothingLate : hasLeft channel.strand = false → late = []

namespace Strands

variable {channel : Channel H} {dispatched inTime late : List Event}

theorem fresh (config : Config) (codec : Codec) :
    Strands ({ config := config, codec := codec } : Channel H) [] [] [] := by
  constructor <;> simp [LocalBus.empty]

/-- The queue and the dispatches that are outstanding are left alone, and a strand that has left its
loop does not come back to it. -/
theorem keep {after : Channel H} (strands : channel.Strands dispatched inTime late)
    (queue : after.bus.queue = channel.bus.queue)
    (outstanding : after.operations.count .dispatch = channel.operations.count .dispatch)
    (accepting : after.accepting = !hasLeft after.strand)
    (left : hasLeft after.strand = false → hasLeft channel.strand = false) :
    after.Strands dispatched inTime late where
  account := by
    rw [queue]
    exact strands.account
  outstanding := by
    rw [outstanding]
    exact strands.outstanding
  accepting := accepting
  nothingLate := fun stays => strands.nothingLate (left stays)

/-- A strand that goes on where it was, in its loop or after it. -/
theorem goOn {after : Channel H} (strands : channel.Strands dispatched inTime late)
    (queue : after.bus.queue = channel.bus.queue)
    (outstanding : after.operations.count .dispatch = channel.operations.count .dispatch)
    (accepting : after.accepting = channel.accepting)
    (left : hasLeft after.strand = hasLeft channel.strand) :
    after.Strands dispatched inTime late := by
  refine strands.keep queue outstanding ?_ fun stays => left.symm.trans stays
  rw [accepting, left]
  exact strands.accepting

theorem post (strands : channel.Strands dispatched inTime late) (event : Event) :
    (channel.post (.write event)).Strands dispatched inTime late := by
  refine strands.goOn (by rw [bus_post]) ?_ (by unfold Channel.post; split <;> rfl) (by simp)
  rw [operations_post_eq]
  split
  · rw [List.count_append]
    rfl
  · rfl

theorem start (strands : channel.Strands dispatched inTime late)
    (lowLatency : Except StreamFault Unit) :
    (channel.start lowLatency).channel.Strands dispatched inTime late := by
  unfold Channel.start
  split
  · exact strands
  · exact strands
  · rename_i starts
    have absent := absent_of_starts starts
    exact strands.goOn rfl rfl rfl (by rw [absent]; rfl)

theorem perform (strands : channel.Strands dispatched inTime late) {act : Act H}
    (regular : (Move.act act).isRegular = true) :
    (channel.perform act).Strands dispatched inTime late := by
  cases act with
  | start lowLatency => exact strands.start lowLatency
  | send event =>
      show (channel.send event).Strands dispatched inTime late
      unfold Channel.send
      split
      · exact strands
      · exact strands.post event
  | stop => exact strands.goOn rfl rfl rfl rfl
  | bind key handler => exact strands.goOn rfl rfl rfl rfl
  | unbind key => exact strands.goOn (LocalBus.queue_unbind _ _) rfl rfl rfl
  | reset => exact strands.goOn rfl rfl rfl rfl
  | deliver event => cases regular
  | dispatch => cases regular

/-- The strand leaves its loop. -/
theorem leave (strands : channel.Strands dispatched inTime late) (outcome : Outcome)
    {operations : List Operation}
    (outstanding : operations.count .dispatch = channel.operations.count .dispatch) :
    ({ channel with operations := operations }.leave outcome).Strands dispatched inTime late :=
  strands.keep rfl outstanding rfl (fun impossible => nomatch impossible)

/-- An event delivered while the strand takes operations brings a dispatch with it; later it only
waits. -/
theorem deliver (strands : channel.Strands dispatched inTime late) (reader : ReadLoop)
    (event : Event) :
    ({ channel with reader := reader }.deliver event).Strands dispatched
      (inTime ++ if hasLeft channel.strand then [] else [event])
      (late ++ if hasLeft channel.strand then [event] else []) := by
  have accepting : channel.accepting = !hasLeft channel.strand := strands.accepting
  unfold Channel.deliver Channel.post
  cases left : hasLeft channel.strand with
  | false =>
      rw [left, Bool.not_false] at accepting
      have nothing := strands.nothingLate left
      have account := strands.account
      have outstanding := strands.outstanding
      rw [nothing, List.append_nil] at account
      simp only [accepting, if_true]
      refine ⟨?_, ?_, ?_, ?_⟩
      · rw [nothing]
        show dispatched ++ (channel.bus.queue ++ [event]) = inTime ++ [event] ++ []
        rw [← List.append_assoc, account, List.append_nil]
      · show (channel.operations ++ [Operation.dispatch]).count .dispatch + dispatched.length =
          (inTime ++ [event]).length
        rw [List.count_append, List.length_append, ← outstanding]
        simp only [List.count_singleton_self, List.length_singleton]
        omega
      · exact accepting.symm.trans strands.accepting
      · intro _
        rw [nothing]
        rfl
  | true =>
      rw [left, Bool.not_true] at accepting
      simp only [accepting]
      refine ⟨?_, ?_, ?_, ?_⟩
      · show dispatched ++ (channel.bus.queue ++ [event]) = inTime ++ [] ++ (late ++ [event])
        rw [← List.append_assoc, strands.account, List.append_nil, List.append_assoc]
      · show _ = (inTime ++ []).length
        rw [List.append_nil]
        exact strands.outstanding
      · exact accepting.symm.trans strands.accepting
      · intro stays
        exact absurd (left.symm.trans stays) (fun impossible => nomatch impossible)

/-- The oldest event taken from the queue for a dispatch. -/
theorem dispatch (strands : channel.Strands dispatched inTime late) {stage : StrandStage}
    {later : List Operation} {event : Event} {handlers : List H} {bus : LocalBus H}
    (strand : channel.strand = .between stage)
    (operations : channel.operations = .dispatch :: later)
    (taken : channel.bus.take? = some (event, handlers, bus)) :
    Strands
      { channel with operations := later, bus := bus, strand := .calling stage event handlers }
      (dispatched ++ [event]) inTime late := by
  obtain ⟨queue, _, _⟩ := LocalBus.take?_eq_some_iff.mp taken
  have left : hasLeft (.calling stage event handlers) = hasLeft channel.strand := by
    rw [hasLeft_calling, strand]
  refine ⟨?_, ?_, ?_, ?_⟩
  · have account := strands.account
    rw [queue] at account
    show dispatched ++ [event] ++ bus.queue = _
    rw [List.append_assoc]
    exact account
  · have outstanding := strands.outstanding
    rw [operations, List.count_cons_self] at outstanding
    rw [List.length_append, ← outstanding]
    simp only [List.length_singleton]
    omega
  · exact strands.accepting.trans (by rw [left])
  · exact fun stays => strands.nothingLate (left.symm.trans stays)

/-- A dispatch that is outstanding finds an event. -/
theorem queue_ne_nil (strands : channel.Strands dispatched inTime late) {later : List Operation}
    (operations : channel.operations = .dispatch :: later) : channel.bus.queue ≠ [] := by
  intro queue
  have account := congrArg List.length strands.account
  have outstanding := strands.outstanding
  rw [queue, List.append_nil, List.length_append] at account
  rw [operations, List.count_cons_self] at outstanding
  omega

/-! ### Sessions -/

/-- A move by which nothing is delivered or dispatched. -/
theorem aside {move : Move H} {after : Channel H} (strands : after.Strands dispatched inTime late)
    (deliversNothing : (Made.mk channel move after).delivered = [])
    (dispatchesNothing : (Made.mk channel move after).dispatched = []) :
    let made : Made H := ⟨channel, move, after⟩
    after.Strands (dispatched ++ made.dispatched.map Prod.fst)
      (inTime ++ if made.isLate then [] else made.delivered)
      (late ++ if made.isLate then made.delivered else []) := by
  intro made
  rw [show made.delivered = [] from deliversNothing,
    show made.dispatched = [] from dispatchesNothing,
    ite_self, List.map_nil, List.append_nil, List.append_nil, List.append_nil]
  exact strands

theorem readerTurn {after : Channel H} (strands : channel.Strands dispatched inTime late)
    (moves : Moves channel .readerTurn after) :
    let made : Made H := ⟨channel, .readerTurn, after⟩
    after.Strands (dispatched ++ made.dispatched.map Prod.fst)
      (inTime ++ if made.isLate then [] else made.delivered)
      (late ++ if made.isLate then made.delivered else []) := by
  have silent {later : Channel H} (queue : later.bus.queue = channel.bus.queue) :
      (Made.mk channel .readerTurn later).delivered = [] := by
    show later.bus.queue.drop channel.bus.queue.length = []
    rw [queue, List.drop_length]
  cases moves with
  | starved reader greedy => exact aside (strands.goOn rfl rfl rfl rfl) (silent rfl) rfl
  | invalid reader decoded => exact aside (strands.goOn rfl rfl rfl rfl) (silent rfl) rfl
  | unfinished reader decoded => exact aside (strands.goOn rfl rfl rfl rfl) (silent rfl) rfl
  | @decoded buffer event count reader decoded =>
      intro made
      have delivered : made.delivered = [event] := by
        show ({ channel with reader := .decoding (buffer.drop count) }.deliver event).bus.queue.drop
          channel.bus.queue.length = [event]
        unfold Channel.deliver
        rw [bus_post, LocalBus.queue_enqueue, List.drop_left]
      rw [delivered]
      have queued := strands.deliver (.decoding (buffer.drop count)) event
      rw [show made.dispatched.map Prod.fst = [] from rfl, List.append_nil]
      exact queued

theorem strandTurn {after : Channel H} (strands : channel.Strands dispatched inTime late)
    (moves : Moves channel .strandTurn after) :
    let made : Made H := ⟨channel, .strandTurn, after⟩
    after.Strands (dispatched ++ made.dispatched.map Prod.fst)
      (inTime ++ if made.isLate then [] else made.delivered)
      (late ++ if made.isLate then made.delivered else []) := by
  cases moves with
  | left strand cancelled => exact aside (strands.leave _ rfl) rfl rfl
  | dispatched strand untold operations taken =>
      intro made
      have taken := strands.dispatch strand operations taken
      rw [show made.delivered = [] from rfl, ite_self, List.append_nil, List.append_nil]
      exact taken
  | foundNothing strand untold operations nothing =>
      exact absurd (LocalBus.queue_of_take?_eq_none nothing) (strands.queue_ne_nil operations)
  | encoded strand untold operations framed =>
      exact aside (strands.goOn rfl (by simp [operations]) rfl (by rw [strand]; rfl)) rfl rfl
  | unencodable strand untold operations framed =>
      exact aside (strands.leave _ (by simp [operations])) rfl rfl
  | discarded strand operations =>
      refine aside (strands.goOn rfl (by simp [operations]) rfl rfl) rfl ?_
      simp [strand]
  | emptied strand operations =>
      exact aside (strands.goOn rfl rfl rfl (by rw [strand]; rfl)) rfl rfl
  | @handled stage event strand =>
      refine aside (strands.goOn rfl rfl rfl ?_) rfl rfl
      rw [strand, hasLeft_calling]
  | flushed strand => exact aside (strands.goOn rfl rfl rfl (by rw [strand]; rfl)) rfl rfl

/-- Every regular move keeps the invariant. -/
theorem moves {move : Move H} {after : Channel H} (strands : channel.Strands dispatched inTime late)
    (moves : Moves channel move after) (regular : move.isRegular = true) :
    let made : Made H := ⟨channel, move, after⟩
    after.Strands (dispatched ++ made.dispatched.map Prod.fst)
      (inTime ++ if made.isLate then [] else made.delivered)
      (late ++ if made.isLate then made.delivered else []) := by
  cases move with
  | readerTurn => exact strands.readerTurn moves
  | strandTurn => exact strands.strandTurn moves
  | act act =>
      cases moves
      exact aside (strands.perform regular) rfl rfl
  | joined =>
      cases moves
      refine aside ?_ rfl rfl
      unfold Channel.join
      split
      · exact strands.goOn rfl rfl rfl rfl
      · exact strands
  | received more =>
      cases moves
      exact aside (strands.goOn rfl rfl rfl rfl) rfl rfl
  | finished =>
      cases moves
      exact aside (strands.goOn rfl rfl rfl rfl) rfl rfl
  | failed fault =>
      cases moves
      exact aside (strands.goOn rfl rfl rfl rfl) rfl rfl
  | told =>
      cases moves
      exact aside (strands.goOn rfl rfl rfl rfl) rfl rfl
  | call =>
      cases moves with
      | called strand =>
          refine aside (strands.goOn rfl rfl rfl ?_) rfl rfl
          rw [strand, hasLeft_calling, hasLeft_calling]
  | returned =>
      cases moves
      exact aside strands rfl rfl
  | died => cases regular
  | wrote count =>
      cases moves with
      | wrote strand some fits =>
          exact aside (strands.goOn rfl rfl rfl (by rw [strand]; rfl)) rfl rfl
  | refused fault =>
      cases moves
      exact aside (strands.leave _ rfl) rfl rfl
  | shut =>
      cases moves with
      | shut strand => exact aside (strands.goOn rfl rfl rfl (by rw [strand]; rfl)) rfl rfl

end Strands

end Channel

namespace Session

open Channel

variable {H : Type} {codec : Codec}

/-- The invariant, of the record of a session. -/
structure Strands (session : Session H) : Prop where
  strands : session.channel.Strands (session.dispatched.map Prod.fst)
    (session.inTime.flatMap Made.delivered) (session.late.flatMap Made.delivered)
  inOrder : session.past.flatMap Made.delivered =
    session.inTime.flatMap Made.delivered ++ session.late.flatMap Made.delivered
  closed : ∀ made ∈ session.late, made.before.state = .closed

theorem Strands.fresh (config : Config) (codec : Codec) :
    (fresh config codec : Session H).Strands :=
  ⟨.fresh config codec, rfl, fun _ impossible => (nomatch impossible)⟩

/-- A move tells of what is in time, or of what is late. -/
theorem delivered_record {session after : Session H} {made : Made H}
    (recorded : after.past = session.past ++ [made]) :
    after.inTime.flatMap Made.delivered =
        session.inTime.flatMap Made.delivered ++ (if made.isLate then [] else made.delivered) ∧
      after.late.flatMap Made.delivered =
        session.late.flatMap Made.delivered ++ if made.isLate then made.delivered else [] := by
  unfold inTime late
  rw [recorded, List.filter_append, List.filter_append]
  cases isLate : made.isLate <;> simp [isLate]

theorem Strands.step {session after : Session H} {move : Move H} (strands : session.Strands)
    (delivers : session.Delivers codec) (regular : move.isRegular = true)
    (stepped : session.step move = some after) : after.Strands := by
  obtain ⟨moves, recorded⟩ := moves_of_step stepped
  let made : Made H := ⟨session.channel, move, after.channel⟩
  have next := strands.strands.moves moves regular
  obtain ⟨inTime, late⟩ := delivered_record recorded
  refine ⟨?_, ?_, ?_⟩
  · have dispatched : after.dispatched = session.dispatched ++ made.dispatched := by
      unfold Session.dispatched
      rw [recorded, List.flatMap_append, List.flatMap_singleton]
    rw [dispatched, List.map_append, inTime, late]
    exact next
  · rw [inTime, late, recorded, List.flatMap_append, List.flatMap_singleton, strands.inOrder]
    show _ ++ made.delivered = _
    cases isLate : made.isLate with
    | false =>
        rw [strands.strands.nothingLate isLate]
        simp [made]
    | true => simp [made]
  · intro earlier member
    obtain ⟨happened, isLate⟩ := List.mem_filter.mp member
    rw [recorded] at happened
    rcases List.mem_append.mp happened with old | new
    · exact strands.closed earlier (List.mem_filter.mpr ⟨old, isLate⟩)
    · cases List.mem_singleton.mp new
      exact delivers.refuses (delivers.left isLate)

/-- **What is delivered in time is dispatched, and nothing else is.** In every session that leaves
the queue to the tasks, however its channel is closed, events are dispatched in the order in which
the read loop delivers them. Once both tasks are over, those that were delivered before the strand
left its loop have been dispatched to all of their handlers, each of them once. Those that were
delivered later, the channel being closed, are what is in the queue, and no task is left to dispatch
them. -/
theorem dispatches_what_is_in_time (config : Config) (codec : Codec) {moves : List (Move H)}
    {session : Session H} (regular : ∀ move ∈ moves, move.isRegular = true)
    (ran : (Session.fresh config codec).run moves = some session) :
    let dispatched := session.dispatched.map Prod.fst
    let inTime := session.inTime.flatMap Made.delivered
    let late := session.late.flatMap Made.delivered
    session.past.flatMap Made.delivered = inTime ++ late ∧
    dispatched ++ session.channel.bus.queue = inTime ++ late ∧ dispatched <+: inTime ∧
    (∀ made ∈ session.late, made.before.state = .closed) ∧
    (session.channel.isFinished = true →
      dispatched = inTime ∧ session.calls = callsFor session.dispatched ∧
      session.channel.bus.queue = late ∧ session.channel.bus.pending = late.length) := by
  have started : (Session.fresh config codec : Session H).Delivers codec ∧
      (Session.fresh config codec : Session H).Strands := ⟨.fresh config codec, .fresh config codec⟩
  obtain ⟨delivers, strands⟩ := run_keeps
    (motive := fun session : Session H => session.Delivers codec ∧ session.Strands)
    (fun before regular stepped =>
      ⟨before.1.step regular stepped, before.2.step before.1 regular stepped⟩) started regular ran
  have account := strands.strands.account
  have outstanding := strands.strands.outstanding
  intro dispatched inTime late
  refine ⟨strands.inOrder, account, ?_, strands.closed, fun finished => ?_⟩
  · have shorter : dispatched.length ≤ inTime.length := by
      rw [← outstanding]
      exact Nat.le_add_left _ _
    exact List.prefix_of_prefix_length_le ⟨_, account⟩ (List.prefix_append inTime late) shorter
  · obtain ⟨_, strand⟩ := delivers.ended_of_isFinished finished
    have operations := delivers.through (by rw [strand]; rfl)
    have called := delivers.called
    have noCall : callsLeft (.ended : Strand H) = [] := rfl
    rw [strand, noCall, List.append_nil] at called
    rw [operations, List.count_nil, Nat.zero_add] at outstanding
    obtain ⟨same, rest⟩ := List.append_inj account outstanding
    exact ⟨same, called, rest, congrArg List.length rest⟩

/-- Two frames come at once; the channel is stopped when the first of them has been delivered, and
the strand leaves before the second one is. -/
theorem dispatches_what_is_in_time_of_two :
    let first : Uid := ⟨1⟩
    let second : Uid := ⟨2⟩
    let moves : List (Move Nat) :=
      [.act (.bind .all 7), .act (.start (.ok ())),
        .received ((Frame.mk 1 0 0 []).bytes ++ (Frame.mk 2 0 0 []).bytes), .readerTurn, .act .stop,
        .strandTurn, .readerTurn, .readerTurn, .strandTurn, .call, .returned, .strandTurn,
        .strandTurn, .shut, .told]
    ∃ session, (Session.fresh {} .default).run moves = some session ∧
      (session.dispatched.map Prod.fst).map Event.uid = [first] ∧ session.calls.length = 1 ∧
      session.channel.bus.queue.map Event.uid = [second] ∧ session.channel.bus.pending = 1 := by
  intro first second moves
  have possible : ((Session.fresh {} .default).run moves).isSome = true := by decide +kernel
  obtain ⟨session, ran⟩ := Option.isSome_iff_exists.mp possible
  obtain ⟨_, _, _, _, atTheEnd⟩ := dispatches_what_is_in_time {} .default (by decide) ran
  obtain ⟨dispatched, called, queue, pending⟩ := atTheEnd
    (of_run_all ran (fun session => session.channel.isFinished = true) (by decide +kernel))
  have late := of_run_all ran (fun session =>
    (session.late.flatMap Made.delivered).map Event.uid = [second]) (by decide +kernel)
  refine ⟨session, ran, ?_, ?_, ?_, ?_⟩
  · rw [dispatched]
    exact of_run_all ran (fun session =>
      (session.inTime.flatMap Made.delivered).map Event.uid = [first]) (by decide +kernel)
  · rw [called]
    exact of_run_all ran (fun session => (callsFor session.dispatched).length = 1)
      (by decide +kernel)
  · rw [queue]
    exact late
  · rw [pending, ← List.length_map (f := Event.uid), late]
    rfl

/-- **A late event is stranded.** A read loop that waits for bytes when its channel is stopped, and
that comes upon bytes before it comes upon the order to stop, delivers an event after the strand has
gone: the channel was closed then, both tasks are over in the end, and the event has not been
dispatched. -/
theorem strands_late_event :
    let moves : List (Move Nat) :=
      [.act (.start (.ok ())), .act .stop, .strandTurn, .strandTurn, .shut,
        .received (Frame.mk 1 0 0 []).bytes, .readerTurn, .readerTurn, .told]
    (∀ move ∈ moves, move.isRegular = true) ∧
    ∃ session, (Session.fresh {} .default).run moves = some session ∧
      session.closedByStop = true ∧ session.channel.isFinished = true ∧
      (∃ made ∈ session.past, made.before.state = .closed ∧ made.delivered ≠ []) ∧
      session.dispatched = [] ∧ session.channel.bus.pending = 1 := by
  intro moves
  refine ⟨by decide, ?_⟩
  have possible : ((Session.fresh {} .default).run moves).isSome = true := by decide +kernel
  obtain ⟨session, ran⟩ := Option.isSome_iff_exists.mp possible
  refine ⟨session, ran, ?_, ?_, ?_, ?_, ?_⟩
  · exact of_run_all ran (fun session => session.closedByStop = true) (by decide +kernel)
  · exact of_run_all ran (fun session => session.channel.isFinished = true) (by decide +kernel)
  · have delivers := of_run_all ran (fun session => session.past.any (fun made =>
      made.before.state = .closed && made.delivered ≠ []) = true) (by decide +kernel)
    obtain ⟨made, member, late⟩ := List.any_eq_true.mp delivers
    exact ⟨made, member, by simpa using late⟩
  · exact List.eq_nil_of_length_eq_zero
      (of_run_all ran (fun session => session.dispatched.length = 0) (by decide +kernel))
  · exact of_run_all ran (fun session => session.channel.bus.pending = 1) (by decide +kernel)

end Session

end EventTransport
