import EventTransport.Proofs.Channel.Closing

/-!
Contract: the states that a channel goes through, over every run.

Owns:
- `ChannelState.LeadsTo`, the ways on from one state to another;
- `ReadLoop.shows`, the state that the read loop announces by where it is, and `Channel.InPace`, by
  which an open channel is in that state;
- that a channel begins at most once, goes on only along those ways, and is closed for good.

The state is written by calls and by the read loop, which announces a state again and again without
looking. What keeps a closed channel closed is the cell that it writes to; what keeps an open one
from going astray is that the read loop announces where it is, and begins once.

Does not own: when a channel is closed.
-/

namespace EventTransport

namespace ChannelState

/-- The ways on. -/
inductive LeadsTo : ChannelState → ChannelState → Prop where
  | begun : LeadsTo idle reading
  | fed : LeadsTo reading dispatching
  | resumed : LeadsTo dispatching reading
  | close {state : ChannelState} (isOpen : state ≠ closed) : LeadsTo state closed

end ChannelState

/-- The state of an open channel whose read loop is there. -/
def ReadLoop.shows : ReadLoop → ChannelState
  | absent => .idle
  | awaiting _ => .reading
  | decoding _ => .dispatching
  -- A loop that ends without closing the channel has not come to read.
  | ended => .reading

namespace Channel

variable {H : Type}

/-- Whether both tasks are begun by this. -/
def Made.spawns (made : Made H) : Bool :=
  match made.move with
  | .act (.start _) =>
    match made.before.starts with
    | .ok takesEffect => takesEffect
    | .error _ => false
  | _ => false

def InPace (channel : Channel H) : Prop :=
  channel.state = .closed ∨ channel.state = channel.reader.shows

/-- From one state to the next, if to another one at all. -/
def Proceeds (before after : Channel H) : Prop :=
  after.state = before.state ∨ before.state.LeadsTo after.state

namespace Proceeds

variable {before after : Channel H}

theorem of_closed (state : after.state = .closed) : Proceeds before after := by
  by_cases already : before.state = .closed
  · exact .inl (state.trans already.symm)
  · exact .inr (state ▸ .close already)

/-- An announcement by the read loop. -/
theorem of_moved {next : ChannelState} (inPace : before.InPace)
    (leads : before.reader.shows.LeadsTo next) (state : after.state = before.state.moved next) :
    Proceeds before after := by
  rcases inPace with isClosed | shown
  · exact of_closed (by rw [state, isClosed, ChannelState.moved_closed])
  · by_cases isClosed : before.state = .closed
    · exact of_closed (by rw [state, isClosed, ChannelState.moved_closed])
    · refine .inr ?_
      rw [state, shown]
      unfold ChannelState.moved
      rw [if_neg (shown ▸ isClosed)]
      exact leads

theorem closed_of_closed (proceeds : Proceeds before after) (isClosed : before.state = .closed) :
    after.state = .closed := by
  rcases proceeds with same | leads
  · exact same.trans isClosed
  · rw [isClosed] at leads
    generalize after.state = next at leads
    cases leads
    rfl

theorem idle_of_idle (proceeds : Proceeds before after) (isIdle : after.state = .idle) :
    before.state = .idle := by
  rcases proceeds with same | leads
  · exact same.symm.trans isIdle
  · rw [isIdle] at leads
    generalize before.state = earlier at leads
    cases leads

end Proceeds

namespace InPace

variable {before after : Channel H}

theorem keep (inPace : before.InPace) (state : after.state = before.state)
    (reader : after.reader = before.reader) : after.InPace ∧ Proceeds before after := by
  refine ⟨?_, .inl state⟩
  unfold InPace
  rw [state, reader]
  exact inPace

theorem close (state : after.state = .closed) : after.InPace ∧ Proceeds before after :=
  ⟨.inl state, .of_closed state⟩

/-- The read loop goes on, and announces where. -/
theorem announce (inPace : before.InPace)
    (leads : before.reader.shows.LeadsTo after.reader.shows)
    (state : after.state = before.state.moved after.reader.shows) :
    after.InPace ∧ Proceeds before after := by
  refine ⟨?_, .of_moved inPace leads state⟩
  unfold InPace
  rw [state]
  unfold ChannelState.moved
  split
  · exact .inl rfl
  · exact .inr rfl

theorem start (inPace : before.InPace) (unread : before.strand = .absent → before.reader = .absent)
    (lowLatency : Except StreamFault Unit) :
    (before.start lowLatency).channel.InPace ∧
      Proceeds before (before.start lowLatency).channel := by
  unfold Channel.start
  split
  · exact inPace.keep rfl rfl
  · exact inPace.keep rfl rfl
  · rename_i starts
    refine inPace.announce ?_ rfl
    rw [unread (absent_of_starts starts)]
    exact .begun

theorem perform (inPace : before.InPace)
    (unread : before.strand = .absent → before.reader = .absent) (act : Act H) :
    (before.perform act).InPace ∧ Proceeds before (before.perform act) := by
  cases act with
  | start lowLatency => exact inPace.start unread lowLatency
  | send event =>
      refine inPace.keep (state_send before event) ?_
      show (before.send event).reader = before.reader
      unfold Channel.send
      split
      · rfl
      · exact reader_post before _
  | stop => exact close rfl
  | deliver event => exact inPace.keep (state_deliver before event) (reader_post _ _)
  | dispatch =>
      simp only [Channel.perform]
      split <;> exact inPace.keep rfl rfl
  | bind | unbind | reset => exact inPace.keep rfl rfl

theorem moves {move : Move H} (inPace : before.InPace)
    (unread : before.strand = .absent → before.reader = .absent)
    (moves : Moves before move after) : after.InPace ∧ Proceeds before after := by
  cases moves with
  | act act => exact inPace.perform unread act
  | joined =>
      unfold Channel.join
      split <;> exact inPace.keep rfl rfl
  | starved reader =>
      refine ⟨?_, .inl rfl⟩
      unfold InPace at inPace ⊢
      rw [reader] at inPace
      exact inPace
  | unfinished reader =>
      refine inPace.announce ?_ rfl
      rw [reader]
      exact .resumed
  | @decoded buffer event count reader =>
      let ready : Channel H := { before with reader := .decoding (buffer.drop count) }
      have same : ready.InPace := by
        unfold InPace at inPace ⊢
        rw [reader] at inPace
        exact inPace
      exact same.keep (state_deliver ready event) (reader_post _ _)
  | received reader =>
      refine inPace.announce ?_ rfl
      rw [reader]
      exact .fed
  | invalid | finished | failed | told | left | unencodable | refused => exact close rfl
  | _ => exact inPace.keep rfl rfl

end InPace

/-- Tasks are there once they have been begun, and nothing else brings them about. -/
theorem isPresent_of_moves {before after : Channel H} {move : Move H}
    (moves : Moves before move after)
    (atWork : move = .died → ∃ stage event handlers,
      before.strand = .calling stage event handlers) :
    after.strand.isPresent = (before.strand.isPresent || (Made.mk before move after).spawns) := by
  cases moves with
  | act act =>
      cases act with
      | start lowLatency =>
          simp only [perform, Channel.start, Made.spawns]
          split <;> simp_all [Channel.enter, Strand.isPresent]
      | send event =>
          simp only [perform, Channel.send, Made.spawns, Bool.or_false]
          split
          · rfl
          · rw [strand_post]
      | deliver event => simp [perform, Channel.deliver, Made.spawns]
      | dispatch =>
          simp only [perform, Made.spawns, Bool.or_false]
          split <;> rfl
      | _ => simp [perform, Channel.stop, Channel.close, Made.spawns]
  | joined =>
      simp only [Channel.join, Made.spawns, Bool.or_false]
      split <;> rfl
  | decoded => simp [Channel.deliver, Made.spawns]
  | died =>
      obtain ⟨stage, event, handlers, strand⟩ := atWork rfl
      rw [strand]
      rfl
  | returned => simp [Made.spawns]
  | _ => simp_all [Made.spawns, Strand.isPresent, Channel.leave, Channel.endReading,
      Channel.dropReader, Channel.close, Channel.enter]

/-- Tasks are begun only if there are none. -/
theorem absent_of_spawns {made : Made H} (spawns : made.spawns = true) :
    made.before.strand.isPresent = false := by
  unfold Made.spawns at spawns
  split at spawns
  · split at spawns
    · rename_i starts
      rw [spawns] at starts
      rw [absent_of_starts starts]
      rfl
    · cases spawns
  · cases spawns

/-- What starting a channel does. -/
theorem start_cases (channel : Channel H) (lowLatency : Except StreamFault Unit) :
    channel.start lowLatency = { channel := channel } ∧ channel.state = .closed ∨
    channel.start lowLatency = { channel := channel, result := .error .channelAlreadyStarted } ∧
      channel.state ≠ .closed ∧ channel.strand.isPresent = true ∨
    ((channel.start lowLatency).result = .ok () ∧
      (channel.start lowLatency).channel.state = .reading ∧
      (∃ buffer, (channel.start lowLatency).channel.reader = .awaiting buffer) ∧
      (channel.start lowLatency).channel.strand = .between .running) ∧
      channel.state ≠ .closed ∧ channel.strand.isPresent = false := by
  unfold Channel.start Channel.starts
  by_cases isClosed : channel.state = .closed
  · simp [isClosed]
  · cases isPresent : channel.strand.isPresent with
    | true => simp [isClosed]
    | false => simp [isClosed, Channel.enter, ChannelState.moved]

end Channel

namespace Session

open Channel

variable {H : Type}

/-- Whether an earlier start took effect. -/
def isStarted (session : Session H) : Bool := session.past.any Made.spawns

/-- What holds of the states of a session at all times. -/
structure Governed (session : Session H) : Prop where
  attends : session.Attends
  closes : session.channel.Closes session.starved session.died
  inPace : session.channel.InPace
  ordered : ∀ made ∈ session.past, Proceeds made.before made.after
  begun : ∀ made ∈ session.past,
    made.after.strand.isPresent = (made.before.strand.isPresent || made.spawns)
  spawned : session.past.countP Made.spawns = if session.channel.strand.isPresent then 1 else 0

theorem Governed.fresh (config : Config) (codec : Codec) :
    (Session.fresh config codec : Session H).Governed where
  attends := fun impossible => nomatch impossible
  closes := Closes.fresh config codec
  inPace := .inr rfl
  ordered := fun _ none => nomatch none
  begun := fun _ none => nomatch none
  spawned := rfl

theorem Governed.step {session after : Session H} {move : Move H} (governed : session.Governed)
    (stepped : session.step move = some after) :
    after.Governed ∧ Proceeds session.channel after.channel := by
  obtain ⟨moves, recorded⟩ := moves_of_step stepped
  obtain ⟨inPace, proceeds⟩ := governed.inPace.moves governed.closes.begun.mpr moves
  have begun := isPresent_of_moves moves fun died => governed.attends.of_died (died ▸ stepped)
  refine ⟨⟨governed.attends.step stepped, closes_of_step governed.attends governed.closes stepped,
    inPace, fun made member => ?_, fun made member => ?_, ?_⟩, proceeds⟩
  · rw [recorded] at member
    rcases List.mem_append.mp member with old | new
    · exact governed.ordered made old
    · cases List.mem_singleton.mp new
      exact proceeds
  · rw [recorded] at member
    rcases List.mem_append.mp member with old | new
    · exact governed.begun made old
    · cases List.mem_singleton.mp new
      exact begun
  · rw [recorded, List.countP_append, governed.spawned, List.countP_singleton, begun]
    cases spawns : (Made.mk session.channel move after.channel).spawns with
    | true => rw [show session.channel.strand.isPresent = false from absent_of_spawns spawns]; rfl
    | false => rw [Bool.or_false]; rfl

theorem governed_of_run {config : Config} {codec : Codec} {moves : List (Move H)}
    {session : Session H} (ran : (fresh config codec).run moves = some session) :
    session.Governed :=
  run_maintains (fun governed stepped => (governed.step stepped).1) (.fresh config codec) ran

/-- Nothing opens a closed channel again, and nothing makes one idle. -/
theorem Governed.run {session later : Session H} {more : List (Move H)}
    (governed : session.Governed) (ran : session.run more = some later) :
    (session.channel.state = .closed → later.channel.state = .closed) ∧
      (later.channel.state = .idle → session.channel.state = .idle) := by
  have kept := run_maintains (motive := fun later => later.Governed ∧
    (session.channel.state = .closed → later.channel.state = .closed) ∧
    (later.channel.state = .idle → session.channel.state = .idle)) ?_
    ⟨governed, id, id⟩ ran
  · exact kept.2
  · rintro middle after move ⟨governed, closed, idle⟩ stepped
    obtain ⟨governedLater, proceeds⟩ := governed.step stepped
    exact ⟨governedLater, fun isClosed => proceeds.closed_of_closed (closed isClosed),
      fun isIdle => idle (proceeds.idle_of_idle isIdle)⟩

theorem Governed.isPresent_eq {session : Session H} (governed : session.Governed) :
    session.channel.strand.isPresent = session.isStarted := by
  have counted := governed.spawned
  unfold isStarted
  cases isPresent : session.channel.strand.isPresent with
  | true =>
      rw [isPresent, if_pos rfl] at counted
      have some : 0 < session.past.countP Made.spawns := by omega
      exact (List.any_eq_true.mpr (List.countP_pos_iff.mp some)).symm
  | false =>
      rw [isPresent, if_neg (by decide)] at counted
      refine (List.any_eq_false.mpr fun made member => ?_).symm
      exact List.countP_eq_zero.mp counted made member

/-- **A channel lives from idle to closed, and begins once.** In every run, by whatever calls and
steps of the tasks in whatever order, its state changes only from idle to reading, between reading
and dispatching, and from anything to closed; it is never idle again and never open again, and it is
closed exactly if its tasks are told to stop. Both tasks are begun by the one start that takes
effect, if there is one, and by nothing else.

A start is refused exactly if the channel is open and an earlier one took effect. On a closed
channel it succeeds and does nothing. Otherwise it succeeds, and the tasks are at their beginning.
Stopping a closed channel changes nothing. -/
theorem lives_once (config : Config) (codec : Codec) {moves : List (Move H)} {session : Session H}
    (ran : (fresh config codec).run moves = some session) :
    (∀ made ∈ session.past, made.after.state = made.before.state ∨
      made.before.state.LeadsTo made.after.state) ∧
    (∀ more later, session.run more = some later →
      (session.channel.state = .closed → later.channel.state = .closed) ∧
      (later.channel.state = .idle → session.channel.state = .idle)) ∧
    (session.channel.state = .closed ↔ session.channel.cancelled = true) ∧
    session.past.countP Made.spawns ≤ 1 ∧
    (∀ made ∈ session.past,
      made.after.strand.isPresent = (made.before.strand.isPresent || made.spawns)) ∧
    (session.channel.reader = .absent ↔ session.channel.strand = .absent) ∧
    (∀ lowLatency,
      let started := session.channel.start lowLatency
      (started.result = .error .channelAlreadyStarted ↔
        session.channel.state ≠ .closed ∧ session.isStarted = true) ∧
      (session.channel.state = .closed → started = { channel := session.channel }) ∧
      (session.channel.state ≠ .closed → session.isStarted = true →
        started.channel = session.channel) ∧
      (session.channel.state ≠ .closed → session.isStarted = false →
        started.result = .ok () ∧ started.channel.state = .reading ∧
        (∃ buffer, started.channel.reader = .awaiting buffer) ∧
        started.channel.strand = .between .running)) ∧
    (session.channel.state = .closed → session.channel.stop = session.channel) := by
  have governed := governed_of_run ran
  refine ⟨governed.ordered, fun more later => governed.run, governed.closes.told, ?_,
    governed.begun, governed.closes.begun, fun lowLatency => ?_, fun isClosed => ?_⟩
  · rw [governed.spawned]
    split
    · exact Nat.le_refl 1
    · exact Nat.zero_le 1
  · intro started
    rw [← governed.isPresent_eq]
    rcases session.channel.start_cases lowLatency with
      ⟨same, isClosed⟩ | ⟨refused, isOpen, isPresent⟩ | ⟨effect, isOpen, absent⟩
    · simp [started, same, isClosed]
    · simp only [started, refused, isPresent]
      simp [isOpen]
    · simp only [started, absent]
      simp [effect, isOpen]
  · have told := governed.closes.told.mp isClosed
    show { session.channel with state := .closed, cancelled := true } = session.channel
    rw [← isClosed, ← told]

/-- A channel stopped while its read loop is at work stays closed, though the loop announces that it
reads again, and though the channel is started once more. -/
theorem lives_once_of_late_announcement :
    let frame := (Frame.mk 1 0 0 []).bytes
    let moves : List (Move Nat) :=
      [.act (.start (.ok ())), .act (.start (.ok ())), .received frame, .act .stop, .readerTurn,
        .readerTurn, .act (.start (.ok ()))]
    ∃ session, (fresh {} .default).run moves = some session ∧
      session.past.map (fun made => made.after.state) =
        [.reading, .reading, .dispatching, .closed, .closed, .closed, .closed] ∧
      session.isStarted = true ∧ session.past.countP Made.spawns ≤ 1 ∧
      session.channel.cancelled = true ∧
      session.channel.start (.ok ()) = { channel := session.channel } ∧
      session.channel.stop = session.channel := by
  intro frame moves
  have possible : ((fresh {} .default).run moves).isSome = true := by decide +kernel
  obtain ⟨session, ran⟩ := Option.isSome_iff_exists.mp possible
  have states := of_run_all ran (fun session => session.past.map (fun made => made.after.state) =
    [.reading, .reading, .dispatching, .closed, .closed, .closed, .closed]) (by decide +kernel)
  have started := of_run_all ran (fun session => session.isStarted = true) (by decide +kernel)
  have isClosed := of_run_all ran (fun session => session.channel.state = .closed)
    (by decide +kernel)
  obtain ⟨_, _, told, once, _, _, starts, stops⟩ := lives_once {} .default ran
  exact ⟨session, ran, states, started, once, told.mp isClosed,
    (starts (.ok ())).2.1 isClosed, stops isClosed⟩

end Session

end EventTransport
