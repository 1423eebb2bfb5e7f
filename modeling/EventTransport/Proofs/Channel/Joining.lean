import EventTransport.Proofs.Channel.Closing

/-!
Contract: what a join reports.

Owns:
- `Channel.Made.endsReading` and `Channel.Made.leavesLoop`, how the read loop returns by a move, and
  how the strand leaves its loop by one;
- `Channel.Ends`, everything that a move does to what the tasks are to report;
- `Channel.Reports`, the invariant of a session in which no handler dies and nobody has joined yet;
- that a join reports the first failure in the order in which the tasks return.

The strand returns some time after it has left its loop, so the read loop may return in between, and
whichever task does not close the channel may still fail. A join does not know what closed the
channel.

Does not own: sessions in which handlers die.
-/

namespace EventTransport

instance decidableEqOutcome : DecidableEq Outcome
  | .ok _, .ok _ => isTrue rfl
  | .error first, .error second => decidable_of_iff (first = second) (by simp)
  | .ok _, .error _ => isFalse (by simp)
  | .error _, .ok _ => isFalse (by simp)

theorem firstFailure_eq_ok_iff (outcomes : List Outcome) :
    firstFailure outcomes = .ok () ↔ ∀ outcome ∈ outcomes, outcome = .ok () := by
  induction outcomes with
  | nil => simp [firstFailure]
  | cons outcome outcomes inductionHypothesis =>
      cases outcome with
      | ok done => simp [firstFailure, inductionHypothesis]
      | error error => simp [firstFailure]

namespace Channel

variable {H : Type}

namespace Made

/-- How the read loop returns by this, if it does. -/
def endsReading (made : Made H) : Option Outcome :=
  match made.move, made.before.reader with
  | .finished, _ => some (.ok ())
  | .told, _ => some (.ok ())
  | .failed fault, _ => some (.error (.stream fault))
  | .readerTurn, .awaiting _ => some (.error .taskJoin)
  | .readerTurn, .decoding buffer =>
    match made.before.codec.decode buffer.held with
    | .error error => some (.error error)
    | .ok _ => none
  | _, _ => none

/-- How the strand leaves its loop by this, if it does. -/
def leavesLoop (made : Made H) : Option Outcome :=
  match made.move, made.before.strand with
  | .refused fault, _ => some (.error (.stream fault))
  | .strandTurn, .between .running =>
    if made.before.cancelled then some (.ok ())
    else
      match made.before.operations with
      | .write event :: _ =>
        match made.before.codec.encode event with
        | .error error => some (.error error)
        | .ok _ => none
      | _ => none
  | _, _ => none

end Made

/-- What a strand that has left its loop is going to report. -/
def outcome? : Strand H → Option Outcome
  | .between (.draining outcome) => some outcome
  | .calling (.draining outcome) _ _ => some outcome
  | .closing outcome => some outcome
  | _ => none

theorem outcome?_calling (stage : StrandStage) (event : Event) (handlers : List H) :
    outcome? (.calling stage event handlers) = outcome? (.between stage : Strand H) := by
  cases stage <;> rfl

/-- Everything that a move can do to what the tasks have reported, and are going to. -/
inductive Ends (before : Channel H) (move : Move H) (after : Channel H) : Prop where
  | goOn (reading : (Made.mk before move after).endsReading = none)
      (writing : (Made.mk before move after).leavesLoop = none)
      (endings : after.endings = before.endings)
      (reader : after.reader = .ended ↔ before.reader = .ended)
      (left : hasLeft after.strand = hasLeft before.strand)
      (isOver : after.strand.isOver = before.strand.isOver)
      (outcome : outcome? after.strand = outcome? before.strand)
  | readerReturns (outcome : Outcome)
      (reading : (Made.mk before move after).endsReading = some outcome)
      (writing : (Made.mk before move after).leavesLoop = none)
      (endings : after.endings = before.endings ++ [outcome])
      (reader : before.reader ≠ .ended) (returned : after.reader = .ended)
      (strand : after.strand = before.strand)
  | strandLeaves (outcome : Outcome)
      (reading : (Made.mk before move after).endsReading = none)
      (writing : (Made.mk before move after).leavesLoop = some outcome)
      (endings : after.endings = before.endings) (reader : after.reader = before.reader)
      (stays : hasLeft before.strand = false) (isOver : before.strand.isOver = false)
      (strand : after.strand = .between (.draining outcome))
  | strandReturns (outcome : Outcome)
      (reading : (Made.mk before move after).endsReading = none)
      (writing : (Made.mk before move after).leavesLoop = none)
      (endings : after.endings = before.endings ++ [outcome])
      (reader : after.reader = before.reader)
      (strand : before.strand = .closing outcome) (ended : after.strand = .ended)

/-- Whether a move neither kills the strand nor takes what the tasks report. -/
def Move.sparesTasks : Move H → Bool
  | joined => false
  | died => false
  | _ => true

@[simp] theorem endings_post (channel : Channel H) (operation : Operation) :
    (channel.post operation).endings = channel.endings := by
  unfold post
  split <;> rfl

@[simp] theorem joinable_post (channel : Channel H) (operation : Operation) :
    (channel.post operation).joinable = channel.joinable := by
  unfold post
  split <;> rfl

namespace Ends

variable {channel after : Channel H}

/-- A move that leaves the strand where it is, and the read loop where it is or at work. -/
theorem sameStrand {move : Move H} (reading : (Made.mk channel move after).endsReading = none)
    (writing : (Made.mk channel move after).leavesLoop = none)
    (endings : after.endings = channel.endings)
    (reader : after.reader = .ended ↔ channel.reader = .ended)
    (strand : after.strand = channel.strand) : Ends channel move after :=
  .goOn reading writing endings reader (by rw [strand]) (by rw [strand]) (by rw [strand])

/-- A step of a strand that goes on where it was, in its loop or after it. -/
theorem sameReader {move : Move H} {stood stands : Strand H}
    (writing : (Made.mk channel move after).leavesLoop = none)
    (reading : (Made.mk channel move after).endsReading = none)
    (endings : after.endings = channel.endings) (reader : after.reader = channel.reader)
    (before : channel.strand = stood) (strand : after.strand = stands)
    (left : hasLeft stands = hasLeft stood) (isOver : stands.isOver = stood.isOver)
    (outcome : outcome? stands = outcome? stood) : Ends channel move after := by
  subst before strand
  exact .goOn reading writing endings (by rw [reader]) left isOver outcome

theorem act (begun : channel.reader = .absent ↔ channel.strand = .absent) (act : Act H) :
    Ends channel (.act act) (channel.perform act) := by
  cases act with
  | start lowLatency =>
      simp only [perform, Channel.start]
      split
      · exact .sameStrand rfl rfl rfl .rfl rfl
      · exact .sameStrand rfl rfl rfl .rfl rfl
      · rename_i starts
        have absent := absent_of_starts starts
        refine .goOn rfl rfl rfl ?_ (by rw [absent]; rfl) (by rw [absent]; rfl)
          (by rw [absent]; rfl)
        simp [begun.mpr absent, Channel.enter]
  | send event =>
      refine .sameStrand rfl rfl ?_ ?_ ?_ <;> simp only [perform, Channel.send] <;> split <;> simp
  | deliver event =>
      refine .sameStrand rfl rfl ?_ ?_ ?_ <;> simp [perform, Channel.deliver]
  | dispatch =>
      simp only [perform]
      split <;> exact .sameStrand rfl rfl rfl .rfl rfl
  | _ => exact .sameStrand rfl rfl rfl .rfl rfl

theorem readerTurn (moves : Moves channel .readerTurn after) : Ends channel .readerTurn after := by
  cases moves with
  | starved reader greedy =>
      refine .readerReturns (.error .taskJoin) ?_ rfl rfl (by simp [reader]) rfl rfl
      simp [Made.endsReading, reader]
  | @invalid buffer error reader decoded =>
      refine .readerReturns (.error error) ?_ rfl rfl (by simp [reader]) rfl rfl
      simp [Made.endsReading, reader, decoded]
  | unfinished reader decoded =>
      refine .sameStrand ?_ rfl rfl ?_ rfl
      · simp [Made.endsReading, reader, decoded]
      · simp [Channel.enter, reader]
  | decoded reader decoded =>
      refine .sameStrand ?_ rfl (by simp [Channel.deliver]) ?_ (by simp [Channel.deliver])
      · simp [Made.endsReading, reader, decoded]
      · simp [Channel.deliver, reader]

theorem strandTurn (moves : Moves channel .strandTurn after) : Ends channel .strandTurn after := by
  cases moves with
  | left strand cancelled =>
      refine .strandLeaves (.ok ()) rfl ?_ rfl rfl (by simp [strand]) (by rw [strand]; rfl) rfl
      simp [Made.leavesLoop, strand, cancelled]
  | @dispatched stage later event handlers bus strand untold operations taken =>
      refine .sameReader ?_ rfl rfl rfl strand rfl (hasLeft_calling stage event handlers) rfl
        (outcome?_calling stage event handlers)
      cases stage with
      | running => simp [Made.leavesLoop, strand, operations, untold rfl]
      | draining outcome => simp [Made.leavesLoop, strand]
  | @foundNothing stage later strand untold operations nothing =>
      refine .sameReader ?_ rfl rfl rfl strand rfl rfl rfl rfl
      cases stage with
      | running => simp [Made.leavesLoop, strand, operations, untold rfl]
      | draining outcome => simp [Made.leavesLoop, strand]
  | encoded strand untold operations framed =>
      refine .sameReader ?_ rfl rfl rfl strand rfl rfl rfl rfl
      simp [Made.leavesLoop, strand, operations, untold, framed]
  | @unencodable event later error strand untold operations framed =>
      refine .strandLeaves (.error error) rfl ?_ rfl rfl (by simp [strand])
        (by rw [strand]; rfl) rfl
      simp [Made.leavesLoop, strand, operations, untold, framed]
  | discarded strand operations =>
      exact .sameReader (by simp [Made.leavesLoop, strand]) rfl rfl rfl strand strand rfl rfl rfl
  | emptied strand operations =>
      exact .sameReader (by simp [Made.leavesLoop, strand]) rfl rfl rfl strand rfl rfl rfl rfl
  | @handled stage event strand =>
      exact .sameReader (by simp [Made.leavesLoop, strand]) rfl rfl rfl strand rfl
        (hasLeft_calling stage event []).symm rfl (outcome?_calling stage event []).symm
  | flushed strand =>
      exact .sameReader (by simp [Made.leavesLoop, strand]) rfl rfl rfl strand rfl rfl rfl rfl

theorem of_moves {move : Move H} (begun : channel.reader = .absent ↔ channel.strand = .absent)
    (moves : Moves channel move after) (spares : move.sparesTasks = true) :
    Ends channel move after := by
  cases move with
  | readerTurn => exact readerTurn moves
  | strandTurn => exact strandTurn moves
  | act act =>
      cases moves
      exact .act begun act
  | joined => cases spares
  | received more =>
      cases moves with
      | received reader some fits =>
          refine .sameStrand rfl rfl rfl ?_ rfl
          simp [Channel.enter, reader]
  | finished =>
      cases moves with
      | finished reader => exact .readerReturns (.ok ()) rfl rfl rfl (by simp [reader]) rfl rfl
  | failed fault =>
      cases moves with
      | failed reader _ =>
          exact .readerReturns (.error (.stream fault)) rfl rfl rfl (by simp [reader]) rfl rfl
  | told =>
      cases moves with
      | told reader cancelled =>
          exact .readerReturns (.ok ()) rfl rfl rfl (by simp [reader]) rfl rfl
  | call =>
      cases moves with
      | called strand =>
          refine .sameReader rfl rfl rfl rfl strand rfl ?_ rfl ?_
          · rw [hasLeft_calling, hasLeft_calling]
          · rw [outcome?_calling, outcome?_calling]
  | returned =>
      cases moves
      exact .sameStrand rfl rfl rfl .rfl rfl
  | died => cases spares
  | wrote count =>
      cases moves with
      | wrote strand some fits => exact .sameReader rfl rfl rfl rfl strand rfl rfl rfl rfl
  | refused fault =>
      cases moves with
      | refused strand _ =>
          exact .strandLeaves (.error (.stream fault)) rfl rfl rfl rfl (by simp [strand])
            (by rw [strand]; rfl) rfl
  | shut =>
      cases moves with
      | @shut outcome strand => exact .strandReturns outcome rfl rfl rfl rfl strand rfl

/-- A read loop returns only once. -/
theorem reader_ne_ended {move : Move H} {outcome : Outcome} (ends : Ends channel move after)
    (returns : (Made.mk channel move after).endsReading = some outcome) :
    channel.reader ≠ .ended := by
  cases ends with
  | readerReturns other reading writing endings reader returned strand => exact reader
  | goOn reading | strandLeaves other reading | strandReturns other reading =>
      rw [reading] at returns
      cases returns

/-- A strand leaves its loop only once. -/
theorem inLoop {move : Move H} {outcome : Outcome} (ends : Ends channel move after)
    (leaves : (Made.mk channel move after).leavesLoop = some outcome) :
    hasLeft channel.strand = false := by
  cases ends with
  | strandLeaves other reading writing endings reader stays => exact stays
  | goOn reading writing | readerReturns other reading writing
    | strandReturns other reading writing =>
      rw [writing] at leaves
      cases leaves

end Ends

theorem joinable_of_moves {channel after : Channel H} {move : Move H}
    (moves : Moves channel move after) (spares : move.sparesTasks = true)
    (joinable : channel.reader ≠ .absent → channel.joinable = true) :
    after.reader ≠ .absent → after.joinable = true := by
  cases moves with
  | act act =>
      cases act with
      | start lowLatency =>
          simp only [perform, Channel.start]
          split
          · exact joinable
          · exact joinable
          · exact fun _ => rfl
      | send event =>
          simp only [perform, Channel.send]
          split
          · exact joinable
          · simpa using joinable
      | deliver event => simpa [perform, Channel.deliver] using joinable
      | dispatch =>
          simp only [perform]
          split <;> exact joinable
      | _ => exact joinable
  | joined => cases spares
  | starved reader => exact fun _ => joinable (by simp [reader])
  | invalid reader => exact fun _ => joinable (by simp [reader])
  | unfinished reader => exact fun _ => joinable (by simp [reader])
  | decoded reader =>
      intro _
      simpa [Channel.deliver] using joinable (by simp [reader])
  | received reader => exact fun _ => joinable (by simp [reader])
  | finished reader => exact fun _ => joinable (by simp [reader])
  | failed reader => exact fun _ => joinable (by simp [reader])
  | told reader => exact fun _ => joinable (by simp [reader])
  | _ => exact joinable

/-! ### The invariant -/

/-- What the tasks have reported: the read loop when it returns, and the strand what it left its
loop with when it has come to its end. -/
structure Reports (channel : Channel H) (reading writing : Option Outcome) (readerFirst : Bool) :
    Prop where
  joinable : channel.reader ≠ .absent → channel.joinable = true
  reader : channel.reader = .ended ↔ reading.isSome = true
  left : hasLeft channel.strand = writing.isSome
  outcome : ∀ outcome, outcome? channel.strand = some outcome → writing = some outcome
  alive : channel.strand.isOver = true → hasLeft channel.strand = true
  endings : channel.endings =
    let returned := if channel.strand.isOver then writing.toList else []
    if readerFirst then reading.toList ++ returned else returned ++ reading.toList
  first : readerFirst = true → reading.isSome = true
  order : channel.strand.isOver = false → readerFirst = reading.isSome

namespace Reports

variable {channel after : Channel H} {reading writing : Option Outcome} {readerFirst : Bool}

theorem fresh (config : Config) (codec : Codec) :
    Reports ({ config := config, codec := codec } : Channel H) none none false := by
  constructor <;> simp [outcome?, Strand.isOver]

theorem reading_eq_none (reports : channel.Reports reading writing readerFirst)
    (reader : channel.reader ≠ .ended) : reading = none := by
  simpa using mt reports.reader.mpr reader

theorem writing_eq_none (reports : channel.Reports reading writing readerFirst)
    (stays : hasLeft channel.strand = false) : writing = none := by
  have left := reports.left
  rw [stays] at left
  simpa using left.symm

/-- Every move that spares the tasks keeps the invariant. -/
theorem moves {move : Move H} (reports : channel.Reports reading writing readerFirst)
    (begun : channel.reader = .absent ↔ channel.strand = .absent)
    (moves : Moves channel move after) (spares : move.sparesTasks = true) :
    let made : Made H := ⟨channel, move, after⟩
    after.Reports (reading.or made.endsReading) (writing.or made.leavesLoop)
      (readerFirst || (made.endsReading.isSome && !channel.strand.isOver)) := by
  intro made
  have joinable := joinable_of_moves moves spares reports.joinable
  cases Ends.of_moves begun moves spares with
  | goOn readingNone writingNone endings reader left isOver outcome =>
      rw [show made.endsReading = none from readingNone,
        show made.leavesLoop = none from writingNone]
      simp only [Option.or_none, Option.isSome_none, Bool.false_and, Bool.or_false]
      exact
        { joinable := joinable
          reader := reader.trans reports.reader
          left := left.trans reports.left
          outcome := outcome ▸ reports.outcome
          alive := by
            rw [isOver, left]
            exact reports.alive
          endings := by
            rw [endings, isOver]
            exact reports.endings
          first := reports.first
          order := by
            rw [isOver]
            exact reports.order }
  | readerReturns outcome readingSome writingNone endings reader returned strand =>
      have unread := reports.reading_eq_none reader
      have notFirst : readerFirst = false := by
        cases first : readerFirst with
        | false => rfl
        | true =>
            have read := reports.first first
            rw [unread] at read
            cases read
      have before := reports.endings
      rw [unread, notFirst] at before
      rw [show made.endsReading = some outcome from readingSome,
        show made.leavesLoop = none from writingNone, unread, notFirst]
      simp only [Option.or_none, Option.none_or, Option.isSome_some, Bool.true_and, Bool.false_or]
      exact
        { joinable := joinable
          reader := iff_of_true returned rfl
          left := strand ▸ reports.left
          outcome := strand ▸ reports.outcome
          alive := strand ▸ reports.alive
          endings := by
            rw [endings, before, strand]
            cases channel.strand.isOver <;> simp
          first := fun _ => rfl
          order := by
            rw [strand]
            intro stays
            rw [stays]
            rfl }
  | strandLeaves outcome readingNone writingSome endings reader stays isOver strand =>
      have unleft := reports.writing_eq_none stays
      have before := reports.endings
      rw [isOver] at before
      rw [show made.endsReading = none from readingNone,
        show made.leavesLoop = some outcome from writingSome, unleft]
      simp only [Option.or_none, Option.none_or, Option.isSome_none, Bool.false_and, Bool.or_false]
      exact
        { joinable := joinable
          reader := reader ▸ reports.reader
          left := by rw [strand]; rfl
          outcome := by
            rw [strand]
            exact fun other same => same
          alive := by
            rw [strand]
            exact fun impossible => nomatch impossible
          endings := by
            rw [endings, before, strand]
            rfl
          first := reports.first
          order := fun _ => reports.order isOver }
  | strandReturns outcome readingNone writingNone endings reader strand ended =>
      have reported : writing = some outcome := reports.outcome outcome (by rw [strand]; rfl)
      have isOver : channel.strand.isOver = false := by rw [strand]; rfl
      have order := reports.order isOver
      have before := reports.endings
      rw [isOver] at before
      rw [show made.endsReading = none from readingNone,
        show made.leavesLoop = none from writingNone, reported]
      simp only [Option.or_none, Option.isSome_none, Bool.false_and, Bool.or_false]
      exact
        { joinable := joinable
          reader := reader ▸ reports.reader
          left := by rw [ended]; rfl
          outcome := by
            rw [ended]
            exact fun other impossible => nomatch impossible
          alive := by
            rw [ended]
            exact fun _ => rfl
          endings := by
            rw [endings, before, ended, order]
            cases reading <;> rfl
          first := reports.first
          order := by
            rw [ended]
            exact fun impossible => nomatch impossible }

end Reports

end Channel

namespace Session

open Channel

variable {H : Type}

/-- How the read loop has returned, if it has. -/
def reading (session : Session H) : Option Outcome := session.past.findSome? Made.endsReading

/-- How the strand has left its loop, if it has. -/
def writing (session : Session H) : Option Outcome := session.past.findSome? Made.leavesLoop

/-- Whether the read loop has returned, and before the strand. -/
def readerFirst (session : Session H) : Bool :=
  session.past.any fun made => made.endsReading.isSome && !made.before.strand.isOver

/-- The invariant, of the record of a session. -/
structure Reports (session : Session H) : Prop where
  reports : session.channel.Reports session.reading session.writing session.readerFirst
  readOnce : ∀ made ∈ session.past, ∀ outcome, made.endsReading = some outcome →
    session.reading = some outcome
  leftOnce : ∀ made ∈ session.past, ∀ outcome, made.leavesLoop = some outcome →
    session.writing = some outcome
  closing : ∀ made ∈ session.past, made.closes = true → made.before.strand.isOver = false

theorem Reports.fresh (config : Config) (codec : Codec) :
    (Session.fresh config codec : Session H).Reports :=
  ⟨.fresh config codec, fun _ impossible => (nomatch impossible),
    fun _ impossible => (nomatch impossible), fun _ impossible => (nomatch impossible)⟩

theorem Reports.step {session after : Session H} {move : Move H} (reports : session.Reports)
    (closes : session.channel.Closes session.starved session.died)
    (spares : move.sparesTasks = true)
    (stepped : session.step move = some after) : after.Reports := by
  obtain ⟨moves, recorded⟩ := moves_of_step stepped
  let made : Made H := ⟨session.channel, move, after.channel⟩
  have reading : after.reading = session.reading.or made.endsReading := by
    unfold Session.reading
    rw [recorded, List.findSome?_append]
    simp [made]
  have writing : after.writing = session.writing.or made.leavesLoop := by
    unfold Session.writing
    rw [recorded, List.findSome?_append]
    simp [made]
  have readerFirst : after.readerFirst =
      (session.readerFirst || (made.endsReading.isSome && !session.channel.strand.isOver)) := by
    unfold Session.readerFirst
    rw [recorded, List.any_append]
    simp [made]
  have ends := Ends.of_moves closes.begun moves spares
  have next := reports.reports.moves closes.begun moves spares
  refine ⟨?_, ?_, ?_, ?_⟩
  · rw [reading, writing, readerFirst]
    exact next
  · intro earlier member outcome returns
    rw [reading]
    rw [recorded] at member
    rcases List.mem_append.mp member with old | new
    · rw [reports.readOnce earlier old outcome returns]
      rfl
    · cases List.mem_singleton.mp new
      rw [reports.reports.reading_eq_none (ends.reader_ne_ended returns), Option.none_or]
      exact returns
  · intro earlier member outcome leaves
    rw [writing]
    rw [recorded] at member
    rcases List.mem_append.mp member with old | new
    · rw [reports.leftOnce earlier old outcome leaves]
      rfl
    · cases List.mem_singleton.mp new
      rw [reports.reports.writing_eq_none (ends.inLoop leaves), Option.none_or]
      exact leaves
  · intro earlier member isClosing
    rw [recorded] at member
    rcases List.mem_append.mp member with old | new
    · exact reports.closing earlier old isClosing
    · cases List.mem_singleton.mp new
      have isOpen : session.channel.state ≠ .closed := Delivers.open_of_closes isClosing
      exact Bool.eq_false_iff.mpr fun isOver => isOpen (closes.left (reports.reports.alive isOver))

theorem reports_of_run {config : Config} {codec : Codec} {moves : List (Move H)}
    {session : Session H} (spares : ∀ move ∈ moves, move.sparesTasks = true)
    (ran : (Session.fresh config codec).run moves = some session) : session.Reports := by
  have started : (Session.fresh config codec : Session H).Attends ∧
      (Session.fresh config codec : Session H).channel.Closes false false ∧
      (Session.fresh config codec : Session H).Reports :=
    ⟨fun impossible => (nomatch impossible), .fresh config codec, .fresh config codec⟩
  obtain ⟨_, _, reports⟩ := run_keeps
    (motive := fun session : Session H =>
      session.Attends ∧ session.channel.Closes session.starved session.died ∧ session.Reports)
    (fun before spares stepped =>
      ⟨before.1.step stepped, closes_of_step before.1 before.2.1 stepped,
        before.2.2.step before.2.1 spares stepped⟩)
    started spares ran
  exact reports

/-- **A join reports the first failure.** In every session in which no handler dies, the first join
that comes when both tasks are over reports the failure of the task that returns first, or else that
of the other one; without a failure it is well.

So an error by which the read loop closes the channel is what a join reports, whatever the strand
does afterwards. An error by which the strand closes the channel is reported unless the read loop
fails as well and returns before the strand has come to its end. And where a channel is closed by a
stop, or by the end of the stream, a join is well only if neither task fails after that. -/
theorem joins_with_first_failure (config : Config) (codec : Codec) {moves : List (Move H)}
    {session : Session H} (spares : ∀ move ∈ moves, move.sparesTasks = true)
    (ran : (Session.fresh config codec).run moves = some session)
    (finished : session.channel.isFinished = true) :
    let joined := session.channel.join.1
    ∃ reading writing, session.reading = some reading ∧ session.writing = some writing ∧
      joined = firstFailure
        (if session.readerFirst then [reading, writing] else [writing, reading]) ∧
      (joined = .ok () ↔ reading = .ok () ∧ writing = .ok ()) ∧
      ∀ made, session.past.find? Made.closes = some made →
        (∀ error, made.endsReading = some (.error error) → joined = .error error) ∧
        ∀ error, made.leavesLoop = some (.error error) → joined =
          if session.readerFirst then firstFailure [reading, .error error] else .error error := by
  have reports := reports_of_run spares ran
  simp only [isFinished, Bool.and_eq_true, decide_eq_true_eq] at finished
  obtain ⟨ended, isOver⟩ := finished
  obtain ⟨reading, read⟩ := Option.isSome_iff_exists.mp (reports.reports.reader.mp ended)
  obtain ⟨writing, written⟩ := Option.isSome_iff_exists.mp
    (reports.reports.left.symm.trans (reports.reports.alive isOver))
  have joinable := reports.reports.joinable
    (by simp [ended])
  have endings : session.channel.endings =
      if session.readerFirst then [reading, writing] else [writing, reading] := by
    rw [reports.reports.endings, read, written, isOver]
    rfl
  intro joined
  have reported : joined = firstFailure
      (if session.readerFirst then [reading, writing] else [writing, reading]) := by
    show session.channel.join.1 = _
    unfold Channel.join
    rw [if_pos joinable, endings]
  refine ⟨reading, writing, read, written, reported, ?_, fun made isFirst => ⟨?_, ?_⟩⟩
  · rw [reported, firstFailure_eq_ok_iff]
    split
    · simp
    · simp [and_comm]
  · intro error returns
    have member := List.mem_of_find?_eq_some isFirst
    have isClosing := List.find?_some isFirst
    have same : reading = .error error :=
      Option.some.inj (read.symm.trans (reports.readOnce made member _ returns))
    have first : session.readerFirst = true := by
      refine List.any_eq_true.mpr ⟨made, member, ?_⟩
      rw [returns, reports.closing made member isClosing]
      rfl
    rw [reported, first, same]
    rfl
  · intro error leaves
    have member := List.mem_of_find?_eq_some isFirst
    have same : writing = .error error :=
      Option.some.inj (written.symm.trans (reports.leftOnce made member _ leaves))
    rw [reported, same]
    split <;> rfl

/-- The stream fails to give bytes, which closes the channel, and then to take those of a write that
has begun: it is the first failure that a join reports. -/
theorem joins_with_first_failure_of_reading :
    let unreadable : StreamFault := .described "gone"
    let moves : List (Move Nat) :=
      [.act (.start (.ok ())), .act (.send { uid := ⟨1⟩ }), .strandTurn, .failed unreadable,
        .refused .brokenPipe, .strandTurn, .shut]
    ∃ session, (Session.fresh {} .default).run moves = some session ∧
      session.writing = some (.error (.stream .brokenPipe)) ∧
      session.channel.join.1 = .error (.stream unreadable) := by
  intro unreadable moves
  have possible : ((Session.fresh {} .default).run moves).isSome = true := by decide +kernel
  obtain ⟨session, ran⟩ := Option.isSome_iff_exists.mp possible
  have finished := of_run_all ran (fun session => session.channel.isFinished = true)
    (by decide +kernel)
  obtain ⟨reading, writing, read, written, joined, _⟩ :=
    joins_with_first_failure {} .default (by decide) ran finished
  have first := of_run_all ran (fun session => session.readerFirst = true) (by decide +kernel)
  have unread := of_run_all ran (fun session =>
    session.reading = some (.error (.stream unreadable))) (by decide +kernel)
  have unwritten := of_run_all ran (fun session =>
    session.writing = some (.error (.stream .brokenPipe))) (by decide +kernel)
  refine ⟨session, ran, unwritten, ?_⟩
  rw [joined, first, Option.some.inj (read.symm.trans unread)]
  rfl

/-- **A join may report what did not close the channel.** A channel is stopped while its strand
writes; the write goes on, and when the peer has gone it fails. The channel was closed by the stop,
and the join reports the failure of the stream. -/
theorem joins_with_late_failure :
    let moves : List (Move Nat) :=
      [.act (.start (.ok ())), .act (.send { uid := ⟨1⟩ }), .strandTurn, .act .stop, .told,
        .refused .brokenPipe, .strandTurn, .shut]
    (∀ move ∈ moves, move.sparesTasks = true) ∧
    ∃ session, (Session.fresh {} .default).run moves = some session ∧
      session.closedByStop = true ∧ session.channel.isFinished = true ∧
      session.channel.join.1 = .error (.stream .brokenPipe) := by
  intro moves
  refine ⟨by decide, ?_⟩
  have possible : ((Session.fresh {} .default).run moves).isSome = true := by decide +kernel
  obtain ⟨session, ran⟩ := Option.isSome_iff_exists.mp possible
  refine ⟨session, ran, ?_, ?_, ?_⟩
  · exact of_run_all ran (fun session => session.closedByStop = true) (by decide +kernel)
  · exact of_run_all ran (fun session => session.channel.isFinished = true) (by decide +kernel)
  · exact of_run_all ran (fun session =>
      session.channel.join.1 = .error (.stream .brokenPipe)) (by decide +kernel)

end Session

end EventTransport
