import EventTransport.Proofs.Bus.Watching
import Mathlib.Data.List.Basic

/-!
Contract: what a shutdown changes for a subscriber, and what it does not.

Owns:
- `Hub.Watch.Still` and `Hub.Watch.Attended`, what a deed of others and a step on the queue do to
  the private queue of a subscriber;
- `Hub.Lags`, a run on a bus that is shut down beside one on the bus as it was, kept by every deed;
- that a shutdown is for good, and that copies that were handed out before are dealt with as if it
  had not been.

Behind the shutdown a private queue is a front of what it would have been, until it is used up. Up
to there handlers cannot tell the difference; what they hook meanwhile comes behind everything else.

Does not own: what a bus does before it is shut down.
-/

namespace EventTransport

namespace Hub

variable {H μ : Type}

/-! ### One run -/

theorem privateQueue_run_spent {hub : Hub H} (sound : hub.Sound) (isOver : hub.bus = .spent)
    (moves : List (Move H)) (serial : Nat) :
    (hub.run moves).privateQueue serial <:+ hub.privateQueue serial := by
  induction moves generalizing hub with
  | nil => exact List.suffix_rfl
  | cons move moves inductionHypothesis =>
      have now := privateQueue_step_spent sound isOver move serial
      exact (inductionHypothesis (Accounts.of_sound sound move).sound
        (spent_step isOver move)).trans now

namespace Watch

/-- A subscriber is watched that has been created. -/
structure Steady (watch : Watch H μ) (serial : Nat) : Prop where
  sound : watch.hub.Sound
  known : serial < watch.hub.next
  mine : watch.mine = some serial

theorem Steady.step {watch : Watch H μ} {serial : Nat} (steady : watch.Steady serial)
    (conduct : Conduct H μ) (deed : Deed H) : (watch.step conduct deed).Steady serial := by
  obtain ⟨moves, isRun⟩ := exists_run_of_deed conduct steady.sound deed
  refine ⟨?_, ?_, mine_step steady.mine conduct deed⟩
  · rw [isRun]
    exact sound_run steady.sound moves
  · rw [isRun]
    exact Nat.lt_of_lt_of_le steady.known (watch.hub.next_le_run moves)

/-- Nothing is done but that something may arrive. -/
structure Still (serial : Nat) (before after : Watch H μ) : Prop where
  memory : after.memory = before.memory
  reports : after.reports = before.reports
  tracker : (after.hub.members serial).map Subscriber.tracker =
    (before.hub.members serial).map Subscriber.tracker
  queue : ∃ more, after.hub.privateQueue serial = before.hub.privateQueue serial ++ more

namespace Still

variable {serial : Nat} {watch after : Watch H μ}

theorem refl (serial : Nat) (watch : Watch H μ) : Still serial watch watch :=
  ⟨rfl, rfl, rfl, [], (List.append_nil _).symm⟩

theorem aside (steady : watch.Steady serial) (conduct : Conduct H μ) (move : Move H) :
    Still serial watch (watch.step conduct (.aside move)) ∧
      (watch.step conduct (.aside move)).hub.members serial = watch.hub.members serial := by
  rw [step_aside]
  split
  · rename_i admitted
    have apart : move.isOf serial = false := by
      unfold admits at admitted
      rw [steady.mine] at admitted
      simp only [Option.all_some, Bool.and_eq_true, Bool.not_eq_true'] at admitted
      exact admitted.1.1
    have members := (members_step_of_apart apart steady.known).1
    obtain ⟨more, waiting⟩ := exists_waiting_of_apart steady.sound steady.known apart
    refine ⟨⟨rfl, rfl, congrArg _ members, ?_⟩, members⟩
    show ∃ more, (watch.hub.step move).privateQueue serial = _
    cases lives : watch.hub.members serial with
    | none =>
        refine ⟨[], ?_⟩
        rw [privateQueue_of_none lives, privateQueue_of_none (members.trans lives)]
        rfl
    | some member =>
        refine ⟨more, ?_⟩
        rw [privateQueue_of_some lives, privateQueue_of_some (members.trans lives), waiting,
          List.append_assoc]
  · exact ⟨refl serial watch, rfl⟩

/-- On a bus that is over nothing arrives. -/
theorem queue_of_spent (still : Still serial watch after)
    (ends : after.hub.privateQueue serial <:+ watch.hub.privateQueue serial) :
    after.hub.privateQueue serial = watch.hub.privateQueue serial := by
  obtain ⟨more, longer⟩ := still.queue
  refine ends.eq_of_length_le ?_
  rw [longer, List.length_append]
  exact Nat.le_add_right _ _

end Still

theorem Still.perform {watch : Watch H μ} {serial : Nat} {member : Subscriber H}
    (sound : watch.hub.Sound) (lives : watch.hub.members serial = some member)
    (conduct : Conduct H μ) {act : Act H} (calls : act ≠ .process) (lasts : act ≠ .drop) :
    Still serial watch (watch.perform conduct member act) := by
  have members := members_perform sound lives conduct calls
  obtain rfl := sound.named serial member lives
  have quiet {after : Watch H μ} (undisturbed : Undisturbed watch.hub after.hub) :
      ∃ more, after.hub.privateQueue member.id.serial =
        watch.hub.privateQueue member.id.serial ++ more :=
    ⟨[], (undisturbed.privateQueue _).trans (List.append_nil _).symm⟩
  cases act with
  | bind key handler =>
      refine ⟨rfl, rfl, ?_, quiet (watch.hub.undisturbed_of_rebinds (.bind _ key handler) rfl)⟩
      rw [members, lives]
      exact congrArg some (member.gains_bind watch.hub.bus key handler).tracker
  | unbind key =>
      refine ⟨rfl, rfl, ?_, quiet (watch.hub.undisturbed_of_rebinds (.unbind _ key) rfl)⟩
      rw [members, lives]
      exact congrArg some (member.releases_unbind watch.hub.bus key).tracker
  | unbindAll =>
      refine ⟨rfl, rfl, ?_, quiet (watch.hub.undisturbed_of_rebinds (.unbindAll _) rfl)⟩
      rw [members, lives]
      exact congrArg some (member.releases_unbindEach watch.hub.bus _).tracker
  | subscribe key => exact ⟨rfl, rfl, rfl, [], (List.append_nil _).symm⟩
  | unsubscribe key => exact ⟨rfl, rfl, rfl, [], (List.append_nil _).symm⟩
  | count =>
      obtain ⟨queue, ready, emptied⟩ := privateQueue_collect sound lives
      refine ⟨rfl, rfl, ?_, [], ?_⟩
      · rw [members, lives]
        rfl
      · show (watch.hub.step (.collect member.id.serial)).privateQueue member.id.serial = _
        rw [privateQueue_of_some ready, emptied, queue]
  | process => exact absurd rfl calls
  | drop => exact absurd rfl lasts

/-- A step on the queue of a subscriber, as it is after its mailbox has been emptied. -/
structure Attended (conduct : Conduct H μ) (serial : Nat) (collected : Subscriber H)
    (before after : Watch H μ) : Prop where
  members : after.hub.members serial =
    some (collected.work conduct.answer before.memory).1.subscriber
  memory : after.memory = (collected.work conduct.answer before.memory).2.1
  reports : after.reports = before.reports ++
    [⟨(collected.work conduct.answer before.memory).1.progress,
      (collected.work conduct.answer before.memory).2.2⟩]
  queue : ∃ more, after.hub.privateQueue serial =
    (collected.work conduct.answer before.memory).1.subscriber.queue ++ more ∧
      (before.hub.bus = .spent → more = [])

theorem attended {watch : Watch H μ} {serial : Nat} {member : Subscriber H}
    (steady : watch.Steady serial) (lives : watch.hub.members serial = some member)
    (conduct : Conduct H μ) :
    Attended conduct serial (member.collect watch.hub.mail).1 watch
      (watch.attend conduct serial) := by
  obtain ⟨moves, does, attends⟩ := exists_attended conduct lives
  obtain ⟨_, members, emptied⟩ := privateQueue_collect steady.sound lives
  have startSound : (watch.hub.step (.collect serial)).Sound :=
    (Accounts.of_sound steady.sound (.collect serial)).sound
  have known := Nat.lt_of_lt_of_le steady.known (watch.hub.next_le_step (.collect serial))
  have apart : ∀ move ∈ moves, move.isOf serial = false := fun move made => (does move made).1
  obtain ⟨more, waiting⟩ := exists_waiting_run startSound known apart
  rw [emptied, List.nil_append] at waiting
  rw [attends]
  refine ⟨members_seat_self _ _ _ _, rfl, rfl, more, ?_, fun isOver => ?_⟩
  · rw [privateQueue_of_some (members_seat_self _ _ _ _)]
    exact congrArg _ waiting
  · have ends := privateQueue_run_spent startSound (spent_step isOver (.collect serial))
      moves serial
    have stays := (members_run_of_apart apart known).trans members
    change ((watch.hub.step (.collect serial)).run moves).privateQueue serial <:+
      (watch.hub.step (.collect serial)).privateQueue serial at ends
    rw [privateQueue_of_some stays, privateQueue_of_some members, waiting, emptied] at ends
    have short := ends.length_le
    rw [List.length_append, List.append_nil] at short
    exact List.length_eq_zero_iff.mp (by omega)

end Watch

/-! ### Two runs -/

/-- What has become of the copies that were there when a bus was shut down. -/
inductive Phase (serial : Nat) (closed live : Watch H μ) : Prop where
  /-- Some may be left. -/
  | inStep (memory : closed.memory = live.memory) (reports : closed.reports = live.reports)
      (tracker : (closed.hub.members serial).map Subscriber.tracker =
        (live.hub.members serial).map Subscriber.tracker)
      (queue : closed.hub.privateQueue serial <+: live.hub.privateQueue serial)
  | usedUp (empty : closed.hub.privateQueue serial = []) (settled : List (Report H)) (idle : Nat)
      (reports : closed.reports = settled ++ List.replicate idle { progress := .idle })
      (before : settled <+: live.reports)

/-- A run on a bus that is shut down beside one on a bus that may be not. -/
structure Lags (serial : Nat) (closed live : Watch H μ) : Prop where
  closedSteady : closed.Steady serial
  liveSteady : live.Steady serial
  isOver : closed.hub.bus = .spent
  members : Option.Rel Subscriber.SameBindings (closed.hub.members serial) (live.hub.members serial)
  phase : Phase serial closed live

namespace Phase

variable {serial : Nat} {closed live : Watch H μ}

/-- What the two do not report alike is idle. -/
theorem exists_settled (phase : Phase serial closed live) :
    ∃ settled idle, closed.reports = settled ++ List.replicate idle { progress := .idle } ∧
      settled <+: live.reports := by
  cases phase with
  | inStep memory reports tracker queue =>
      exact ⟨closed.reports, 0, (List.append_nil _).symm, reports ▸ List.prefix_rfl⟩
  | usedUp empty settled idle reports before => exact ⟨settled, idle, reports, before⟩

/-- While a copy is left, the two have gone the same way. -/
theorem inStep_of_ne_nil (phase : Phase serial closed live)
    (left : closed.hub.privateQueue serial ≠ []) :
    closed.memory = live.memory ∧ closed.reports = live.reports ∧
      (closed.hub.members serial).map Subscriber.tracker =
        (live.hub.members serial).map Subscriber.tracker ∧
      closed.hub.privateQueue serial <+: live.hub.privateQueue serial := by
  cases phase with
  | inStep memory reports tracker queue => exact ⟨memory, reports, tracker, queue⟩
  | usedUp nothing _ _ _ _ => exact absurd nothing left

/-- Neither of them takes anything from its queue. -/
theorem still (phase : Phase serial closed live) {closedAfter liveAfter : Watch H μ}
    (closedStill : Watch.Still serial closed closedAfter)
    (ends : closedAfter.hub.privateQueue serial <:+ closed.hub.privateQueue serial)
    (liveStill : Watch.Still serial live liveAfter) : Phase serial closedAfter liveAfter := by
  have same := closedStill.queue_of_spent ends
  cases phase with
  | inStep memory reports tracker queue =>
      obtain ⟨more, longer⟩ := liveStill.queue
      refine .inStep ?_ ?_ ?_ ?_
      · rw [closedStill.memory, liveStill.memory, memory]
      · rw [closedStill.reports, liveStill.reports, reports]
      · rw [closedStill.tracker, liveStill.tracker, tracker]
      · rw [same, longer]
        exact queue.trans (List.prefix_append _ _)
  | usedUp empty settled idle reports before =>
      refine .usedUp (same.trans empty) settled idle ?_ ?_
      · rw [closedStill.reports, reports]
      · rw [liveStill.reports]
        exact before

/-- Both of them are dropped. -/
theorem dropped (phase : Phase serial closed live) {closedAfter liveAfter : Watch H μ}
    (closedGone : closedAfter.hub.members serial = none)
    (liveGone : liveAfter.hub.members serial = none)
    (memory : closedAfter.memory = closed.memory ∧ liveAfter.memory = live.memory)
    (reports : closedAfter.reports = closed.reports ∧ liveAfter.reports = live.reports) :
    Phase serial closedAfter liveAfter := by
  cases phase with
  | inStep memories reportsBefore tracker queue =>
      refine .inStep ?_ ?_ ?_ ?_
      · rw [memory.1, memory.2, memories]
      · rw [reports.1, reports.2, reportsBefore]
      · rw [closedGone, liveGone]
      · rw [privateQueue_of_none closedGone]
        exact List.nil_prefix
  | usedUp empty settled idle reportsBefore before =>
      refine .usedUp (privateQueue_of_none closedGone) settled idle ?_ ?_
      · rw [reports.1, reportsBefore]
      · rw [reports.2]
        exact before

/-- A step on either queue: the same one while a copy is left, and then an idle one. -/
theorem attended (phase : Phase serial closed live) {conduct : Conduct H μ}
    {closedAfter liveAfter : Watch H μ} {left right : Subscriber H}
    (same : left.SameBindings right)
    (tracker : (closed.hub.members serial).map Subscriber.tracker = some left.tracker ∧
      (live.hub.members serial).map Subscriber.tracker = some right.tracker)
    (queue : left.queue = closed.hub.privateQueue serial ∧
      right.queue = live.hub.privateQueue serial)
    (isOver : closed.hub.bus = .spent)
    (closedAttended : Watch.Attended conduct serial left closed closedAfter)
    (liveAttended : Watch.Attended conduct serial right live liveAfter) :
    Phase serial closedAfter liveAfter := by
  obtain ⟨more, closedQueue, nothingMore⟩ := closedAttended.queue
  rw [nothingMore isOver, List.append_nil] at closedQueue
  by_cases empty : closed.hub.privateQueue serial = []
  · obtain ⟨settled, idle, reports, before⟩ := phase.exists_settled
    have nothing := Subscriber.work_of_queue_eq_nil (queue.1.trans empty) conduct.answer
      closed.memory
    refine .usedUp ?_ settled (idle + 1) ?_ ?_
    · rw [closedQueue, nothing]
      exact queue.1.trans empty
    · rw [closedAttended.reports, nothing, reports, List.replicate_succ', List.append_assoc]
    · rw [liveAttended.reports]
      exact before.trans (List.prefix_append _ _)
  · obtain ⟨memory, reports, trackers, ahead⟩ := phase.inStep_of_ne_nil empty
    obtain ⟨newer, longer⟩ := ahead
    rw [← queue.1, ← queue.2] at longer
    rw [← queue.1] at empty
    have front : left.queue.head? = right.queue.head? := by
      rw [← longer, List.head?_append_of_ne_nil _ empty]
    rw [tracker.1, tracker.2] at trackers
    obtain ⟨state, progress, trackersAfter⟩ := Subscriber.process_alike same
      (Option.some.inj trackers) front (Subscriber.remembering conduct.answer) (live.memory, [])
    have leftReported := left.reported_process (Subscriber.remembering conduct.answer)
      (live.memory, [])
    have rightReported := right.reported_process (Subscriber.remembering conduct.answer)
      (live.memory, [])
    obtain ⟨arrived, liveQueue, _⟩ := liveAttended.queue
    have closedMembers := closedAttended.members
    have closedMemory := closedAttended.memory
    have closedReports := closedAttended.reports
    rw [memory] at closedMembers closedMemory closedReports closedQueue
    refine .inStep ?_ ?_ ?_ ?_
    · rw [closedMemory, liveAttended.memory]
      exact congrArg Prod.fst state
    · rw [closedReports, liveAttended.reports, reports]
      unfold Subscriber.work
      rw [state, progress]
    · rw [closedMembers, liveAttended.members]
      exact congrArg some trackersAfter
    · rw [closedQueue, liveQueue]
      unfold Subscriber.work
      rw [leftReported.queue, rightReported.queue, progress, ← longer]
      split
      · rw [List.tail_append_of_ne_nil empty, List.append_assoc]
        exact List.prefix_append _ _
      · rw [List.append_assoc]
        exact List.prefix_append _ _

end Phase

namespace Lags

variable {serial : Nat} {closed live : Watch H μ}

/-- Others do as they like, on either bus. -/
theorem aside (lags : Lags serial closed live) (conduct : Conduct H μ) (move : Move H) :
    Lags serial (closed.step conduct (.aside move)) live ∧
      Lags serial closed (live.step conduct (.aside move)) := by
  obtain ⟨closedStill, closedMembers⟩ := Watch.Still.aside lags.closedSteady conduct move
  obtain ⟨liveStill, liveMembers⟩ := Watch.Still.aside lags.liveSteady conduct move
  obtain ⟨moves, isRun⟩ := exists_run_of_deed conduct lags.closedSteady.sound (.aside move)
  constructor
  · refine
      { closedSteady := lags.closedSteady.step conduct _
        liveSteady := lags.liveSteady
        isOver := ?_
        members := ?_
        phase := lags.phase.still closedStill ?_ (.refl serial live) }
    · rw [isRun]
      exact spent_run lags.isOver moves
    · rw [closedMembers]
      exact lags.members
    · rw [isRun]
      exact privateQueue_run_spent lags.closedSteady.sound lags.isOver moves serial
  · refine
      { closedSteady := lags.closedSteady
        liveSteady := lags.liveSteady.step conduct _
        isOver := lags.isOver
        members := ?_
        phase := lags.phase.still (.refl serial closed) List.suffix_rfl liveStill }
    rw [liveMembers]
    exact lags.members

/-- A step of both, each on its queue. -/
theorem attended (lags : Lags serial closed live) (conduct : Conduct H μ)
    {left right : Subscriber H}
    (leftLives : closed.hub.members serial = some left)
    (rightLives : live.hub.members serial = some right) (same : left.SameBindings right) :
    Option.Rel Subscriber.SameBindings ((closed.attend conduct serial).hub.members serial)
        ((live.attend conduct serial).hub.members serial) ∧
      Phase serial (closed.attend conduct serial) (live.attend conduct serial) := by
  let leftReady := (left.collect closed.hub.mail).1
  let rightReady := (right.collect live.hub.mail).1
  have sameReady : leftReady.SameBindings rightReady :=
    ⟨same.table, same.handlers, same.nextHandler⟩
  have closedAttended := Watch.attended lags.closedSteady leftLives conduct
  have liveAttended := Watch.attended lags.liveSteady rightLives conduct
  constructor
  · rw [closedAttended.members, liveAttended.members]
    have leftKept := leftReady.sameBindings_process (Subscriber.remembering conduct.answer)
      (closed.memory, [])
    have rightKept := rightReady.sameBindings_process (Subscriber.remembering conduct.answer)
      (live.memory, [])
    exact .some ((leftKept.trans sameReady).trans rightKept.symm)
  · refine lags.phase.attended sameReady ⟨?_, ?_⟩ ⟨?_, ?_⟩ lags.isOver closedAttended liveAttended
    · rw [leftLives]
      rfl
    · rw [rightLives]
      rfl
    · exact (privateQueue_collect lags.closedSteady.sound leftLives).1
    · exact (privateQueue_collect lags.liveSteady.sound rightLives).1

/-- One and the same deed, on either bus. -/
theorem own (lags : Lags serial closed live) (conduct : Conduct H μ) (act : Act H) :
    Lags serial (closed.step conduct (.own act)) (live.step conduct (.own act)) := by
  have closedSelf := Watch.self?_of_mine lags.closedSteady.mine
  have liveSelf := Watch.self?_of_mine lags.liveSteady.mine
  obtain ⟨closedGone, liveGone⟩ | ⟨left, right, leftLives, rightLives, same⟩ :=
    rel_cases lags.members
  · rw [Watch.step_own_of_none (closedSelf.trans closedGone),
      Watch.step_own_of_none (liveSelf.trans liveGone)]
    exact lags
  have closedSound := lags.closedSteady.sound
  have liveSound := lags.liveSteady.sound
  have closedSteady := lags.closedSteady.step conduct (.own act)
  have liveSteady := lags.liveSteady.step conduct (.own act)
  obtain ⟨moves, isRun⟩ := exists_run_of_deed conduct closedSound (.own act)
  have isOver := spent_run lags.isOver moves
  have ends := privateQueue_run_spent closedSound lags.isOver moves serial
  rw [← isRun] at isOver ends
  rw [Watch.step_own (closedSelf.trans leftLives)] at closedSteady isOver ends ⊢
  rw [Watch.step_own (liveSelf.trans rightLives)] at liveSteady ⊢
  by_cases calls : act = .process
  · subst calls
    have closedCall : closed.perform conduct left .process = closed.attend conduct serial :=
      congrArg (closed.attend conduct) (closedSound.named serial left leftLives)
    have liveCall : live.perform conduct right .process = live.attend conduct serial :=
      congrArg (live.attend conduct) (liveSound.named serial right rightLives)
    obtain ⟨members, phase⟩ := lags.attended conduct leftLives rightLives same
    rw [closedCall] at closedSteady isOver ⊢
    rw [liveCall] at liveSteady ⊢
    exact ⟨closedSteady, liveSteady, isOver, members, phase⟩
  · have closedMembers := Watch.members_perform closedSound leftLives conduct calls
    have liveMembers := Watch.members_perform liveSound rightLives conduct calls
    refine ⟨closedSteady, liveSteady, isOver, ?_, ?_⟩
    · rw [closedMembers, liveMembers]
      exact Watch.sameBindings_leaves same _ _ _ _ act
    · by_cases drops : act = .drop
      · subst drops
        exact lags.phase.dropped closedMembers liveMembers ⟨rfl, rfl⟩ ⟨rfl, rfl⟩
      · exact lags.phase.still (.perform closedSound leftLives conduct calls drops) ends
          (.perform liveSound rightLives conduct calls drops)

end Lags

/-- Whether a deed is one of the subscriber that is watched. -/
def Deed.isOwn : Deed H → Bool
  | own _ => true
  | _ => false

/-- A subscriber watched from here on. -/
def Watch.of (hub : Hub H) (serial : Nat) (memory : μ) : Watch H μ :=
  { hub := hub, mine := some serial, memory := memory }

theorem Lags.unowned {serial : Nat} {closed live : Watch H μ} (lags : Lags serial closed live)
    (conduct : Conduct H μ) {deed : Deed H} (other : deed.isOwn = false) :
    Lags serial (closed.step conduct deed) live ∧ Lags serial closed (live.step conduct deed) := by
  cases deed with
  | create name =>
      -- The subscriber that is watched has been created before.
      rw [Watch.step_create, Watch.step_create, lags.closedSteady.mine, lags.liveSteady.mine]
      exact ⟨lags, lags⟩
  | own act => cases other
  | aside move => exact lags.aside conduct move

theorem Lags.run {serial : Nat} {closed live : Watch H μ} (lags : Lags serial closed live)
    (conduct : Conduct H μ) {deeds others : List (Deed H)}
    (same : deeds.filter Deed.isOwn = others.filter Deed.isOwn) :
    Lags serial (closed.run conduct deeds) (live.run conduct others) := by
  refine related_foldl (fun left right deed own related => ?_)
    (fun left right deed other related => (related.unowned conduct other).1)
    (fun left right deed other related => (related.unowned conduct other).2) same lags
  cases deed with
  | own act => exact related.own conduct act
  | _ => cases own

theorem lags_of_shutdown {hub : Hub H} {serial : Nat} (sound : hub.Sound) (kept : hub.Kept)
    (known : serial < hub.next) (memory : μ) :
    Lags serial (.of (hub.step .shutdown) serial memory) (.of hub serial memory) where
  closedSteady := ⟨(Accounts.of_sound sound .shutdown).sound, known, rfl⟩
  liveSteady := ⟨sound, known, rfl⟩
  isOver := spent_shutdown kept
  members := by
    show Option.Rel _ (hub.members serial) (hub.members serial)
    cases hub.members serial with
    | none => exact .none
    | some member => exact .some ⟨rfl, rfl, rfl⟩
  phase := .inStep rfl rfl rfl List.prefix_rfl

/-- **A shutdown is for good.** Whatever comes after it, on the bus and on subscribers old and new,
nothing is registered or queued any more: every call on the bus leaves a record and no more, also if
it comes through bindings, and private queues only lose events.

The copies in there are dealt with all the same. Of two runs with the same deeds of one subscriber,
one behind the shutdown and one without it, the one behind it reports the same, with the same
handlers asked about the same events, as long as a copy is left, and idle steps from then on; until
then what waits behind the shutdown is the front of what waits without it. -/
theorem shuts_down_for_good (first : Nat) (before : List (Move H)) :
    let hub := (new first : Hub H).run before
    let shut := hub.step .shutdown
    (∀ after : List (Move H),
      let later := shut.run after
      later.bus = { registry := Registry.empty, queue := [], shutDown := true } ∧ later.Ignores ∧
      ∀ move serial, (later.step move).privateQueue serial <:+ later.privateQueue serial) ∧
    ∀ (μ : Type) (conduct : Conduct H μ) (memory : μ) (serial : Nat) (deeds others : List (Deed H)),
      serial < hub.next → deeds.filter Deed.isOwn = others.filter Deed.isOwn →
      let closed := (Watch.of shut serial memory).run conduct deeds
      let live := (Watch.of hub serial memory).run conduct others
      (∃ settled idle, closed.reports = settled ++ List.replicate idle { progress := .idle } ∧
        settled <+: live.reports) ∧
      (closed.hub.privateQueue serial ≠ [] →
        closed.memory = live.memory ∧ closed.reports = live.reports ∧
        closed.hub.privateQueue serial <+: live.hub.privateQueue serial) := by
  intro hub shut
  have sound : hub.Sound := sound_run (.new first) before
  have kept : hub.Kept := .run (.new first) before
  refine ⟨fun after => ?_, fun μ conduct memory serial deeds others known same => ?_⟩
  · have shutSound : shut.Sound := (Accounts.of_sound sound .shutdown).sound
    have isOver : (shut.run after).bus = .spent := spent_run (spent_shutdown kept) after
    refine ⟨isOver, ignores_of_spent ((kept.step .shutdown).run after) isOver, ?_⟩
    exact privateQueue_step_spent (sound_run shutSound after) isOver
  · have lags := (lags_of_shutdown sound kept known memory).run conduct same
    refine ⟨lags.phase.exists_settled, fun left => ?_⟩
    obtain ⟨memories, reports, _, queue⟩ := lags.phase.inStep_of_ne_nil left
    exact ⟨memories, reports, queue⟩

/-- Two copies wait when the bus is shut down. A handler that needs two turns for each, and hooks an
event at every turn, has the first one behind it after three steps, with or without the shutdown;
who comes later is not registered. -/
theorem shuts_down_for_good_behind_copies :
    let event (kind : UInt8) : Event := { uid := ⟨kind⟩ }
    let before : List (Move Nat) :=
      [.create "reader", .bind 0 .all 9, .hook (event 7), .update, .hook (event 8), .update]
    let hub := (new 0).run before
    let shut := hub.step .shutdown
    let conduct : Conduct Nat Nat :=
      { answer := fun _ _ turns => (turns % 2 == 1, turns + 1)
        acts := fun _ _ _ => [.hook (event 5), .update] }
    let steps : List (Deed Nat) := [.own .process, .own .process, .own .process]
    let others : List (Deed Nat) := .aside (.hook (event 6)) :: .aside .update :: steps
    let live := (Watch.of hub 0 0).run conduct others
    (shut.run [.create "late", .bind 1 .all 4]).bus.registry = Registry.empty ∧
    live.memory = 3 ∧
    live.reports = [⟨.pending, [(9, event 7)]⟩, ⟨.done, [(9, event 7)]⟩,
      ⟨.pending, [(9, event 8)]⟩] := by
  intro event before hub shut conduct steps others live
  obtain ⟨forGood, asBefore⟩ := shuts_down_for_good 0 before
  obtain ⟨_, agree⟩ := asBefore Nat conduct 0 0 steps others (by decide +kernel) rfl
  obtain ⟨memory, reports, _⟩ := agree (by decide +kernel)
  refine ⟨?_, ?_, ?_⟩
  · rw [(forGood [.create "late", .bind 1 .all 4]).1]
  · exact memory.symm.trans (by decide +kernel)
  · exact reports.symm.trans (by decide +kernel)

end Hub

end EventTransport
