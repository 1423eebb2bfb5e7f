import EventTransport.Proofs.Bus.Hooking

/-!
Contract: what becomes of the copies of events that a subscriber gets, over every run.

Owns:
- `Hub.Made.pushed` and `Hub.Made.popped`, what a move puts into the mailbox of a subscriber and
  what it takes from its queue;
- `Hub.Handling`, everything that a move can do to mailbox and queue;
- `Hub.call`, a whole step on a private queue, with handlers that do as they like with everything
  but their own subscriber, and what is seen of it.

Mailbox and queue are one queue in two parts. Only a step on it takes from its front, and what
handlers hook and hand out meanwhile arrives at its end.

Does not own: which handlers are owed an event.
-/

namespace EventTransport

/-! ### One step -/

namespace Subscriber

variable {H σ : Type}

/-- What is reported of a step is what it does to the queue. -/
structure Reported (before : Subscriber H) (stepped : Stepped H) : Prop where
  idle : stepped.progress = .idle ↔ before.queue = []
  queue : stepped.subscriber.queue =
    if stepped.progress = .done ∨ stepped.progress = .undeliverable then before.queue.tail
    else before.queue

theorem reported_settle {subscriber : Subscriber H} (waits : subscriber.queue ≠ [])
    (kept : List HandlerNumber) : Reported subscriber (subscriber.settle kept) := by
  unfold settle
  cases kept with
  | nil =>
      exact ⟨⟨fun impossible => (nomatch impossible), fun nothing => absurd nothing waits⟩, rfl⟩
  | cons number kept =>
      exact ⟨⟨fun impossible => (nomatch impossible), fun nothing => absurd nothing waits⟩, rfl⟩

theorem reported_process (ask : H → Event → StateM σ Bool) (subscriber : Subscriber H) (state : σ) :
    Reported subscriber ((subscriber.process ask).run state).1 := by
  unfold process
  cases front : subscriber.queue with
  | nil => exact ⟨⟨fun _ => front, fun _ => rfl⟩, rfl⟩
  | cons event rest =>
      have waits : subscriber.queue ≠ [] := by simp [front]
      by_cases nobody : (subscriber.owed event).isEmpty = true
      · simp only [nobody, if_true]
        exact ⟨⟨fun impossible => (nomatch impossible), fun nothing => absurd nothing waits⟩, rfl⟩
      · simp only [nobody]
        exact reported_settle waits _

end Subscriber

namespace Hub

variable {H : Type}

/-! ### Moves -/

namespace Made

/-- What a move has put into the mailbox of a subscriber. -/
def pushed (made : Made H) (serial : Nat) : List Event :=
  (made.after.mail.waiting serial).drop (made.before.mail.waiting serial).length

/-- What a move has taken from the queue of a subscriber that goes on living. -/
def popped (made : Made H) (serial : Nat) : List Event :=
  match made.before.members serial, made.after.members serial with
  | some before, some after => gone before.queue after.queue
  | _, _ => []

theorem popped_of_some {hub : Hub H} {move : Move H} {serial : Nat} {before after : Subscriber H}
    (lived : hub.members serial = some before)
    (lives : (hub.step move).members serial = some after) :
    (mk hub move).popped serial = gone before.queue after.queue := by
  unfold popped Made.after
  rw [lived, lives]

theorem popped_of_none {hub : Hub H} {serial : Nat} (absent : hub.members serial = none)
    (move : Move H) : (mk hub move).popped serial = [] := by
  unfold popped
  rw [absent]

end Made

/-- Everything that a move can do to the mailbox and the queue of a subscriber. -/
inductive Handling (hub : Hub H) (move : Move H) (serial : Nat) (before after : Subscriber H) :
    Prop where
  | fed (more : List Event)
      (waiting : (hub.step move).mail.waiting serial = hub.mail.waiting serial ++ more)
      (queue : after.queue = before.queue)
  | emptied
      (waiting : (hub.step move).mail.waiting serial = [])
      (queue : after.queue = before.queue ++ hub.mail.waiting serial)
  | served
      (waiting : (hub.step move).mail.waiting serial = hub.mail.waiting serial)
      (queue : after.queue <:+ before.queue)

namespace Handling

variable {hub : Hub H} {move : Move H} {serial : Nat} {before after : Subscriber H}

theorem undisturbed (lived : hub.members serial = some before)
    (lives : (hub.step move).members serial = some after)
    (undisturbed : Undisturbed hub (hub.step move)) : Handling hub move serial before after := by
  refine fed [] ?_ ?_
  · rw [undisturbed.mail, List.append_nil]
  · have same := undisturbed.members serial
    rw [lived, lives] at same
    exact (Prod.mk.inj (Option.some.inj same)).2

theorem balanced (handling : Handling hub move serial before after)
    (lived : hub.members serial = some before)
    (lives : (hub.step move).members serial = some after) :
    Balanced (hub.privateQueue serial) ((Made.mk hub move).pushed serial)
      ((Made.mk hub move).popped serial) ((hub.step move).privateQueue serial) := by
  unfold Balanced Made.pushed Made.after
  rw [Made.popped_of_some lived lives, privateQueue_of_some lived, privateQueue_of_some lives]
  cases handling with
  | fed more waiting queue =>
      rw [waiting, queue, gone_self, List.drop_left, List.append_assoc]
      rfl
  | emptied waiting queue =>
      rw [waiting, queue, gone_append, List.drop_nil, List.append_nil]
      rfl
  | served waiting queue =>
      rw [waiting, List.drop_length, List.append_nil, ← List.append_assoc,
        gone_append_of_suffix queue]

end Handling

/-- An update only adds to mailboxes. -/
theorem exists_waiting_update {hub : Hub H} (sound : hub.Sound) (serial : Nat) :
    ∃ more, (hub.step .update).mail.waiting serial = hub.mail.waiting serial ++ more := by
  show ∃ more, (hub.bus.update hub.mail).mail.waiting serial = _
  cases queue : hub.bus.queue with
  | nil =>
      obtain ⟨_, mail, _⟩ := GlobalBus.update_of_queue_eq_nil queue hub.mail
      exact ⟨[], by rw [mail, List.append_nil]⟩
  | cons event rest =>
      have live : hub.bus.shutDown = false := by
        cases shutDown : hub.bus.shutDown with
        | false => rfl
        | true =>
            rw [sound.emptied shutDown] at queue
            cases queue
      exact ⟨_, (GlobalBus.handsOut_update live queue hub.mail).waiting serial⟩

/-- What others do only adds to a mailbox. -/
theorem exists_waiting_of_apart {hub : Hub H} {serial : Nat} {move : Move H} (sound : hub.Sound)
    (known : serial < hub.next) (apart : move.isOf serial = false) :
    ∃ more, (hub.step move).mail.waiting serial = hub.mail.waiting serial ++ more := by
  have other_ne {other : Nat} (differs : decide (other = serial) = false) : serial ≠ other :=
    fun same => of_decide_eq_false differs same.symm
  have same {after : Hub H} (mail : after.mail.waiting serial = hub.mail.waiting serial) :
      ∃ more, after.mail.waiting serial = hub.mail.waiting serial ++ more :=
    ⟨[], mail.trans (List.append_nil _).symm⟩
  have ofMail {after : Hub H} (mail : after.mail = hub.mail) :
      ∃ more, after.mail.waiting serial = hub.mail.waiting serial ++ more :=
    same (congrArg (fun mail : Mailboxes => mail.waiting serial) mail)
  have rebound := hub.undisturbed_of_rebinds move
  cases move with
  | create name =>
      refine same ?_
      show (hub.mail.openBox hub.next).waiting serial = _
      rw [Mailboxes.waiting_openBox, if_neg (Nat.ne_of_lt known)]
  | bind | unbind | unbindAll => exact ofMail (rebound rfl).mail
  | drop other =>
      refine same ?_
      show ((hub.rebind other Subscriber.unbindAll).mail.closeBox other).waiting serial = _
      rw [Mailboxes.waiting_closeBox, if_neg (other_ne apart),
        (hub.undisturbed_rebind other Subscriber.calm_unbindAll).mail]
  | update => exact exists_waiting_update sound serial
  | collect other =>
      cases there : hub.members other with
      | none => exact ofMail (congrArg Hub.mail (step_collect_of_none there))
      | some member =>
          have isOpen : hub.mail.isOpen other = true := by rw [sound.opened, there]; rfl
          refine same ?_
          rw [step_collect there]
          show (hub.mail.store member.id.serial []).waiting serial = _
          rw [sound.named other member there, Mailboxes.waiting_store _ _ _ _ isOpen,
            if_neg (other_ne apart)]
  | settle other answers =>
      cases there : hub.members other with
      | none => exact ofMail (congrArg Hub.mail (step_settle_of_none there answers))
      | some member => exact ofMail (by rw [step_settle there]; rfl)
  | _ => exact ofMail rfl

theorem handling_step {hub : Hub H} {serial : Nat} {before after : Subscriber H} (sound : hub.Sound)
    (move : Move H) (lived : hub.members serial = some before)
    (lives : (hub.step move).members serial = some after) :
    Handling hub move serial before after := by
  have known := sound.lt_next lived
  cases own : move.isOf serial with
  | false =>
      obtain ⟨more, waiting⟩ := exists_waiting_of_apart sound known own
      refine .fed more waiting ?_
      rw [(members_step_of_apart own known).1, lived] at lives
      rw [Option.some.inj lives]
  | true =>
      have rebound := hub.undisturbed_of_rebinds move
      cases move with
      | bind | unbind | unbindAll => exact .undisturbed lived lives (rebound rfl)
      | drop other =>
          obtain rfl : other = serial := of_decide_eq_true own
          have gone : (hub.step (.drop other)).members other = none := members_seat_self _ _ _ _
          rw [gone] at lives
          cases lives
      | collect other =>
          obtain rfl : other = serial := of_decide_eq_true own
          have named := sound.named other before lived
          have isOpen : hub.mail.isOpen other = true := by rw [sound.opened, lived]; rfl
          have step := step_collect lived
          rw [step, members_seat_self] at lives
          refine .emptied ?_ ?_
          · refine (congrArg (fun hub : Hub H => hub.mail.waiting other) step).trans ?_
            show (hub.mail.store before.id.serial []).waiting other = []
            rw [named, Mailboxes.waiting_store _ _ _ _ isOpen, if_pos rfl]
          · rw [← Option.some.inj lives]
            show before.queue ++ hub.mail.waiting before.id.serial = _
            rw [named]
      | settle other answers =>
          obtain rfl : other = serial := of_decide_eq_true own
          have step := step_settle lived answers
          rw [step, members_seat_self] at lives
          refine .served ?_ ?_
          · show (hub.step (.settle other answers)).mail.waiting other = _
            rw [step]
            rfl
          · rw [← Option.some.inj lives]
            exact before.queue_settled answers
      | _ => cases own

/-! ### Runs -/

/-- A subscriber lives, or is still to come. -/
def Expected (hub : Hub H) (serial : Nat) : Prop :=
  (hub.members serial).isSome = true ∨ hub.next ≤ serial

theorem next_le_step (hub : Hub H) (move : Move H) : hub.next ≤ (hub.step move).next := by
  have rebound := hub.undisturbed_of_rebinds move
  have served := hub.still_or_served move
  cases move with
  | create name => exact Nat.le_succ hub.next
  | bind | unbind | unbindAll => exact Nat.le_of_eq (rebound rfl).next.symm
  | drop other =>
      exact Nat.le_of_eq (hub.undisturbed_rebind other Subscriber.calm_unbindAll).next.symm
  | collect | settle =>
      rcases served rfl with still | ⟨other, member, served, mail, _, _, _, seated⟩
      · exact Nat.le_of_eq (congrArg Hub.next still).symm
      · exact Nat.le_of_eq (congrArg Hub.next seated).symm
  | _ => exact Nat.le_refl hub.next

theorem Undisturbed.absent {before after : Hub H} (undisturbed : Undisturbed before after)
    {serial : Nat} (absent : before.members serial = none) : after.members serial = none := by
  have same := undisturbed.members serial
  rw [absent] at same
  exact Option.map_eq_none_iff.mp same

/-- Who begins to live has the next serial, and nothing waits for it. -/
theorem born {hub : Hub H} {serial : Nat} {after : Subscriber H} (move : Move H)
    (absent : hub.members serial = none)
    (lives : (hub.step move).members serial = some after) :
    serial = hub.next ∧ after.queue = [] ∧ (hub.step move).mail.waiting serial = [] := by
  have impossible {after' : Hub H} (same : (hub.step move).members serial = after'.members serial)
      (absentStill : after'.members serial = none) : False := by
    rw [same, absentStill] at lives
    cases lives
  have rebound := hub.undisturbed_of_rebinds move
  have served := hub.still_or_served move
  cases move with
  | create name =>
      by_cases here : serial = hub.next
      · subst here
        have new : (hub.step (.create name)).members hub.next = some { id := ⟨hub.next, name⟩ } :=
          members_seat_self _ _ _ _
        rw [new] at lives
        refine ⟨rfl, by rw [← Option.some.inj lives], ?_⟩
        show (hub.mail.openBox hub.next).waiting hub.next = []
        rw [Mailboxes.waiting_openBox, if_pos rfl]
      · exact (impossible
          (members_seat_of_ne { hub with next := hub.next + 1 } here _ _) absent).elim
  | bind | unbind | unbindAll => exact (impossible rfl ((rebound rfl).absent absent)).elim
  | drop other =>
      have undisturbed := hub.undisturbed_rebind other Subscriber.calm_unbindAll
      by_cases here : serial = other
      · subst here
        exact (impossible ((members_seat_self _ _ _ _).trans absent.symm) absent).elim
      · exact (impossible (members_seat_of_ne _ here _ _) (undisturbed.absent absent)).elim
  | collect | settle =>
      rcases served rfl with still | ⟨other, member, served, mail, there, _, _, seated⟩
      · exact (impossible (congrArg (fun hub : Hub H => hub.members serial) still) absent).elim
      · refine (impossible (congrArg (fun hub : Hub H => hub.members serial) seated) ?_).elim
        exact hub.members_seat_of_absent there absent _ _
  | _ => exact (Option.some_ne_none after (lives.symm.trans absent)).elim

theorem Sound.waiting_of_none {hub : Hub H} (sound : hub.Sound) {serial : Nat}
    (absent : hub.members serial = none) : hub.mail.waiting serial = [] := by
  have closed : hub.mail.isOpen serial = false := by rw [sound.opened, absent]; rfl
  unfold Mailboxes.isOpen at closed
  unfold Mailboxes.waiting
  rw [Option.isSome_eq_false_iff.mp closed |> Option.isNone_iff_eq_none.mp]
  rfl

/-- A move keeps the account of every subscriber that it does not drop. -/
theorem balanced_step {hub : Hub H} (sound : hub.Sound) (serial : Nat) (move : Move H)
    (expected : (hub.step move).Expected serial) :
    hub.Expected serial ∧
      Balanced (hub.privateQueue serial) ((Made.mk hub move).pushed serial)
        ((Made.mk hub move).popped serial) ((hub.step move).privateQueue serial) := by
  have soundLater := (Accounts.of_sound sound move).sound
  cases lives : (hub.step move).members serial with
  | some after =>
      cases lived : hub.members serial with
      | some before =>
          refine ⟨.inl (by rw [lived]; rfl), ?_⟩
          exact (handling_step sound move lived lives).balanced lived lives
      | none =>
          obtain ⟨isNext, queue, waiting⟩ := born move lived lives
          refine ⟨.inr (Nat.le_of_eq isNext.symm), ?_⟩
          unfold Balanced Made.pushed Made.after
          rw [Made.popped_of_none lived move, privateQueue_of_none lived,
            privateQueue_of_some lives, queue, waiting,
            List.drop_nil]
          rfl
  | none =>
      have unborn : hub.next ≤ serial := by
        rcases expected with present | unborn
        · rw [lives] at present
          cases present
        · exact Nat.le_trans (hub.next_le_step move) unborn
      have waiting : (Made.mk hub move).after.mail.waiting serial = [] :=
        soundLater.waiting_of_none lives
      refine ⟨.inr unborn, ?_⟩
      have absent := sound.unborn serial unborn
      unfold Balanced Made.pushed
      rw [Made.popped_of_none absent move, waiting, privateQueue_of_none absent,
        privateQueue_of_none lives, List.drop_nil]

theorem balanced_private_run {hub : Hub H} (sound : hub.Sound) (serial : Nat)
    (moves : List (Move H)) (expected : (hub.run moves).Expected serial) :
    hub.Expected serial ∧
      Balanced (hub.privateQueue serial)
        ((hub.past moves).flatMap fun made => made.pushed serial)
        ((hub.past moves).flatMap fun made => made.popped serial)
        ((hub.run moves).privateQueue serial) := by
  induction moves generalizing hub with
  | nil => exact ⟨expected, List.append_nil _⟩
  | cons move moves inductionHypothesis =>
      have soundLater := (Accounts.of_sound sound move).sound
      obtain ⟨expectedNow, balanced⟩ := inductionHypothesis soundLater expected
      obtain ⟨expectedBefore, now⟩ := balanced_step sound serial move expectedNow
      exact ⟨expectedBefore, now.trans balanced⟩

/-! ### Calls -/

/-- What a handler does when it is asked: moves that are not its own subscriber's, something that
handlers remember, and an answer. -/
structure Reply (H μ : Type) (serial : Nat) where
  moves : List (Move H)
  apart : ∀ move ∈ moves, move.isOf serial = false
  memory : μ
  isDone : Bool

/-- What has been seen of the handlers in a step. -/
structure Seen (H μ : Type) where
  memory : μ
  moves : List (Move H) := []
  asked : List (H × Event) := []

section Calling

variable {μ : Type} {serial : Nat} (reply : H → Event → Hub H → μ → Reply H μ serial)

/-- A handler asked, and what is seen of it. -/
def answering (handler : H) (event : Event) : StateM (Hub H × Seen H μ) Bool := fun state =>
  let given := reply handler event state.1 state.2.memory
  (given.isDone, state.1.run given.moves,
    { memory := given.memory
      moves := state.2.moves ++ given.moves
      asked := state.2.asked ++ [(handler, event)] })

/-- A step on a private queue, with what is seen of it. -/
structure Call (H : Type) where
  hub : Hub H
  progress : Progress
  /-- The moves of handlers. -/
  moves : List (Move H)
  /-- The handlers asked, and about what. -/
  asked : List (H × Event)

/-- The progress that a step reports. -/
def progress {σ : Type} (ask : H → Event → StateM (Hub H × σ) Bool) (serial : Nat) (hub : Hub H)
    (memory : σ) : Progress :=
  let ready := hub.step (.collect serial)
  match ready.members serial with
  | none => .idle
  | some member => ((member.process ask).run (ready, memory)).1.progress

def call (hub : Hub H) (memory : μ) : Call H :=
  let seen : Seen H μ := { memory := memory }
  let after := hub.process (answering reply) serial seen
  { hub := after.1
    progress := hub.progress (answering reply) serial seen
    moves := after.2.moves
    asked := after.2.asked }

/-- What handlers have done since a hub was ready for a step on a queue with this front. -/
structure Heard (serial : Nat) (ready : Hub H) (front : Option Event) (state : Hub H × Seen H μ) :
    Prop where
  hub : state.1 = ready.run state.2.moves
  apart : ∀ move ∈ state.2.moves, move.isOf serial = false
  about : ∀ asked ∈ state.2.asked, front = some asked.2

theorem Heard.nothing (ready : Hub H) (front : Option Event) (memory : μ) :
    Heard serial ready front (ready, ({ memory := memory } : Seen H μ)) :=
  ⟨rfl, fun _ impossible => (nomatch impossible), fun _ impossible => (nomatch impossible)⟩

theorem heard_visit {ready : Hub H} {event : Event} (handlers : List (HandlerNumber × H))
    (numbers : List HandlerNumber) {state : Hub H × Seen H μ}
    (heard : Heard serial ready (some event) state) :
    Heard serial ready (some event)
      ((Subscriber.visit (answering reply) handlers event numbers).run state).2 := by
  induction numbers generalizing state with
  | nil => exact heard
  | cons number numbers inductionHypothesis =>
      cases bound : handlers.lookup number with
      | none =>
          unfold Subscriber.visit
          rw [bound]
          exact inductionHypothesis heard
      | some handler =>
          rw [Subscriber.visit_cons_of_bound (answering reply) bound]
          apply inductionHypothesis
          let given := reply handler event state.1 state.2.memory
          refine ⟨?_, fun move member => ?_, fun asked member => ?_⟩
          · show state.1.run given.moves = ready.run (state.2.moves ++ given.moves)
            rw [run_append, ← heard.hub]
          · rcases List.mem_append.mp member with earlier | now
            · exact heard.apart move earlier
            · exact given.apart move now
          · rcases List.mem_append.mp member with earlier | now
            · exact heard.about asked earlier
            · rw [List.mem_singleton.mp now]

theorem heard_process (ready : Hub H) (member : Subscriber H) (memory : μ) :
    Heard serial ready member.queue.head?
      ((member.process (answering reply)).run (ready, { memory := memory })).2 := by
  unfold Subscriber.process
  cases front : member.queue with
  | nil => exact .nothing ready _ memory
  | cons event rest =>
      by_cases nobody : (member.owed event).isEmpty = true
      · simp only [nobody, if_true]
        exact .nothing ready _ memory
      · simp only [nobody]
        exact heard_visit reply member.handlers (member.owed event) (.nothing ready _ memory)

theorem past_append (hub : Hub H) (moves further : List (Move H)) :
    hub.past (moves ++ further) = hub.past moves ++ (hub.run moves).past further := by
  induction moves generalizing hub with
  | nil => rfl
  | cons move moves inductionHypothesis =>
      exact congrArg (Made.mk hub move :: ·) (inductionHypothesis (hub.step move))

/-- What is taken in a run of the moves of others: nothing. -/
theorem popped_of_apart {hub : Hub H} {moves : List (Move H)} (known : serial < hub.next)
    (apart : ∀ move ∈ moves, move.isOf serial = false) :
    ((hub.past moves).flatMap fun made => made.popped serial) = [] := by
  induction moves generalizing hub with
  | nil => rfl
  | cons move moves inductionHypothesis =>
      obtain ⟨members, knownStill⟩ := members_step_of_apart (apart move List.mem_cons_self) known
      have later := inductionHypothesis knownStill
        (fun other member => apart other (List.mem_cons_of_mem move member))
      have now : (Made.mk hub move).popped serial = [] := by
        cases lived : hub.members serial with
        | none => exact Made.popped_of_none lived move
        | some member =>
            rw [lived] at members
            rw [Made.popped_of_some lived members, gone_self]
      refine List.append_eq_nil_iff.mpr ⟨now, later⟩

theorem call_eq {hub : Hub H} {member : Subscriber H}
    (ready : (hub.step (.collect serial)).members serial = some member) (memory : μ) :
    let outcome :=
      (member.process (answering reply)).run (hub.step (.collect serial), { memory := memory })
    hub.call reply memory =
      { hub := outcome.2.1.seat serial (some outcome.1.subscriber) outcome.2.1.mail
        progress := outcome.1.progress
        moves := outcome.2.2.moves
        asked := outcome.2.2.asked } := by
  unfold call process progress
  simp only [ready]

/-- What the settling of a visit takes is the front, or nothing. -/
theorem gone_settled {subscriber : Subscriber H} {stepped : Subscriber.Stepped H}
    (reported : Subscriber.Reported subscriber stepped) :
    gone subscriber.queue stepped.subscriber.queue =
      if stepped.progress = .done ∨ stepped.progress = .undeliverable then
        subscriber.queue.head?.toList
      else [] := by
  rw [reported.queue]
  split
  · unfold gone
    cases subscriber.queue with
    | nil => rfl
    | cons event rest => simp
  · rw [gone_self]

/-- What is taken in a step is what is settled in the end. -/
theorem popped_of_steps {hub : Hub H} {member collected : Subscriber H} {moves : List (Move H)}
    (lives : hub.members serial = some member)
    (known : serial < (hub.step (.collect serial)).next)
    (apart : ∀ move ∈ moves, move.isOf serial = false)
    (waits : ((hub.step (.collect serial)).run moves).members serial = some collected)
    (answers : List Bool) :
    ((hub.past (.collect serial :: moves ++ [.settle serial answers])).flatMap
      fun made => made.popped serial) = gone collected.queue (collected.settled answers).queue := by
  have collects : (Made.mk hub (.collect serial)).popped serial = [] := by
    have after := (congrArg (fun hub : Hub H => hub.members serial) (step_collect lives)).trans
      (members_seat_self _ _ _ _)
    exact (Made.popped_of_some lives after).trans (gone_append member.queue _)
  have after : (((hub.step (.collect serial)).run moves).step (.settle serial answers)).members
      serial =
      some (collected.settled answers) := by
    rw [step_settle waits answers]
    exact members_seat_self _ _ _ _
  have settled := Made.popped_of_some waits after
  have others := popped_of_apart known apart
  show ((Made.mk hub (.collect serial) ::
    (hub.step (.collect serial)).past (moves ++ [.settle serial answers])).flatMap _) = _
  rw [past_append, List.flatMap_cons, List.flatMap_append, collects, others]
  show [] ++ ([] ++ ((Made.mk _ _).popped serial ++ [])) = _
  rw [settled, List.append_nil]
  rfl

/-- **A step is a run that takes at most the front.** Handlers are asked about nothing else, and
what is reported tells whether it was taken. -/
theorem call_of_some {hub : Hub H} {member : Subscriber H} (sound : hub.Sound)
    (lives : hub.members serial = some member) (memory : μ) :
    let called := hub.call reply memory
    let front := (hub.privateQueue serial).head?
    ∃ answers,
      let steps := .collect serial :: called.moves ++ [.settle serial answers]
      called.hub = hub.run steps ∧ (called.hub.members serial).isSome = true ∧
      (called.progress = .idle ↔ front = none) ∧
      ((hub.past steps).flatMap fun made => made.popped serial) =
        (if called.progress = .done ∨ called.progress = .undeliverable then front.toList else []) ∧
      ∀ asked ∈ called.asked, front = some asked.2 := by
  intro called front
  let ready := hub.step (.collect serial)
  let collected := (member.collect hub.mail).1
  have readyMember : ready.members serial = some collected := by
    rw [show ready = _ from step_collect lives]
    exact members_seat_self _ _ _ _
  have known : serial < ready.next := Nat.lt_of_lt_of_le (sound.lt_next lives) (hub.next_le_step _)
  have queue : collected.queue = hub.privateQueue serial := by
    rw [privateQueue_of_some lives, ← sound.named serial member lives]
    rfl
  let outcome := (collected.process (answering reply)).run (ready, { memory := memory })
  have heard : Heard serial ready collected.queue.head? outcome.2 :=
    heard_process reply ready collected memory
  have reported : Subscriber.Reported collected outcome.1 :=
    collected.reported_process (answering reply) (ready, { memory := memory })
  obtain ⟨answers, settles⟩ :=
    collected.exists_answers (answering reply) (ready, { memory := memory })
  have waits : (ready.run outcome.2.2.moves).members serial = some collected :=
    (members_run_of_apart heard.apart known).trans readyMember
  have called_eq : called = _ := call_eq reply readyMember memory
  rw [called_eq]
  refine ⟨answers, ?_, ?_, ?_, ?_, fun asked member => ?_⟩
  · show outcome.2.1.seat serial (some outcome.1.subscriber) outcome.2.1.mail =
      ready.run (outcome.2.2.moves ++ [.settle serial answers])
    rw [run_append, heard.hub, settles]
    exact (step_settle waits answers).symm
  · exact congrArg Option.isSome (members_seat_self _ _ _ _)
  · refine reported.idle.trans ?_
    rw [queue]
    exact List.head?_eq_none_iff.symm
  · refine (popped_of_steps lives known heard.apart waits answers).trans ?_
    rw [← settles]
    refine (gone_settled reported).trans ?_
    rw [queue]
  · show (hub.privateQueue serial).head? = _
    rw [← queue]
    exact heard.about asked member

end Calling

/-- A report tells whether the oldest event was taken. -/
theorem taken_iff {progress : Progress} {oldest : Option Event} {taken : List Event}
    (idle : progress = .idle ↔ oldest = none)
    (takes : taken =
      if progress = .done ∨ progress = .undeliverable then oldest.toList else []) :
    (progress = .idle ∨ progress = .pending ↔ taken = []) ∧
      (progress = .done ∨ progress = .undeliverable ↔
        ∃ event, oldest = some event ∧ taken = [event]) := by
  cases oldest with
  | none =>
      have nothing : progress = .idle := idle.mpr rfl
      simp [takes, nothing]
  | some event =>
      have busy : progress ≠ .idle := fun isIdle => (nomatch idle.mp isIdle)
      cases progress with
      | idle => exact absurd rfl busy
      | pending => simp [takes]
      | done => simp [takes]
      | undeliverable => simp [takes]

/-- **Private queues lose and invent nothing.** After every run what has been put into the mailbox
of a living subscriber is, in order, what has been taken from its queue, what is in the queue, and
what is in the mailbox still; so as many events wait as have come and not gone.

A step on the queue, whatever its handlers do meanwhile to everything but their own subscriber, is a
run. It is idle exactly if nothing waits. It takes the oldest event if it is done with it or nobody
is there for it, and nothing otherwise; about any other event no handler is asked. What comes in the
course of it waits behind what is left. -/
theorem conserves_private_queues (first : Nat) (moves : List (Move H)) (serial : Nat)
    (member : Subscriber H)
    (lives : ((new first : Hub H).run moves).members serial = some member) :
    let hub := (new first : Hub H).run moves
    let pushed := ((new first : Hub H).past moves).flatMap fun made => made.pushed serial
    let popped := ((new first : Hub H).past moves).flatMap fun made => made.popped serial
    pushed = popped ++ member.queue ++ hub.mail.waiting serial ∧
    (member.collect hub.mail).1.pending = pushed.length - popped.length ∧
    ∀ (μ : Type) (reply : H → Event → Hub H → μ → Reply H μ serial) (memory : μ),
      let called := hub.call reply memory
      let oldest := pushed[popped.length]?
      ∃ answers,
        let steps := .collect serial :: called.moves ++ [.settle serial answers]
        let pushedNow := (hub.past steps).flatMap fun made => made.pushed serial
        let poppedNow := (hub.past steps).flatMap fun made => made.popped serial
        called.hub = hub.run steps ∧
        (called.progress = .idle ↔ oldest = none) ∧
        (called.progress = .idle ∨ called.progress = .pending ↔ poppedNow = []) ∧
        (called.progress = .done ∨ called.progress = .undeliverable ↔
          ∃ event, oldest = some event ∧ poppedNow = [event]) ∧
        (∀ asked ∈ called.asked, oldest = some asked.2) ∧
        called.hub.privateQueue serial =
          (hub.privateQueue serial).drop poppedNow.length ++ pushedNow := by
  intro hub pushed popped
  obtain ⟨sound, _⟩ := balanced_run (fun hub => hub.bus.queue) (fun _ accounts => accounts.queue)
    (.new first) moves
  have present : hub.Expected serial := .inl (by rw [show hub.members serial = _ from lives]; rfl)
  obtain ⟨_, balanced⟩ := balanced_private_run (.new first) serial moves present
  have account : pushed = popped ++ hub.privateQueue serial := balanced
  have waiting : hub.privateQueue serial = member.queue ++ hub.mail.waiting serial :=
    privateQueue_of_some lives
  refine ⟨?_, ?_, fun μ reply memory => ?_⟩
  · rw [account, waiting, List.append_assoc]
  · show (member.collect hub.mail).1.queue.length = _
    rw [Subscriber.queue_collect, sound.named serial member lives, ← waiting, account,
      List.length_append, Nat.add_sub_cancel_left]
  · intro called oldest
    have front : oldest = (hub.privateQueue serial).head? := by
      show pushed[popped.length]? = _
      rw [account, List.getElem?_append_right (Nat.le_refl _), Nat.sub_self, List.head?_eq_getElem?]
    obtain ⟨answers, isRun, livesOn, idle, takes, about⟩ := call_of_some reply sound lives memory
    rw [← front] at idle takes about
    obtain ⟨kept, taken⟩ := taken_iff idle takes
    refine ⟨answers, isRun, idle, kept, taken, about, ?_⟩
    have stays : called.hub.Expected serial := .inl livesOn
    rw [show called.hub = _ from isRun] at stays ⊢
    obtain ⟨_, moved⟩ := balanced_private_run sound serial _ stays
    have fits : ((hub.past (.collect serial :: called.moves ++ [.settle serial answers])).flatMap
        fun made => made.popped serial).length ≤ (hub.privateQueue serial).length := by
      rw [takes, front]
      split
      · cases hub.privateQueue serial <;> simp
      · exact Nat.zero_le _
    rw [← List.drop_append_of_le_length fits, show _ ++ _ = _ from moved, List.drop_left]

/-- A handler that hooks and hands out another event while it deals with one leaves it to the next
step; a copy of both has come by then, and one has gone. -/
theorem conserves_private_queues_of_answer :
    let event : Event := { uid := ⟨7⟩ }
    let answer : Event := { uid := ⟨8⟩ }
    let moves : List (Move Nat) :=
      [.create "reader", .bind 0 .all 9, .hook event, .update, .collect 0]
    let hub := (new 0).run moves
    let reply : Nat → Event → Hub Nat → Unit → Reply Nat Unit 0 := fun _ _ _ memory =>
      { moves := [.hook answer, .update], apart := by decide, memory := memory, isDone := true }
    let called := hub.call reply ()
    called.progress = .done ∧ called.hub.privateQueue 0 = [answer] ∧
      ∃ answers, called.hub = hub.run (.collect 0 :: called.moves ++ [.settle 0 answers]) ∧
        ((hub.past (.collect 0 :: called.moves ++ [.settle 0 answers])).flatMap
          fun made => made.popped 0) = [event] := by
  intro event answer moves hub reply called
  have lives : hub.members 0 = some ((hub.members 0).get (by decide +kernel)) :=
    (Option.some_get _).symm
  obtain ⟨_, _, calls⟩ := conserves_private_queues 0 moves 0 _ lives
  obtain ⟨answers, isRun, _, _, taken, _⟩ := calls Unit reply ()
  have isDone : called.progress = .done := by decide +kernel
  obtain ⟨oldest, isOldest, popped⟩ := taken.mp (.inl isDone)
  have same : oldest = event :=
    Option.some.inj (isOldest.symm.trans (by decide +kernel))
  refine ⟨isDone, by decide +kernel, answers, isRun, popped.trans (by rw [same])⟩

end Hub

end EventTransport
