import EventTransport.Proofs.Bus.Bystanders
import EventTransport.Proofs.Bus.Pairs

/-!
Contract: subscribers of a global bus that do not notice each other.

Owns:
- `Hub.Watch.Untouched`, by which a subscriber has nothing to do with what is done;
- `Hub.Watch.Alike`, two hubs that look the same to one of their subscribers, kept by whatever
  others do on one of them and by one and the same deed on both;
- that of two runs that agree on what concerns a subscriber, the subscriber sees the same.

The serial of the subscriber may differ between the two, for others may have been created before.

Does not own: handlers that act on the bus, which are a way to interfere.
-/

namespace EventTransport

namespace Hub

variable {H μ : Type}

namespace Watch

/-- How often the subscriber is registered under a key. -/
def held (watch : Watch H μ) (key : Subscription) : Nat :=
  watch.mine.elim 0 (watch.hub.bus.registrations key)

theorem box_eq_nil {watch : Watch H μ} (sound : watch.hub.Sound) (gone : watch.self? = none) :
    watch.box = [] := by
  unfold self? at gone
  unfold box
  cases mine : watch.mine with
  | none => rfl
  | some serial =>
      rw [mine] at gone
      exact sound.waiting_of_none gone

theorem held_of_self? {watch : Watch H μ} {member : Subscriber H} (sound : watch.hub.Sound)
    (lives : watch.self? = some member) (key : Subscription) :
    watch.held key = watch.hub.bus.registrations key member.id.serial := by
  obtain ⟨serial, mine, there⟩ := self?_eq_some_iff.mp lives
  unfold held
  rw [mine, sound.named serial member there]
  rfl

/-- What holds of a hub at all times, and of the subscriber that is watched. -/
structure Proper (watch : Watch H μ) : Prop where
  sound : watch.hub.Sound
  kept : watch.hub.Kept
  fresh : watch.hub.Fresh
  known : ∀ serial, watch.mine = some serial → serial < watch.hub.next

/-- The subscriber has nothing to do with what is done. -/
structure Untouched (before after : Watch H μ) : Prop where
  mine : after.mine = before.mine
  self : after.self? = before.self?
  hooked : after.hub.bus.queue = before.hub.bus.queue
  shutDown : after.hub.bus.shutDown = before.hub.bus.shutDown
  held : ∀ key, after.held key = before.held key
  box : after.box = before.box
  memory : after.memory = before.memory
  received : after.received = before.received
  counts : after.counts = before.counts
  reports : after.reports = before.reports

theorem Untouched.refl (watch : Watch H μ) : Untouched watch watch :=
  ⟨rfl, rfl, rfl, rfl, fun _ => rfl, rfl, rfl, rfl, rfl, rfl⟩

theorem admits_eq_true_iff {watch : Watch H μ} {move : Move H} :
    watch.admits move = true ↔
      (∀ serial, watch.mine = some serial →
        move.isOf serial = false ∧ move.registers serial = false) ∧
      move.known watch.hub.next = true := by
  unfold admits
  cases watch.mine <;> simp

theorem untouched_aside {watch : Watch H μ} (proper : watch.Proper) (conduct : Conduct H μ)
    {move : Move H} (aside : move.isPublic = false) :
    Untouched watch (watch.step conduct (.aside move)) := by
  rw [step_aside]
  split
  · rename_i admitted
    obtain ⟨others, _⟩ := admits_eq_true_iff.mp admitted
    obtain ⟨hooked, shutDown⟩ := watch.hub.bus_of_aside aside
    have box : (watch.make move).box = watch.box := by
      unfold Watch.box
      show watch.mine.elim [] (watch.hub.step move).mail.waiting = _
      cases mine : watch.mine with
      | none => rfl
      | some serial =>
          exact waiting_of_aside proper.sound (proper.known serial mine)
            (others serial mine).1 aside
    refine ⟨rfl, ?_, hooked, shutDown, fun key => ?_, box, rfl, ?_, rfl, rfl⟩
    · unfold self?
      show watch.mine.bind (watch.hub.step move).members = _
      cases mine : watch.mine with
      | none => rfl
      | some serial =>
          exact (members_step_of_apart (others serial mine).1 (proper.known serial mine)).1
    · unfold Watch.held
      show watch.mine.elim 0 ((watch.hub.step move).bus.registrations key) = _
      cases mine : watch.mine with
      | none => rfl
      | some serial =>
          obtain ⟨apart, byTable⟩ := others serial mine
          exact registrations_of_apart proper.sound proper.kept apart byTable aside key
    · rw [received_make, box, List.drop_length, List.append_nil]
  · exact .refl watch

/-! ### What the subscriber does -/

theorem bus_perform {watch : Watch H μ} {serial : Nat} {member : Subscriber H}
    (sound : watch.hub.Sound) (lives : watch.hub.members serial = some member)
    (conduct : Conduct H μ) {act : Act H} (calls : act ≠ .process) :
    (watch.perform conduct member act).hub.bus = busBehind watch.hub.bus member act := by
  obtain rfl := sound.named serial member lives
  cases act with
  | bind | unbind | unbindAll | drop => exact congrArg Hub.bus (rebind_of_some lives _)
  | count =>
      show (watch.hub.step (.collect member.id.serial)).bus = watch.hub.bus
      rw [step_collect lives]
      rfl
  | process => exact absurd rfl calls
  | _ => rfl

/-- Whether nothing is in the mailbox after a deed. -/
def empties : Act H → Bool
  | .count => true
  | .drop => true
  | _ => false

theorem box_perform {watch : Watch H μ} {serial : Nat} {member : Subscriber H}
    (sound : watch.hub.Sound) (mine : watch.mine = some serial)
    (lives : watch.hub.members serial = some member) (conduct : Conduct H μ) {act : Act H}
    (calls : act ≠ .process) :
    (watch.perform conduct member act).box = if empties act then [] else watch.box := by
  obtain rfl := sound.named serial member lives
  have stays {move : Move H} (mail : (watch.hub.step move).mail = watch.hub.mail) :
      (watch.make move).box = watch.box := by
    unfold box make
    rw [mail]
  cases act with
  | bind key handler =>
      exact stays (watch.hub.undisturbed_of_rebinds (.bind _ key handler) rfl).mail
  | unbind key => exact stays (watch.hub.undisturbed_of_rebinds (.unbind _ key) rfl).mail
  | unbindAll => exact stays (watch.hub.undisturbed_of_rebinds (.unbindAll _) rfl).mail
  | subscribe | unsubscribe => exact stays rfl
  | count =>
      unfold box
      show watch.mine.elim [] (watch.hub.step (.collect member.id.serial)).mail.waiting = []
      rw [mine]
      exact (privateQueue_collect sound lives).2.2
  | process => exact absurd rfl calls
  | drop =>
      unfold box
      show watch.mine.elim [] (watch.hub.step (.drop member.id.serial)).mail.waiting = []
      rw [mine]
      exact (Accounts.of_sound sound (.drop member.id.serial)).sound.waiting_of_none
        (members_seat_self _ _ _ _)

/-- What is recorded of such a deed. -/
theorem record_perform (watch : Watch H μ) (conduct : Conduct H μ) (member : Subscriber H)
    {act : Act H} (calls : act ≠ .process) :
    let after := watch.perform conduct member act
    after.mine = watch.mine ∧ after.memory = watch.memory ∧ after.reports = watch.reports ∧
      after.received = watch.received ++ after.box.drop watch.box.length ∧
      after.counts = if act matches .count then
        watch.counts ++ [(member.collect watch.hub.mail).1.pending] else watch.counts := by
  cases act with
  | process => exact absurd rfl calls
  | _ => exact ⟨rfl, rfl, rfl, received_make .., rfl⟩

/-- A step on the queue with handlers that do not act. -/
theorem attend_quietly (answer : H → Event → μ → Bool × μ) {watch : Watch H μ} {serial : Nat}
    {member : Subscriber H} (sound : watch.hub.Sound)
    (lives : watch.hub.members serial = some member) :
    let worked := (member.collect watch.hub.mail).1.work answer watch.memory
    let ready := watch.hub.step (.collect serial)
    watch.attend { answer := answer } serial =
      { watch with
        hub := ready.seat serial (some worked.1.subscriber) ready.mail
        memory := worked.2.1
        reports := watch.reports ++ [⟨worked.1.progress, worked.2.2⟩] } := by
  intro worked ready
  obtain ⟨moves, does, attends⟩ := exists_attended { answer := answer } lives
  have none : moves = [] := by
    refine List.eq_nil_iff_forall_not_mem.mpr fun move made => ?_
    obtain ⟨_, _, _, _, acted⟩ := does move made
    cases acted
  have emptied : ready.mail.waiting serial = [] := (privateQueue_collect sound lives).2.2
  rw [none] at attends
  refine attends.trans ?_
  show Watch.mk _ _ _ (watch.received ++ ready.mail.waiting serial) _ _ = _
  rw [emptied, List.append_nil]
  rfl

/-! ### Two hubs -/

/-- Two hubs look the same to the subscriber. -/
structure Alike (left right : Watch H μ) : Prop where
  arrived : left.mine.isSome = right.mine.isSome
  hooked : left.hub.bus.queue = right.hub.bus.queue
  shutDown : left.hub.bus.shutDown = right.hub.bus.shutDown
  selves : Option.Rel (Subscriber.Paired left.hub.bus right.hub.bus) left.self? right.self?
  box : left.box = right.box
  memory : left.memory = right.memory
  received : left.received = right.received
  counts : left.counts = right.counts
  reports : left.reports = right.reports

namespace Alike

variable {left right : Watch H μ}

theorem untouched (alike : Alike left right) {leftAfter rightAfter : Watch H μ}
    (leftProper : left.Proper) (rightProper : right.Proper) (leftAfterSound : leftAfter.hub.Sound)
    (rightAfterSound : rightAfter.hub.Sound) (leftUntouched : Untouched left leftAfter)
    (rightUntouched : Untouched right rightAfter) : Alike leftAfter rightAfter where
  arrived := by rw [leftUntouched.mine, rightUntouched.mine, alike.arrived]
  hooked := by rw [leftUntouched.hooked, rightUntouched.hooked, alike.hooked]
  shutDown := by rw [leftUntouched.shutDown, rightUntouched.shutDown, alike.shutDown]
  selves := by
    obtain ⟨leftGone, rightGone⟩ | ⟨mine, yours, leftLives, rightLives, paired⟩ :=
      rel_cases alike.selves
    · rw [leftUntouched.self, rightUntouched.self, leftGone, rightGone]
      exact .none
    · have leftLater := leftUntouched.self.trans leftLives
      have rightLater := rightUntouched.self.trans rightLives
      rw [leftLater, rightLater]
      refine .some { paired with
        hooked := by rw [leftUntouched.hooked, rightUntouched.hooked, alike.hooked]
        shutDown := by rw [leftUntouched.shutDown, rightUntouched.shutDown, alike.shutDown]
        registered := fun key => ?_ }
      rw [← held_of_self? leftAfterSound leftLater, ← held_of_self? rightAfterSound rightLater,
        leftUntouched.held, rightUntouched.held, held_of_self? leftProper.sound leftLives,
        held_of_self? rightProper.sound rightLives]
      exact paired.registered key
  box := by rw [leftUntouched.box, rightUntouched.box, alike.box]
  memory := by rw [leftUntouched.memory, rightUntouched.memory, alike.memory]
  received := by rw [leftUntouched.received, rightUntouched.received, alike.received]
  counts := by rw [leftUntouched.counts, rightUntouched.counts, alike.counts]
  reports := by rw [leftUntouched.reports, rightUntouched.reports, alike.reports]

theorem paired_leaves {mine yours : Subscriber H} {leftBus rightBus : GlobalBus}
    (paired : Subscriber.Paired leftBus rightBus mine yours) {leftMail rightMail : Mailboxes}
    (waiting : leftMail.waiting mine.id.serial = rightMail.waiting yours.id.serial) (act : Act H) :
    let leftBehind := busBehind leftBus mine act
    let rightBehind := busBehind rightBus yours act
    leftBehind.queue = rightBehind.queue ∧ leftBehind.shutDown = rightBehind.shutDown ∧
      Option.Rel (Subscriber.Paired leftBehind rightBehind) (leaves leftBus leftMail mine act)
        (leaves rightBus rightMail yours act) := by
  intro leftBehind rightBehind
  have ofPaired {mine yours : Subscriber H}
      (later : Subscriber.Paired leftBehind rightBehind mine yours) :
      leftBehind.queue = rightBehind.queue ∧ leftBehind.shutDown = rightBehind.shutDown ∧
        Option.Rel (Subscriber.Paired leftBehind rightBehind) (some mine) (some yours) :=
    ⟨later.hooked, later.shutDown, .some later⟩
  cases act with
  | bind key handler => exact ofPaired (paired.bind key handler)
  | unbind key => exact ofPaired (paired.unbind key)
  | unbindAll => exact ofPaired paired.unbindAll
  | subscribe key => exact ofPaired (paired.subscribe key)
  | unsubscribe key => exact ofPaired (paired.unsubscribe key)
  | count => exact ofPaired (paired.collect waiting)
  | process => exact ofPaired paired
  | drop => exact ⟨paired.unbindAll.hooked, paired.unbindAll.shutDown, .none⟩

theorem waiting (alike : Alike left right) {leftSerial rightSerial : Nat}
    (leftMine : left.mine = some leftSerial) (rightMine : right.mine = some rightSerial) :
    left.hub.mail.waiting leftSerial = right.hub.mail.waiting rightSerial := by
  have same := alike.box
  unfold Watch.box at same
  rw [leftMine, rightMine] at same
  exact same

/-- The same deed of the subscriber, on both hubs. -/
theorem perform (alike : Alike left right) (leftSound : left.hub.Sound)
    (rightSound : right.hub.Sound)
    {mine yours : Subscriber H} (leftLives : left.self? = some mine)
    (rightLives : right.self? = some yours)
    (paired : Subscriber.Paired left.hub.bus right.hub.bus mine yours) (conduct : Conduct H μ)
    {act : Act H} (calls : act ≠ .process) :
    Alike (left.perform conduct mine act) (right.perform conduct yours act) := by
  obtain ⟨leftSerial, leftMine, leftThere⟩ := self?_eq_some_iff.mp leftLives
  obtain ⟨rightSerial, rightMine, rightThere⟩ := self?_eq_some_iff.mp rightLives
  have leftNamed := leftSound.named leftSerial mine leftThere
  have rightNamed := rightSound.named rightSerial yours rightThere
  have waiting : left.hub.mail.waiting mine.id.serial = right.hub.mail.waiting yours.id.serial := by
    rw [leftNamed, rightNamed]
    exact alike.waiting leftMine rightMine
  have leftBus := bus_perform leftSound leftThere conduct calls
  have rightBus := bus_perform rightSound rightThere conduct calls
  obtain ⟨hooked, shutDown, selves⟩ := paired_leaves paired waiting act
  have box : (left.perform conduct mine act).box = (right.perform conduct yours act).box := by
    rw [box_perform leftSound leftMine leftThere conduct calls,
      box_perform rightSound rightMine rightThere conduct calls, alike.box]
  obtain ⟨leftKept, leftMemory, leftReports, leftReceived, leftCounts⟩ :=
    left.record_perform conduct mine calls
  obtain ⟨rightKept, rightMemory, rightReports, rightReceived, rightCounts⟩ :=
    right.record_perform conduct yours calls
  refine
    { arrived := by rw [leftKept, rightKept, alike.arrived]
      hooked := by rw [leftBus, rightBus, hooked]
      shutDown := by rw [leftBus, rightBus, shutDown]
      selves := ?_
      box := box
      memory := by rw [leftMemory, rightMemory, alike.memory]
      received := by rw [leftReceived, rightReceived, box, alike.received, alike.box]
      counts := ?_
      reports := by rw [leftReports, rightReports, alike.reports] }
  · rw [self?_of_mine (leftKept.trans leftMine), self?_of_mine (rightKept.trans rightMine),
      members_perform leftSound leftThere conduct calls,
      members_perform rightSound rightThere conduct calls, leftBus, rightBus]
    exact selves
  · have counted : (mine.collect left.hub.mail).1.pending =
        (yours.collect right.hub.mail).1.pending :=
      congrArg List.length (paired.collect waiting).queue
    rw [leftCounts, rightCounts, alike.counts, counted]

/-- The same step on both queues. -/
theorem attend (alike : Alike left right) (leftSound : left.hub.Sound)
    (rightSound : right.hub.Sound) {leftSerial rightSerial : Nat}
    (leftMine : left.mine = some leftSerial) (rightMine : right.mine = some rightSerial)
    {mine yours : Subscriber H} (leftLives : left.hub.members leftSerial = some mine)
    (rightLives : right.hub.members rightSerial = some yours)
    (paired : Subscriber.Paired left.hub.bus right.hub.bus mine yours)
    (answer : H → Event → μ → Bool × μ) :
    Alike (left.attend { answer := answer } leftSerial)
      (right.attend { answer := answer } rightSerial) := by
  have waiting := alike.waiting leftMine rightMine
  rw [← leftSound.named leftSerial mine leftLives, ← rightSound.named rightSerial yours rightLives]
    at waiting
  obtain ⟨_, _, leftEmptied⟩ := privateQueue_collect leftSound leftLives
  obtain ⟨_, _, rightEmptied⟩ := privateQueue_collect rightSound rightLives
  obtain ⟨states, progress, worked⟩ := (paired.collect waiting).process
    (Subscriber.remembering answer) (right.memory, [])
  have leftBus : (left.hub.step (.collect leftSerial)).bus = left.hub.bus := by
    rw [step_collect leftLives]
    rfl
  have rightBus : (right.hub.step (.collect rightSerial)).bus = right.hub.bus := by
    rw [step_collect rightLives]
    rfl
  rw [attend_quietly answer leftSound leftLives, attend_quietly answer rightSound rightLives,
    alike.memory]
  unfold Subscriber.work
  refine
    { arrived := alike.arrived
      hooked := ?_
      shutDown := ?_
      selves := ?_
      box := ?_
      memory := congrArg Prod.fst states
      received := alike.received
      counts := alike.counts
      reports := ?_ }
  · show (left.hub.step _).bus.queue = (right.hub.step _).bus.queue
    rw [leftBus, rightBus, alike.hooked]
  · show (left.hub.step _).bus.shutDown = (right.hub.step _).bus.shutDown
    rw [leftBus, rightBus, alike.shutDown]
  · show Option.Rel (Subscriber.Paired (left.hub.step _).bus (right.hub.step _).bus)
      (left.mine.bind _) (right.mine.bind _)
    rw [leftBus, rightBus, leftMine, rightMine]
    simp only [Option.bind_some, members_seat_self]
    exact .some worked
  · unfold Watch.box
    rw [leftMine, rightMine]
    show (left.hub.step _).mail.waiting leftSerial = (right.hub.step _).mail.waiting rightSerial
    rw [leftEmptied, rightEmptied]
  · rw [alike.reports, states, progress]

/-- The creation of the subscriber, after whatever others. -/
theorem create (alike : Alike left right) (leftFresh : left.hub.Fresh)
    (rightFresh : right.hub.Fresh)
    (conduct : Conduct H μ) (name : String) :
    Alike (left.step conduct (.create name)) (right.step conduct (.create name)) := by
  rw [step_create, step_create, ← alike.arrived]
  split
  · exact alike
  · rename_i absent
    have leftMine : left.mine = none := by simpa using absent
    have rightMine : right.mine = none := by
      have arrived := alike.arrived
      rw [leftMine] at arrived
      exact Option.isNone_iff_eq_none.mp (by simpa using arrived.symm)
    have box (hub : Hub H) : (hub.step (.create name)).mail.waiting hub.next = [] := by
      show (hub.mail.openBox hub.next).waiting hub.next = []
      rw [Mailboxes.waiting_openBox, if_pos rfl]
    refine
      { alike with
        arrived := rfl
        selves := ?_
        box := (box left.hub).trans (box right.hub).symm
        received := ?_ }
    · show Option.Rel (Subscriber.Paired left.hub.bus right.hub.bus)
        ((left.hub.step (.create name)).members left.hub.next)
        ((right.hub.step (.create name)).members right.hub.next)
      unfold Hub.step
      rw [members_seat_self, members_seat_self]
      refine .some ⟨⟨rfl, rfl, rfl⟩, rfl, rfl, alike.hooked, alike.shutDown, fun key => ?_⟩
      exact (leftFresh _ (Nat.le_refl _) key).trans (rightFresh _ (Nat.le_refl _) key).symm
    · show left.received ++ left.mine.elim [] _ = right.received ++ right.mine.elim [] _
      rw [leftMine, rightMine, alike.received]
      rfl

/-- A call of the bus that leaves all mailboxes alone. -/
theorem onBus (alike : Alike left right) {move : Move H} {leftBus rightBus : GlobalBus}
    (leftStep : left.hub.step move = { left.hub with bus := leftBus })
    (rightStep : right.hub.step move = { right.hub with bus := rightBus })
    (hooked : leftBus.queue = rightBus.queue) (shutDown : leftBus.shutDown = rightBus.shutDown)
    (registered : ∀ key mine yours,
      left.hub.bus.registrations key mine = right.hub.bus.registrations key yours →
      leftBus.registrations key mine = rightBus.registrations key yours) :
    Alike (left.make move) (right.make move) := by
  have leftBox : (left.make move).box = left.box := by
    unfold Watch.box make
    rw [leftStep]
  have rightBox : (right.make move).box = right.box := by
    unfold Watch.box make
    rw [rightStep]
  refine
    { arrived := alike.arrived
      hooked := ?_
      shutDown := ?_
      selves := ?_
      box := by rw [leftBox, rightBox, alike.box]
      memory := alike.memory
      received := by rw [received_make, received_make, leftBox, rightBox, alike.received, alike.box]
      counts := alike.counts
      reports := alike.reports }
  · show (left.hub.step move).bus.queue = (right.hub.step move).bus.queue
    rw [leftStep, rightStep, hooked]
  · show (left.hub.step move).bus.shutDown = (right.hub.step move).bus.shutDown
    rw [leftStep, rightStep, shutDown]
  · show Option.Rel (Subscriber.Paired (left.hub.step move).bus (right.hub.step move).bus)
      (left.mine.bind (left.hub.step move).members) (right.mine.bind (right.hub.step move).members)
    rw [leftStep, rightStep]
    show Option.Rel (Subscriber.Paired leftBus rightBus) left.self? right.self?
    obtain ⟨leftGone, rightGone⟩ | ⟨mine, yours, leftLives, rightLives, paired⟩ :=
      rel_cases alike.selves
    · rw [leftGone, rightGone]
      exact .none
    · rw [leftLives, rightLives]
      exact .some { paired with
        hooked := hooked
        shutDown := shutDown
        registered := fun key => registered key _ _ (paired.registered key) }

/-- One event handed out on both hubs. -/
theorem handsOut (alike : Alike left right) (leftSound : left.hub.Sound)
    (rightSound : right.hub.Sound) {event : Event} {rest : List Event}
    (live : right.hub.bus.shutDown = false) (queue : right.hub.bus.queue = event :: rest) :
    Alike (left.make .update) (right.make .update) := by
  have leftHands := GlobalBus.handsOut_update (alike.shutDown.trans live) (alike.hooked.trans queue)
    left.hub.mail
  have rightHands := GlobalBus.handsOut_update live queue right.hub.mail
  have hooked : (left.hub.step .update).bus.queue = (right.hub.step .update).bus.queue :=
    leftHands.queue.trans rightHands.queue.symm
  have shutDown : (left.hub.step .update).bus.shutDown = (right.hub.step .update).bus.shutDown :=
    leftHands.shutDown.trans rightHands.shutDown.symm
  have followed (box : (left.make .update).box = (right.make .update).box)
      (selves : Option.Rel (Subscriber.Paired (left.hub.step .update).bus
        (right.hub.step .update).bus)
        left.self? right.self?) : Alike (left.make .update) (right.make .update) :=
    { arrived := alike.arrived
      hooked := hooked
      shutDown := shutDown
      selves := selves
      box := box
      memory := alike.memory
      received := by rw [received_make, received_make, box, alike.received, alike.box]
      counts := alike.counts
      reports := alike.reports }
  obtain ⟨leftGone, rightGone⟩ | ⟨mine, yours, leftLives, rightLives, paired⟩ :=
    rel_cases alike.selves
  · refine followed ?_ ?_
    · have leftBox : (left.make .update).box = [] :=
        box_eq_nil (Accounts.of_sound leftSound .update).sound leftGone
      have rightBox : (right.make .update).box = [] :=
        box_eq_nil (Accounts.of_sound rightSound .update).sound rightGone
      rw [leftBox, rightBox]
    · rw [leftGone, rightGone]
      exact .none
  · obtain ⟨leftSerial, leftMine, leftThere⟩ := self?_eq_some_iff.mp leftLives
    obtain ⟨rightSerial, rightMine, rightThere⟩ := self?_eq_some_iff.mp rightLives
    have leftOpen : left.hub.mail.isOpen leftSerial = true := by
      rw [leftSound.opened, leftThere]
      rfl
    have rightOpen : right.hub.mail.isOpen rightSerial = true := by
      rw [rightSound.opened, rightThere]
      rfl
    have registered := paired.registered
    rw [leftSound.named leftSerial mine leftThere,
      rightSound.named rightSerial yours rightThere] at registered
    refine followed ?_ ?_
    · show left.mine.elim [] (left.hub.step .update).mail.waiting =
        right.mine.elim [] (right.hub.step .update).mail.waiting
      rw [leftMine, rightMine]
      show (left.hub.bus.update left.hub.mail).mail.waiting leftSerial =
        (right.hub.bus.update right.hub.mail).mail.waiting rightSerial
      rw [leftHands.waiting, rightHands.waiting, if_pos leftOpen, if_pos rightOpen, registered,
        registered, alike.waiting leftMine rightMine]
    · rw [leftLives, rightLives]
      refine .some
        { paired with hooked := hooked, shutDown := shutDown, registered := fun key => ?_ }
      show (left.hub.bus.update left.hub.mail).bus.registrations key mine.id.serial =
        (right.hub.bus.update right.hub.mail).bus.registrations key yours.id.serial
      rw [leftSound.named leftSerial mine leftThere, rightSound.named rightSerial yours rightThere,
        (left.hub.bus.registrations_update left.hub.mail key leftSerial).1 leftOpen,
        (right.hub.bus.registrations_update right.hub.mail key rightSerial).1 rightOpen]
      exact registered key

theorem update (alike : Alike left right) (leftSound : left.hub.Sound)
    (rightSound : right.hub.Sound) : Alike (left.make .update) (right.make .update) := by
  cases queue : right.hub.bus.queue with
  | nil =>
      have idle {hub : Hub H} (empty : hub.bus.queue = []) :
          hub.step .update = { hub with bus := hub.bus } := by
        obtain ⟨bus, mail, _⟩ := GlobalBus.update_of_queue_eq_nil empty hub.mail
        show { hub with
          bus := (hub.bus.update hub.mail).bus
          mail := (hub.bus.update hub.mail).mail } = hub
        rw [bus, mail]
      exact alike.onBus (idle (alike.hooked.trans queue)) (idle queue) alike.hooked alike.shutDown
        fun _ _ _ same => same
  | cons event rest =>
      refine alike.handsOut leftSound rightSound ?_ queue
      cases shutDown : right.hub.bus.shutDown with
      | false => rfl
      | true =>
          rw [rightSound.emptied shutDown] at queue
          cases queue

/-- One and the same call of the bus, on both hubs. -/
theorem publicly (alike : Alike left right) (leftProper : left.Proper) (rightProper : right.Proper)
    {move : Move H} (isPublic : move.isPublic = true) :
    Alike (left.make move) (right.make move) := by
  have leftKept := leftProper.kept
  have rightKept := rightProper.kept
  cases live : right.hub.bus.shutDown with
  | true =>
      have leftOver := leftKept.ended (alike.shutDown.trans live)
      have rightOver := rightKept.ended live
      have still {hub : Hub H} (isOver : hub.bus = .spent) :
          hub.step move = { hub with bus := .spent } := by
        cases move with
        | hook | update | clear | shutdown =>
            simp only [Hub.step, isOver]
            rfl
        | _ => cases isPublic
      exact alike.onBus (still leftOver) (still rightOver) rfl rfl fun _ _ _ _ => rfl
  | false =>
      have leftLive := alike.shutDown.trans live
      cases move with
      | hook event =>
          have hooks {hub : Hub H} (live : hub.bus.shutDown = false) : hub.step (.hook event) =
              { hub with bus := { hub.bus with queue := hub.bus.queue ++ [event] } } := by
            simp [Hub.step, GlobalBus.hook, GlobalBus.guarded, live]
          exact alike.onBus (hooks leftLive) (hooks live)
            (congrArg (fun queue => queue ++ [event]) alike.hooked) alike.shutDown
            fun _ _ _ same => same
      | update => exact alike.update leftProper.sound rightProper.sound
      | clear =>
          have clears {hub : Hub H} (live : hub.bus.shutDown = false) : hub.step .clear =
              { hub with bus := { hub.bus with queue := [] } } := by
            simp [Hub.step, GlobalBus.clear, GlobalBus.guarded, live]
          exact alike.onBus (clears leftLive) (clears live) rfl alike.shutDown fun _ _ _ same =>
            same
      | shutdown =>
          have shuts {hub : Hub H} (live : hub.bus.shutDown = false) :
              hub.step .shutdown = { hub with bus := .spent } := by
            simp [Hub.step, GlobalBus.shutdown_eq_spent live]
          exact alike.onBus (shuts leftLive) (shuts live) rfl rfl fun _ _ _ _ => rfl
      | _ => cases isPublic

end Alike

/-! ### Runs -/

namespace Proper

variable {watch : Watch H μ}

theorem known_step (proper : watch.Proper) (conduct : Conduct H μ) (deed : Deed H) :
    ∀ serial, (watch.step conduct deed).mine = some serial →
      serial < (watch.step conduct deed).hub.next := by
  intro serial mine
  obtain ⟨moves, isRun⟩ := exists_run_of_deed conduct proper.sound deed
  cases arrived : watch.mine with
  | some earlier =>
      rw [mine_step arrived conduct deed] at mine
      rw [← Option.some.inj mine, isRun]
      exact Nat.lt_of_lt_of_le (proper.known earlier arrived) (watch.hub.next_le_run moves)
  | none =>
      have absent : watch.self? = none := by
        unfold self?
        rw [arrived]
        rfl
      cases deed with
      | create name =>
          rw [step_create, arrived] at mine ⊢
          obtain rfl : watch.hub.next = serial := Option.some.inj mine
          exact Nat.lt_succ_self _
      | own act =>
          rw [step_own_of_none absent, arrived] at mine
          cases mine
      | aside move =>
          rw [step_aside] at mine
          split at mine <;> exact absurd (arrived.symm.trans mine) nofun

theorem fresh_perform (proper : watch.Proper) (answer : H → Event → μ → Bool × μ)
    {member : Subscriber H} (lives : watch.self? = some member) (act : Act H) :
    (watch.perform { answer := answer } member act).hub.Fresh := by
  obtain ⟨serial, _, there⟩ := self?_eq_some_iff.mp lives
  obtain rfl := proper.sound.named serial member there
  have stays (move : Move H) (known : move.known watch.hub.next = true) :
      (watch.hub.step move).Fresh := proper.fresh.step proper.sound proper.kept known
  have created : member.id.serial < watch.hub.next := proper.sound.lt_next there
  cases act with
  | subscribe key => exact stays (.subscribe key member.id) (decide_eq_true created)
  | unsubscribe key => exact stays (.unsubscribe key member.id) (decide_eq_true created)
  | process =>
      show (watch.attend { answer := answer } member.id.serial).hub.Fresh
      rw [attend_quietly answer proper.sound there, step_collect there]
      exact proper.fresh
  | count => exact stays (.collect member.id.serial) rfl
  | _ => exact stays _ rfl

theorem fresh_step (proper : watch.Proper) (answer : H → Event → μ → Bool × μ) (deed : Deed H) :
    (watch.step { answer := answer } deed).hub.Fresh := by
  have fresh := proper.fresh
  cases deed with
  | create name =>
      rw [step_create]
      split
      · exact fresh
      · exact fresh.step proper.sound proper.kept rfl
  | own act =>
      cases lives : watch.self? with
      | none =>
          rw [step_own_of_none lives]
          exact fresh
      | some member =>
          rw [step_own lives]
          exact proper.fresh_perform answer lives act
  | aside move =>
      rw [step_aside]
      split
      · rename_i admitted
        exact fresh.step proper.sound proper.kept (admits_eq_true_iff.mp admitted).2
      · exact fresh

theorem step (proper : watch.Proper) (answer : H → Event → μ → Bool × μ) (deed : Deed H) :
    (watch.step { answer := answer } deed).Proper := by
  obtain ⟨moves, isRun⟩ := exists_run_of_deed { answer := answer } proper.sound deed
  refine ⟨?_, ?_, proper.fresh_step answer deed, proper.known_step { answer := answer } deed⟩
  · rw [isRun]
    exact sound_run proper.sound moves
  · rw [isRun]
    exact proper.kept.run moves

end Proper

/-- Both looked upon by the same subscriber. -/
structure Matched (left right : Watch H μ) : Prop where
  leftProper : left.Proper
  rightProper : right.Proper
  alike : Alike left right

namespace Matched

variable {left right : Watch H μ}

/-- What does not concern the subscriber, on either hub. -/
theorem aside (matched : Matched left right) (answer : H → Event → μ → Bool × μ) {move : Move H}
    (others : move.isPublic = false) :
    Matched (left.step { answer := answer } (.aside move)) right ∧
      Matched left (right.step { answer := answer } (.aside move)) := by
  have leftLater := matched.leftProper.step answer (.aside move)
  have rightLater := matched.rightProper.step answer (.aside move)
  constructor
  · exact ⟨leftLater, matched.rightProper, matched.alike.untouched matched.leftProper
      matched.rightProper leftLater.sound matched.rightProper.sound
      (untouched_aside matched.leftProper _ others) (.refl right)⟩
  · exact ⟨matched.leftProper, rightLater, matched.alike.untouched matched.leftProper
      matched.rightProper matched.leftProper.sound rightLater.sound (.refl left)
      (untouched_aside matched.rightProper _ others)⟩

theorem own (matched : Matched left right) (answer : H → Event → μ → Bool × μ) (act : Act H) :
    Alike (left.step { answer := answer } (.own act))
      (right.step { answer := answer } (.own act)) := by
  have leftSound := matched.leftProper.sound
  have rightSound := matched.rightProper.sound
  obtain ⟨leftGone, rightGone⟩ | ⟨mine, yours, leftLives, rightLives, paired⟩ :=
    rel_cases matched.alike.selves
  · rw [step_own_of_none leftGone, step_own_of_none rightGone]
    exact matched.alike
  · rw [step_own leftLives, step_own rightLives]
    by_cases calls : act = .process
    · subst calls
      obtain ⟨leftSerial, leftMine, leftThere⟩ := self?_eq_some_iff.mp leftLives
      obtain ⟨rightSerial, rightMine, rightThere⟩ := self?_eq_some_iff.mp rightLives
      obtain rfl := leftSound.named leftSerial mine leftThere
      obtain rfl := rightSound.named rightSerial yours rightThere
      exact matched.alike.attend leftSound rightSound leftMine rightMine leftThere rightThere paired
        answer
    · exact matched.alike.perform leftSound rightSound leftLives rightLives paired _ calls

end Matched

end Watch

/-- Whether the subscriber that is watched may notice a deed. -/
def Deed.concerns : Deed H → Bool
  | create _ => true
  | own _ => true
  | aside move => move.isPublic

namespace Watch

namespace Matched

variable {left right : Watch H μ}

theorem concerned (matched : Matched left right) (answer : H → Event → μ → Bool × μ) {deed : Deed H}
    (concerns : deed.concerns = true) :
    Matched (left.step { answer := answer } deed) (right.step { answer := answer } deed) := by
  refine ⟨matched.leftProper.step answer deed, matched.rightProper.step answer deed, ?_⟩
  cases deed with
  | create name =>
      exact matched.alike.create matched.leftProper.fresh matched.rightProper.fresh _ name
  | own act => exact matched.own answer act
  | aside move =>
      have isPublic : move.isPublic = true := concerns
      have admitted (watch : Watch H μ) : watch.admits move = true := by
        refine admits_eq_true_iff.mpr ?_
        cases move with
        | hook | update | clear | shutdown => exact ⟨fun _ _ => ⟨rfl, rfl⟩, rfl⟩
        | _ => cases isPublic
      rw [step_aside, step_aside, if_pos (admitted left), if_pos (admitted right)]
      exact matched.alike.publicly matched.leftProper matched.rightProper isPublic

end Matched

/-- A new bus, and a subscriber to come. -/
def start (first : Nat) (memory : μ) : Watch H μ :=
  { hub := .new first, mine := none, memory := memory }

theorem Proper.start (first : Nat) (memory : μ) : (start first memory : Watch H μ).Proper :=
  ⟨.new first, .new first, fun _ _ _ => rfl, fun _ impossible => (nomatch impossible)⟩

/-- **Subscribers keep apart.** Of two runs that agree on what is done to the bus itself and on the
deeds of one subscriber, whatever others do besides, whoever they are called and however often they
are registered, the subscriber gets the same events; each step on its queue reports the same, with
the same handlers asked about the same events in the same order; and as many events wait whenever it
counts them. Handlers do not act on the bus, and answer by the event and by what they remember. -/
theorem keeps_apart (answer : H → Event → μ → Bool × μ) (memory : μ) (first other : Nat)
    (deeds others : List (Deed H))
    (same : deeds.filter Deed.concerns = others.filter Deed.concerns) :
    let left := (start first memory).run { answer := answer } deeds
    let right := (start other memory).run { answer := answer } others
    left.received = right.received ∧ left.reports = right.reports ∧ left.counts = right.counts ∧
      left.memory = right.memory := by
  intro left right
  have begun : Matched (start first memory : Watch H μ) (start other memory) :=
    { leftProper := .start first memory
      rightProper := .start other memory
      alike := ⟨rfl, rfl, rfl, .none, rfl, rfl, rfl, rfl, rfl⟩ }
  have matched : Matched left right := by
    refine related_foldl (fun _ _ _ concerns matched =>
      matched.concerned answer concerns) ?_ ?_ same
      begun
    · intro left right deed unconcerned matched
      cases deed with
      | aside move => exact (matched.aside answer unconcerned).1
      | _ => cases unconcerned
    · intro left right deed unconcerned matched
      cases deed with
      | aside move => exact (matched.aside answer unconcerned).2
      | _ => cases unconcerned
  exact ⟨matched.alike.received, matched.alike.reports, matched.alike.counts, matched.alike.memory⟩

/-- Another subscriber of the same name, registered before and dropped in between,
changes nothing. -/
theorem keeps_apart_of_namesake :
    let event (kind : UInt8) : Event := { uid := ⟨kind⟩ }
    let own : Subscription := .uid ⟨7⟩
    let answer : Nat → Event → Nat → Bool × Nat := fun _ _ turns => (turns % 2 == 1, turns + 1)
    let deeds : List (Deed Nat) :=
      [.aside (.create "reader"), .aside (.bind 0 own 4), .create "reader", .own (.bind own 9),
        .aside (.subscribe own ⟨0, "reader"⟩), .own (.subscribe own), .aside (.hook (event 7)),
        .aside .update, .own .process, .aside (.drop 0), .own .process, .aside (.hook (event 8)),
        .aside .update, .own .count]
    let watch := (start 0 0).run { answer := answer } deeds
    watch.received = [event 7, event 7] ∧ watch.counts = [1] ∧
      watch.reports = [⟨.pending, [(9, event 7)]⟩, ⟨.done, [(9, event 7)]⟩] := by
  intro event own answer deeds watch
  let alone : List (Deed Nat) :=
    [.create "reader", .own (.bind own 9), .own (.subscribe own), .aside (.hook (event 7)),
      .aside .update, .own .process, .own .process, .aside (.hook (event 8)), .aside .update,
      .own .count]
  obtain ⟨received, reports, counts, _⟩ := keeps_apart answer 0 0 3 deeds alone rfl
  exact ⟨received.trans (by decide +kernel), counts.trans (by decide +kernel),
    reports.trans (by decide +kernel)⟩

end Watch

end Hub

end EventTransport
