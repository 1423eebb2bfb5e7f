import EventTransport.Proofs.Bus.HandingOut
import EventTransport.Proofs.Scenario.Enactment

/-!
Contract: scripted handlers that are called by local buses.

Owns:
- `Scenario.Calls`, handlers called one after the other as a local bus calls them;
- `Scenario.enacts_call`, that a handler does to a bus what moves do, however deep it calls others;
- that a dispatch by a scenario, or an event handed out at once, is a run of moves with the calls in
  the log, and gets the answer of the bus;
- that events are handed out in order, each to the handlers bound then.

Does not own: what runs of moves are like.
-/

namespace EventTransport

namespace Scenario

variable {place : BusPlace}

/-- Handlers called one after the other. -/
structure Calls (place : BusPlace) (callAll : List Actor → Event → Run Unit) : Prop where
  enacts : ∀ actors event, Enacts place [] (callAll actors event)
  serves : ∀ actors event world bus, world.localBusAt? place = some bus →
    ∃ moves told calls changed,
      ((callAll actors event).run.run world).2.localBusAt? place = some changed ∧
      LocalBus.Serves moves told calls event actors bus changed
        ((callAll actors event).run.run world).1.isOk ∧
      (isReached ((callAll actors event).run.run world).1 →
        Noted world ((callAll actors event).run.run world).2 calls)

/-- It is enough to know of each that its call stands in the log before what it does. -/
theorem Calls.of_enacts {callOne : Actor → Event → Run Bool}
    (enacts : ∀ actor event, Enacts place [(actor, event)] (callOne actor event)) :
    Calls place fun actors event => actors.forM fun next => discard (callOne next event) where
  enacts := by
    intro actors event
    induction actors with
    | nil => exact .pure ()
    | cons actor actors inductionHypothesis =>
      exact (enacts actor event).discard.fewer.bind fun _ => inductionHypothesis
  serves := by
    intro actors event
    induction actors with
    | nil =>
      exact fun world bus found =>
        ⟨[], [], [], bus, found, .nil event bus, fun _ => .of_same rfl rfl⟩
    | cons actor actors inductionHypothesis =>
      intro world bus found
      obtain ⟨moves, told, calls, changed, isThere, made, noted⟩ :=
        (enacts actor event).discard world bus found
      have split : ((actor :: actors).forM fun next => discard (callOne next event) : Run Unit) =
          discard (callOne actor event) >>= fun _ =>
            actors.forM fun next => discard (callOne next event) := rfl
      rw [split]
      rcases ran : (discard (callOne actor event) : Run Unit).run.run world with ⟨result, after⟩
      rw [ran] at isThere noted
      cases result with
      | ok =>
        obtain ⟨others, more, further, final, isThereAfter, serves, notedOn⟩ :=
          inductionHypothesis after changed isThere
        rw [run_bind_of_ok ran]
        exact ⟨_, _, _, final, isThereAfter, .cons made serves,
          fun complete => (noted trivial).trans (notedOn complete)⟩
      | error interruption =>
        rw [run_bind_of_error ran]
        refine ⟨_, told, _, changed, isThere, .died made, fun complete => noted ?_⟩
        cases interruption <;> exact complete

section

variable {callAll : List Actor → Event → Run Unit}

theorem run_presentWith {name : String} {world : World} {bus : LocalBus Actor}
    (known : world.localBus? name = some bus) (event : Event) :
    (presentWith callAll name event).run.run world =
      (callAll (bus.handlersFor event) event).run.run world := by
  have got : (get : Run World).run.run world = (.ok world, world) := rfl
  unfold presentWith
  rw [run_bind_of_ok got, known]

theorem run_presentWith_of_none {name : String} {world : World}
    (nothing : world.localBus? name = none)
    (event : Event) : (presentWith callAll name event).run.run world = (.ok (), world) := by
  have got : (get : Run World).run.run world = (.ok world, world) := rfl
  unfold presentWith
  rw [run_bind_of_ok got, nothing]
  rfl

theorem run_takeFrom {name : String} {world : World} {bus rest : LocalBus Actor} {event : Event}
    {actors : List Actor} (named : world.localBusNames.lookup name = some place)
    (found : world.localBusAt? place = some bus) (taken : bus.take? = some (event, actors, rest)) :
    (takeFrom name).run world = (some (event, actors), world.storeLocalBus rest place) := by
  unfold takeFrom
  rw [run_changeLocalBus named found]
  simp only [taken]

theorem run_takeFrom_of_none {name : String} {world : World} {bus : LocalBus Actor}
    (named : world.localBusNames.lookup name = some place)
    (found : world.localBusAt? place = some bus) (nothing : bus.take? = none) :
    (takeFrom name).run world = (none, world.storeLocalBus bus place) := by
  unfold takeFrom
  rw [run_changeLocalBus named found]
  simp only [nothing]

theorem run_dispatchWith {name : String} {world after : World} {event : Event} {actors : List Actor}
    (taken : (takeFrom name).run world = (some (event, actors), after)) :
    (dispatchWith callAll name).run.run world =
      (callAll actors event >>= fun _ => pure true : Run Bool).run.run after := by
  have took : (liftM (takeFrom name) : Run (Option (Event × List Actor))).run.run world =
      (.ok (some (event, actors)), after) := by
    rw [run_lift, taken]
  unfold dispatchWith
  rw [run_bind_of_ok took]

theorem run_dispatchWith_of_none {name : String} {world after : World}
    (nothing : (takeFrom name).run world = (none, after)) :
    (dispatchWith callAll name).run.run world = (.ok false, after) := by
  have took : (liftM (takeFrom name) : Run (Option (Event × List Actor))).run.run world =
      (.ok none, after) := by
    rw [run_lift, nothing]
  unfold dispatchWith
  rw [run_bind_of_ok took]
  rfl

/-- An event handed out at once by the bus itself. -/
theorem makes_presentWith (calls : Calls place callAll) {name : String} (event : Event)
    {world : World} {bus : LocalBus Actor} (named : world.localBusNames.lookup name = some place)
    (found : world.localBusAt? place = some bus) : ∃ moves told noted changed,
      ((presentWith callAll name event).run.run world).2.localBusAt? place = some changed ∧
      LocalBus.Makes (.present event :: moves) told noted bus changed ∧
      (isReached ((presentWith callAll name event).run.run world).1 →
        Noted world ((presentWith callAll name event).run.run world).2 noted) := by
  have isNamed : world.localBus? name = some bus := by
    simp only [World.localBus?, named, Option.bind_some, found]
  rw [run_presentWith isNamed]
  obtain ⟨moves, told, noted, changed, isThere, serves, inLog⟩ :=
    calls.serves (bus.handlersFor event) event world bus found
  exact ⟨_, told, noted, changed, isThere, .present serves, inLog⟩

theorem enacts_presentWith (calls : Calls place callAll) (name : String) (event : Event) :
    Enacts place [] (presentWith callAll name event) := by
  intro world bus found
  by_cases named : world.localBusNames.lookup name = some place
  · obtain ⟨_, told, noted, changed, isThere, makes, inLog⟩ :=
      makes_presentWith calls event named found
    exact ⟨_, told, noted, changed, isThere, makes, inLog⟩
  · cases known : world.localBus? name with
    | none =>
      rw [run_presentWith_of_none known]
      exact Enacted.refl world bus found
    | some other =>
      rw [run_presentWith known]
      exact calls.enacts (other.handlersFor event) event world bus found

/-- A dispatch of the bus itself, with its answer. -/
theorem makes_dispatchWith (calls : Calls place callAll) {name : String} {world : World}
    {bus : LocalBus Actor} (named : world.localBusNames.lookup name = some place)
    (found : world.localBusAt? place = some bus) : ∃ moves told noted changed,
      ((dispatchWith callAll name).run.run world).2.localBusAt? place = some changed ∧
      LocalBus.Makes (.dispatch :: moves) told noted bus changed ∧
      (isReached ((dispatchWith callAll name).run.run world).1 →
        Noted world ((dispatchWith callAll name).run.run world).2 noted) ∧
      ∀ answer, ((dispatchWith callAll name).run.run world).1 = .ok answer →
        told.getLast? = some answer := by
  have stored (after : LocalBus Actor) : Noted world (world.storeLocalBus after place) [] := by
    obtain ⟨log, performers⟩ := records_storeLocalBus world after place
    exact .of_same log performers
  cases taken : bus.take? with
  | none =>
    rw [run_dispatchWith_of_none (run_takeFrom_of_none named found taken)]
    refine ⟨[], [false], [], bus, localBusAt?_storeLocalBus found bus, .dispatchNothing taken,
      fun _ => stored bus, ?_⟩
    rintro answer ⟨⟩
    rfl
  | some front =>
    obtain ⟨event, actors, rest⟩ := front
    obtain ⟨moves, told, noted, changed, isThere, serves, inLog⟩ := calls.serves actors event
      (world.storeLocalBus rest place) rest (localBusAt?_storeLocalBus found rest)
    rw [run_dispatchWith (run_takeFrom named found taken)]
    rcases ran : (callAll actors event).run.run (world.storeLocalBus rest place) with
      ⟨result, after⟩
    rw [ran] at isThere serves inLog
    cases result with
    | ok =>
      rw [run_bind_of_ok ran]
      refine ⟨_, _, noted, changed, isThere, .dispatch taken serves,
        fun _ => (stored rest).trans (inLog trivial), ?_⟩
      rintro answer ⟨⟩
      simp [Except.isOk, Except.toBool]
    | error interruption =>
      rw [run_bind_of_error ran]
      refine ⟨_, _, noted, changed, isThere, .dispatch taken serves, fun complete => ?_, ?_⟩
      · refine (stored rest).trans (inLog ?_)
        cases interruption <;> exact complete
      · rintro answer ⟨⟩

theorem enacts_dispatchWith (calls : Calls place callAll) (name : String) :
    Enacts place [] (dispatchWith callAll name) := by
  intro world
  by_cases named : world.localBusNames.lookup name = some place
  · intro bus found
    obtain ⟨moves, told, noted, changed, isThere, makes, inLog, _⟩ :=
      makes_dispatchWith calls named found
    exact ⟨_, told, noted, changed, isThere, makes, inLog⟩
  · have aside : Enacted place [] True world ((takeFrom name).run world).2 :=
      enacted_elsewhere named _
    rcases taken : (takeFrom name).run world with ⟨front, after⟩
    rw [taken] at aside
    cases front with
    | none =>
      rw [run_dispatchWith_of_none taken]
      exact aside
    | some front =>
      obtain ⟨event, actors⟩ := front
      have answers := (calls.enacts actors event).bind fun _ => .pure true
      rw [run_dispatchWith taken]
      exact aside.trans (answers after) fun _ => trivial

/-- One act of a handler. -/
theorem enacts_perform (calls : Calls place callAll) (event : Event) (act : Act) :
    Enacts place [] (perform callAll event act) := by
  cases act with
  | bind bus key script =>
    exact (Enacts.lift (enacted_bindLocal bus key script)).bind fun _ => .pure none
  | unbind bus key => exact (Enacts.lift (enacted_unbindLocal bus key)).bind fun _ => .pure none
  | reset bus => exact (Enacts.lift (enacted_resetLocal bus)).bind fun _ => .pure none
  | deliver bus other => exact (Enacts.lift (enacted_deliverTo bus other)).bind fun _ => .pure none
  | present bus other => exact (enacts_presentWith calls bus other).bind fun _ => .pure none
  | dispatch bus => exact (enacts_dispatchWith calls bus).bind fun answer => .pure _
  | askPending bus => exact fun world => .refl world
  | hook bus other => exact (Enacts.lift (enacted_changeGlobalBus _ bus)).bind fun _ => .pure none
  | forward bus => exact (Enacts.lift (enacted_changeGlobalBus _ bus)).bind fun _ => .pure none
  | update bus => exact (Enacts.lift (enacted_updateGlobalBus bus)).bind fun _ => .pure _
  | clear bus => exact (Enacts.lift (enacted_changeGlobalBus _ bus)).bind fun _ => .pure none
  | shutdown bus => exact (Enacts.lift (enacted_changeGlobalBus _ bus)).bind fun _ => .pure none
  | send channel other =>
    exact (Enacts.lift (enacted_changeChannel (fun own => own.bus_send other) channel)).bind
      fun _ => .pure none
  | echo channel =>
    exact (Enacts.lift (enacted_changeChannel (fun own => own.bus_send event) channel)).bind
      fun _ => .pure none
  | stop channel =>
    exact (Enacts.lift (enacted_changeChannel Channel.bus_stop channel)).bind fun _ => .pure none
  | askState channel => exact fun world => .refl world
  | die => exact .throw .died

/-- The acts of a call. -/
theorem enacts_performAll (calls : Calls place callAll) (tag : String) (event : Event)
    (acts : List Act) : Enacts place [] (performAll callAll tag event acts) := by
  induction acts with
  | nil => exact .pure ()
  | cons act acts inductionHypothesis =>
    refine (enacts_perform calls event act).bind fun told => ?_
    cases told with
    | none => exact inductionHypothesis
    | some answer =>
      have noted : Enacts place [] (liftM (note (.told tag answer)) : Run Unit) := by
        refine .lift fun world => .of_same (by cases place <;> rfl) ⟨fun _ _ found => found, ?_⟩
        exact ⟨[.told tag answer], List.reverse_cons, List.nil_sublist _⟩
      exact noted.bind fun _ => inductionHypothesis

end

theorem run_call {world : World} {actor : Actor} {performer : Performer}
    (found : world.performers[actor]? = some performer) (depth : Nat) (event : Event) :
    (call (depth + 1) actor event).run.run world =
      (performAll (fun actors other => actors.forM fun next => discard (call depth next other))
          performer.script.tag event (performer.script.actsOf performer.calls) >>=
        fun _ => pure (performer.script.answerOf performer.calls) : Run Bool).run.run
        (world.entered actor performer event) := by
  have entered : (liftM (enter actor) : Run (Option (Handler × Nat))).run.run world =
      (.ok (some (performer.script, performer.calls)),
        { world with
          performers := world.performers.setIfInBounds actor
            { performer with calls := performer.calls + 1 } }) := by
    rw [run_lift, enter, StateT.run_modifyGet, found]
    rfl
  rw [call, run_bind_of_ok entered]
  rfl

theorem run_call_of_none {world : World} {actor : Actor} (nothing : world.performers[actor]? = none)
    (depth : Nat) (event : Event) :
    (call (depth + 1) actor event).run.run world = (.ok true, world) := by
  have entered : (liftM (enter actor) : Run (Option (Handler × Nat))).run.run world =
      (.ok none, world) := by
    rw [run_lift, enter, StateT.run_modifyGet, nothing]
    rfl
  rw [call, run_bind_of_ok entered]
  rfl

/-- A handler does to a bus what moves do, however deep it calls others. -/
theorem enacts_call (depth : Nat) (actor : Actor) (event : Event) :
    Enacts place [(actor, event)] (call depth actor event) := by
  induction depth generalizing actor event with
  | zero =>
      exact fun world bus found => ⟨[], [], [], bus, found, .nil bus, fun reached => reached.elim⟩
  | succ depth inductionHypothesis =>
    intro world
    cases found : world.performers[actor]? with
    | none =>
      rw [run_call_of_none found]
      refine .of_same rfl ⟨fun _ _ same => same, [], (List.append_nil _).symm, ?_⟩
      simp [World.entryOf?, found]
    | some performer =>
      have performed := (enacts_performAll (.of_enacts inductionHypothesis)
        performer.script.tag event
        (performer.script.actsOf performer.calls)).bind fun _ =>
          .pure (performer.script.answerOf performer.calls)
      rw [run_call found]
      exact (enacted_entered found event).trans (performed _) fun _ => trivial

theorem calls_callActors (place : BusPlace) : Calls place callActors :=
  .of_enacts (enacts_call greatestDepth)

/-- **A local bus hands out in order, each event to the handlers bound then.** Every run from an
empty bus does so, whatever handlers do to the bus while they are at work. And where the past of a
bus is such a run, a dispatch by a scenario, or an event handed out at once, goes on with it: by
that move first, with the calls of handlers that the log has in that order, and with the answer that
the scenario gets. -/
theorem hands_out_in_order :
    (∀ {H : Type} {moves : List (LocalBus.Move H)} {stage : LocalBus.Stage H},
      LocalBus.Stage.run {} moves = some stage → stage.HandsOut moves) ∧
    ∀ {past : List (LocalBus.Move Actor)} {stage : LocalBus.Stage Actor} {world : World}
      {place : BusPlace} {name : String},
      LocalBus.Stage.run {} past = some stage → stage.isFree →
      world.localBusNames.lookup name = some place → world.localBusAt? place = some stage.bus →
      (let dispatched := (dispatchWith callActors name).run.run world
        ∃ moves later told calls,
          LocalBus.Stage.run {} (past ++ .dispatch :: moves) = some later ∧
          dispatched.2.localBusAt? place = some later.bus ∧ stage.Onward later told calls ∧
          (isReached dispatched.1 → Noted world dispatched.2 calls) ∧
          ∀ answer, dispatched.1 = .ok answer → told.getLast? = some answer) ∧
      ∀ event,
        let presented := (presentWith callActors name event).run.run world
        ∃ moves later told calls,
          LocalBus.Stage.run {} (past ++ .present event :: moves) = some later ∧
          presented.2.localBusAt? place = some later.bus ∧ stage.Onward later told calls ∧
          (isReached presented.1 → Noted world presented.2 calls) := by
  refine ⟨LocalBus.Stage.handsOut_of_run, ?_⟩
  intro past stage world place name ran free named found
  refine ⟨?_, fun event => ?_⟩
  · obtain ⟨moves, told, calls, changed, isThere, makes, noted, answered⟩ :=
      makes_dispatchWith (calls_callActors place) named found
    obtain ⟨later, ranOn, rfl, onward⟩ := makes.after_run ran free
    exact ⟨moves, later, told, calls, ranOn, isThere, onward, noted, answered⟩
  · obtain ⟨moves, told, calls, changed, isThere, makes, noted⟩ :=
      makes_presentWith (calls_callActors place) event named found
    obtain ⟨later, ranOn, rfl, onward⟩ := makes.after_run ran free
    exact ⟨moves, later, told, calls, ranOn, isThere, onward, noted⟩

/-- A handler that replaces itself and dispatches what waits: the event within goes to the handlers
bound by then, and the event around it to those bound before, of which the last is called in the
end. -/
theorem hands_out_in_order_of_handler_that_replaces_itself :
    let own : Subscription := .uid ⟨7⟩
    let event (kind : UInt8) : Event := { uid := ⟨kind⟩ }
    let next : Handler := .script "next" [] 0 []
    let first : Handler :=
      .script "first" [.unbind "bus" own, .bind "bus" own next, .deliver "bus" (event 8),
        .dispatch "bus"] 1 []
    let past : List (LocalBus.Move Actor) :=
      [.bind own 0, .bind .all 1, .deliver (event 7), .deliver (event 7)]
    let bus : LocalBus Actor :=
      (((({} : LocalBus Actor).bind own 0).bind .all 1).enqueue (event 7)).enqueue (event 7)
    let world : World :=
      { performers := #[{ script := first }, { script := .script "all" [] 0 [] }]
        localBuses := #[bus]
        localBusNames := [("bus", .alone 0)] }
    let dispatched := (dispatchWith callActors "bus").run.run world
    dispatched.2.log.reverse.filterMap (fun | .called tag _ => some tag | _ => none) =
      ["first", "next", "all", "all"] ∧
    ∃ moves later, LocalBus.Stage.run {} (past ++ .dispatch :: moves) = some later ∧
      later.HandsOut (past ++ .dispatch :: moves) ∧
      dispatched.2.localBusAt? (.alone 0) = some later.bus ∧
      later.answers.getLast? = some true := by
  intro own event next first past bus world dispatched
  have called : dispatched.2.log.reverse.filterMap (fun | .called tag _ => some tag | _ => none) =
      ["first", "next", "all", "all"] := by decide +kernel
  have taken : dispatched.1.toOption = some true := by decide +kernel
  have answered : dispatched.1 = .ok true := by
    generalize dispatched.1 = result at taken
    cases result with
    | ok answer => exact congrArg Except.ok (Option.some.inj taken)
    | error => cases taken
  have ran : LocalBus.Stage.run {} past = some { bus := bus } := rfl
  obtain ⟨⟨moves, later, told, calls, ranOn, isThere, onward, _, answers⟩, _⟩ :=
    hands_out_in_order.2 ran rfl (rfl : world.localBusNames.lookup "bus" = some (.alone 0)) rfl
  refine ⟨called, moves, later, ranOn, hands_out_in_order.1 ranOn, isThere, ?_⟩
  rw [onward.answers]
  exact answers true answered

end Scenario

end EventTransport
