import EventTransport.Proofs.Bus.Calling
import EventTransport.Scenario.Activation

/-!
Contract: what happens in a scenario at one of its local buses, as moves of that bus.

Owns:
- `Scenario.Noted`, two worlds with the calls of handlers that are logged in between;
- `Scenario.Enacted`, a bus in two worlds with moves in between that account for what became of it,
  and with their calls in the log;
- `Scenario.Enacts`, that this is so of whatever handlers do, and how it is put together;
- that it is so of everything that is done without a call.

Does not own: handlers that call handlers.
-/

namespace EventTransport

namespace Scenario

variable {place : BusPlace}

/-! ### Buses in worlds -/

theorem localBusAt?_storeLocalBus {world : World} {old : LocalBus Actor}
    (found : world.localBusAt? place = some old) (bus : LocalBus Actor) :
    (world.storeLocalBus bus place).localBusAt? place = some bus := by
  cases place with
  | alone number =>
    have inside := (Array.getElem?_eq_some_iff.mp found).1
    simp [World.storeLocalBus, World.localBusAt?, inside]
  | ofLine number =>
    obtain ⟨line, isThere, _⟩ := Option.map_eq_some_iff.mp found
    simp [World.storeLocalBus, World.localBusAt?, Array.getElem?_modify, isThere]

theorem localBusAt?_storeLocalBus_of_ne {other : BusPlace} (apart : other ≠ place) (world : World)
    (bus : LocalBus Actor) :
    (world.storeLocalBus bus other).localBusAt? place = world.localBusAt? place := by
  cases other with
  | alone number =>
    cases place with
    | alone own =>
      have different : number ≠ own := fun same => apart (congrArg _ same)
      simp [World.storeLocalBus, World.localBusAt?, different]
    | ofLine => rfl
  | ofLine number =>
    cases place with
    | alone => rfl
    | ofLine own =>
      have different : number ≠ own := fun same => apart (congrArg _ same)
      simp [World.storeLocalBus, World.localBusAt?, Array.getElem?_modify, different]

theorem localBusAt?_wake (tasks : List Task) (world : World) :
    (tasks.foldl World.wake world).localBusAt? place = world.localBusAt? place := by
  induction tasks generalizing world with
  | nil => rfl
  | cons task tasks inductionHypothesis =>
    refine (inductionHypothesis (world.wake task)).trans ?_
    unfold World.wake
    split
    · rfl
    · cases place <;> rfl

theorem localBusAt?_store_alone (world : World) (number other : Nat)
    (before after : Channel Actor) :
    (world.store number before after).localBusAt? (.alone other) =
      world.localBusAt? (.alone other) := by
  unfold World.store
  rw [localBusAt?_wake]
  rfl

theorem localBusAt?_store (world : World) (number other : Nat) (before after : Channel Actor) :
    (world.store number before after).localBusAt? (.ofLine other) =
      if number = other then world.lines[other]?.map fun _ => after.bus
      else world.localBusAt? (.ofLine other) := by
  unfold World.store
  rw [localBusAt?_wake]
  simp only [World.localBusAt?, Array.getElem?_modify]
  split
  · rw [Option.map_map]
    rfl
  · rfl

theorem records_wake (tasks : List Task) (world : World) :
    (tasks.foldl World.wake world).log = world.log ∧
      (tasks.foldl World.wake world).performers = world.performers := by
  induction tasks generalizing world with
  | nil => exact ⟨rfl, rfl⟩
  | cons task tasks inductionHypothesis =>
    have records : (world.wake task).log = world.log ∧
        (world.wake task).performers = world.performers := by
      unfold World.wake
      split <;> exact ⟨rfl, rfl⟩
    obtain ⟨log, performers⟩ := inductionHypothesis (world.wake task)
    exact ⟨log.trans records.1, performers.trans records.2⟩

theorem records_store (world : World) (number : Nat) (before after : Channel Actor) :
    (world.store number before after).log = world.log ∧
      (world.store number before after).performers = world.performers :=
  records_wake _ _

theorem records_storeLocalBus (world : World) (bus : LocalBus Actor) (other : BusPlace) :
    (world.storeLocalBus bus other).log = world.log ∧
      (world.storeLocalBus bus other).performers = world.performers := by
  cases other <;> exact ⟨rfl, rfl⟩

/-! ### Calls in the log -/

/-- What the log says of a call of a handler, if there is that handler. -/
def World.entryOf? (world : World) (call : Actor × Event) : Option LogEntry :=
  world.performers[call.1]?.map fun performer => .called performer.script.tag call.2

/-- Between two worlds, the calls of handlers that there were before are logged in their order, and
each handler is logged as before. -/
structure Noted (before after : World) (calls : List (Actor × Event)) : Prop where
  kept : ∀ call entry, before.entryOf? call = some entry → after.entryOf? call = some entry
  noted : ∃ entries, after.log.reverse = before.log.reverse ++ entries ∧
    (calls.filterMap before.entryOf?).Sublist entries

/-- More is left by a map that is defined on more. -/
theorem sublist_filterMap_of_le {α β : Type} {few many : α → Option β}
    (within : ∀ element image, few element = some image → many element = some image)
    (elements : List α) : (elements.filterMap few).Sublist (elements.filterMap many) := by
  induction elements with
  | nil => exact .refl _
  | cons element elements inductionHypothesis =>
    cases image : few element with
    | none =>
      rw [List.filterMap_cons_none image]
      cases other : many element with
      | none => rwa [List.filterMap_cons_none other]
      | some entry =>
        rw [List.filterMap_cons_some other]
        exact inductionHypothesis.cons entry
    | some entry =>
      rw [List.filterMap_cons_some image, List.filterMap_cons_some (within element entry image)]
      exact inductionHypothesis.cons_cons entry

namespace Noted

variable {before between after : World} {calls others : List (Actor × Event)}

theorem of_same (log : after.log = before.log) (performers : after.performers = before.performers) :
    Noted before after [] where
  kept := fun call entry found => by rwa [World.entryOf?, performers]
  noted := ⟨[], by rw [log, List.append_nil], .refl _⟩

theorem trans (first : Noted before between calls) (second : Noted between after others) :
    Noted before after (calls ++ others) := by
  obtain ⟨entries, log, noted⟩ := first.noted
  obtain ⟨further, logOn, notedOn⟩ := second.noted
  refine ⟨fun call entry found => second.kept call entry (first.kept call entry found),
    entries ++ further, ?_, ?_⟩
  · rw [logOn, log, List.append_assoc]
  · rw [List.filterMap_append]
    exact noted.append ((sublist_filterMap_of_le first.kept others).trans notedOn)

theorem fewer (noted : Noted before after (others ++ calls)) : Noted before after calls := by
  obtain ⟨entries, log, inLog⟩ := noted.noted
  refine ⟨noted.kept, entries, log, .trans ?_ inLog⟩
  rw [List.filterMap_append]
  exact List.sublist_append_right _ _

end Noted

/-! ### Enactments -/

/-- Whatever happened to a bus between two worlds is a run of moves. If the log is complete, it has
the calls among them, after `own`, the calls by somebody else. -/
def Enacted (place : BusPlace) (own : List (Actor × Event)) (isComplete : Prop)
    (before after : World) : Prop :=
  ∀ bus, before.localBusAt? place = some bus → ∃ moves told calls changed,
    after.localBusAt? place = some changed ∧ LocalBus.Makes moves told calls bus changed ∧
      (isComplete → Noted before after (own ++ calls))

namespace Enacted

variable {before between after : World} {own : List (Actor × Event)} {isComplete goesOn : Prop}

theorem of_same (same : after.localBusAt? place = before.localBusAt? place)
    (noted : Noted before after own) : Enacted place own isComplete before after := fun bus found =>
  ⟨[], [], [], bus, same.trans found, .nil bus, fun _ => by rwa [List.append_nil]⟩

theorem refl (world : World) : Enacted place [] isComplete world world :=
  of_same rfl (.of_same rfl rfl)

theorem trans (first : Enacted place own isComplete before between)
    (second : Enacted place [] goesOn between after) (complete : goesOn → isComplete) :
    Enacted place own goesOn before after := by
  intro bus found
  obtain ⟨moves, told, calls, changed, isThere, made, noted⟩ := first bus found
  obtain ⟨others, more, further, final, isThereAfter, makes, notedOn⟩ := second changed isThere
  refine ⟨moves ++ others, told ++ more, calls ++ further, final, isThereAfter,
    made.append makes, ?_⟩
  intro isComplete
  rw [← List.append_assoc]
  exact (noted (complete isComplete)).trans (notedOn isComplete)

end Enacted

/-- Whether no handler was called too deep to be called at all, so that the log is complete. -/
def isReached {α : Type} : Except Interruption α → Prop
  | .error .tooDeep => False
  | _ => True

/-- Whatever some handlers do at a bus is a run of moves. -/
def Enacts {α : Type} (place : BusPlace) (own : List (Actor × Event)) (run : Run α) : Prop :=
  ∀ world, Enacted place own (isReached (run.run.run world).1) world (run.run.run world).2

section

variable {α β : Type} {run : Run α} {next : α → Run β} {world after : World}

theorem run_lift (play : Play α) (world : World) :
    (liftM play : Run α).run.run world = (.ok (play.run world).1, (play.run world).2) := rfl

theorem run_bind_of_ok {value : α} (ran : run.run.run world = (.ok value, after)) :
    (run >>= next).run.run world = (next value).run.run after := by
  simp only [ExceptT.run_bind, StateT.run_bind, ran]
  rfl

theorem run_bind_of_error {interruption : Interruption}
    (ran : run.run.run world = (.error interruption, after)) :
    (run >>= next).run.run world = (.error interruption, after) := by
  simp only [ExceptT.run_bind, StateT.run_bind, ran]
  rfl

end

namespace Enacts

variable {α β : Type} {own : List (Actor × Event)}

theorem pure (value : α) : Enacts place [] (pure value : Run α) := fun world => .refl world

theorem throw (interruption : Interruption) : Enacts place [] (throw interruption : Run α) :=
  fun world => .refl world

theorem lift {play : Play α} (enacted : ∀ world, Enacted place [] True world (play.run world).2) :
    Enacts place [] (liftM play : Run α) := enacted

theorem bind {run : Run α} {next : α → Run β} (first : Enacts place own run)
    (second : ∀ value, Enacts place [] (next value)) : Enacts place own (run >>= next) := by
  intro world
  have enacted := first world
  rcases ran : run.run.run world with ⟨result, after⟩
  rw [ran] at enacted
  cases result with
  | ok value =>
    rw [run_bind_of_ok ran]
    exact enacted.trans (second value after) fun _ => trivial
  | error interruption =>
    rw [run_bind_of_error ran]
    cases interruption <;> exact enacted

theorem discard {run : Run α} (enacts : Enacts place own run) : Enacts place own (discard run) :=
  enacts.bind fun _ => .pure _

/-- Without the calls by somebody else. -/
theorem fewer {run : Run α} (enacts : Enacts place own run) : Enacts place [] run := by
  intro world bus found
  obtain ⟨moves, told, calls, changed, isThere, makes, noted⟩ := enacts world bus found
  exact ⟨moves, told, calls, changed, isThere, makes, fun complete => (noted complete).fewer⟩

end Enacts

/-! ### What is done without a call -/

theorem enacted_storeLocalBus {world : World} {other : BusPlace} {bus after : LocalBus Actor}
    {moves : List (LocalBus.Move Actor)} (found : world.localBusAt? other = some bus)
    (made : LocalBus.Makes moves [] [] bus after) :
    Enacted place [] True world (world.storeLocalBus after other) := by
  obtain ⟨log, performers⟩ := records_storeLocalBus world after other
  have noted : Noted world (world.storeLocalBus after other) [] := .of_same log performers
  by_cases here : other = place
  · subst here
    intro own isThere
    cases Option.some.inj (found.symm.trans isThere)
    exact ⟨moves, [], [], after, localBusAt?_storeLocalBus found after, made, fun _ => noted⟩
  · exact .of_same (localBusAt?_storeLocalBus_of_ne here world after) noted

section

variable {α : Type} [Inhabited α] {name : String} {world : World}

theorem run_changeLocalBus {other : BusPlace} {bus : LocalBus Actor}
    (named : world.localBusNames.lookup name = some other)
    (found : world.localBusAt? other = some bus) (change : LocalBus Actor → α × LocalBus Actor) :
    (changeLocalBus name change).run world =
      ((change bus).1, world.storeLocalBus (change bus).2 other) := by
  simp only [changeLocalBus, StateT.run_modifyGet, named, found]
  rfl

theorem run_changeLocalBus_of_none (nothing : world.localBus? name = none)
    (change : LocalBus Actor → α × LocalBus Actor) :
    (changeLocalBus name change).run world = (default, world) := by
  unfold World.localBus? at nothing
  cases named : world.localBusNames.lookup name with
  | none =>
    simp only [changeLocalBus, StateT.run_modifyGet, named]
    rfl
  | some other =>
    have absent : world.localBusAt? other = none := by rwa [named] at nothing
    simp only [changeLocalBus, StateT.run_modifyGet, named, absent]
    rfl

/-- Where a bus is that a name stands for. -/
theorem exists_place_of_localBus? {bus : LocalBus Actor} (found : world.localBus? name = some bus) :
    ∃ other, world.localBusNames.lookup name = some other ∧ world.localBusAt? other = some bus :=
  Option.bind_eq_some_iff.mp found

theorem enacted_changeLocalBus {change : LocalBus Actor → α × LocalBus Actor}
    (moves : List (LocalBus.Move Actor))
    (made : ∀ bus, LocalBus.Makes moves [] [] bus (change bus).2) (name : String) (world : World) :
    Enacted place [] True world ((changeLocalBus name change).run world).2 := by
  cases known : world.localBus? name with
  | none =>
    rw [run_changeLocalBus_of_none known]
    exact .refl world
  | some bus =>
    obtain ⟨other, named, found⟩ := exists_place_of_localBus? known
    rw [run_changeLocalBus named found]
    exact enacted_storeLocalBus found (made bus)

/-- A change of a bus by a name that stands for another. -/
theorem enacted_elsewhere (elsewhere : world.localBusNames.lookup name ≠ some place)
    (change : LocalBus Actor → α × LocalBus Actor) :
    Enacted place [] True world ((changeLocalBus name change).run world).2 := by
  cases known : world.localBus? name with
  | none =>
    rw [run_changeLocalBus_of_none known]
    exact .refl world
  | some bus =>
    obtain ⟨other, named, found⟩ := exists_place_of_localBus? known
    rw [run_changeLocalBus named found]
    have apart : other ≠ place := fun same => elsewhere (same ▸ named)
    obtain ⟨log, performers⟩ := records_storeLocalBus world (change bus).2 other
    exact .of_same (localBusAt?_storeLocalBus_of_ne apart world _) (.of_same log performers)

end

theorem enacted_changeChannelAt {change : Channel Actor → Channel Actor}
    (moves : List (LocalBus.Move Actor))
    (made : ∀ channel, LocalBus.Makes moves [] [] channel.bus (change channel).bus) (number : Nat)
    (world : World) : Enacted place [] True world
    ((changeChannelAt number change).run world).2 := by
  unfold changeChannelAt
  rw [StateT.run_modify]
  cases isThere : world.lines[number]? with
  | none => exact .refl world
  | some line =>
    intro bus found
    obtain ⟨log, performers⟩ := records_store world number line.channel (change line.channel)
    have noted : Noted world (world.store number line.channel (change line.channel)) [] :=
      .of_same log performers
    cases place with
    | alone other =>
      exact ⟨[], [], [], bus, (localBusAt?_store_alone ..).trans found, .nil bus, fun _ => noted⟩
    | ofLine other =>
      have stored := localBusAt?_store world number other line.channel (change line.channel)
      by_cases here : number = other
      · subst here
        have isBus : line.channel.bus = bus := by simpa [World.localBusAt?, isThere] using found
        exact ⟨moves, [], [], (change line.channel).bus, stored.trans (by simp [isThere]),
          isBus ▸ made line.channel, fun _ => noted⟩
      · exact ⟨[], [], [], bus, stored.trans (by rwa [if_neg here]), .nil bus, fun _ => noted⟩

theorem enacted_changeChannel {change : Channel Actor → Channel Actor}
    (kept : ∀ channel, (change channel).bus = channel.bus) (name : String) (world : World) :
    Enacted place [] True world ((changeChannel name change).run world).2 := by
  have made (channel : Channel Actor) :
      LocalBus.Makes [] [] [] channel.bus (change channel).bus := by
    rw [kept]
    exact .nil _
  unfold changeChannel
  rw [StateT.run_bind, StateT.run_get, pure_bind]
  split
  · exact .refl world
  · exact enacted_changeChannelAt [] made _ world

theorem enacted_changeGlobalBus (change : GlobalBus → GlobalBus × List Warning) (name : String)
    (world : World) : Enacted place [] True world ((changeGlobalBus name change).run world).2 := by
  unfold changeGlobalBus
  rw [StateT.run_bind, StateT.run_get, pure_bind]
  split
  · exact .refl world
  · exact .of_same (by cases place <;> rfl) (.of_same rfl rfl)

theorem enacted_updateGlobalBus (name : String) (world : World) :
    Enacted place [] True world ((updateGlobalBus name).run world).2 := by
  unfold updateGlobalBus
  rw [StateT.run_bind, StateT.run_get, pure_bind]
  split
  · exact .refl world
  · exact .of_same (by cases place <;> rfl) (.of_same rfl rfl)

theorem enacted_engage (script : Handler) (world : World) :
    Enacted place [] True world ((engage script).run world).2 := by
  refine .of_same (by cases place <;> rfl) ⟨fun call entry found => ?_, [], ?_, .refl _⟩
  · obtain ⟨performer, isThere, same⟩ := Option.map_eq_some_iff.mp found
    refine Option.map_eq_some_iff.mpr ⟨performer, ?_, same⟩
    show (world.performers.push { script := script })[call.1]? = some performer
    have inside := (Array.getElem?_eq_some_iff.mp isThere).1
    rw [Array.getElem?_push_lt inside]
    exact (Array.getElem?_eq_getElem inside).symm.trans isThere
  · exact (List.append_nil _).symm

theorem enacted_bindLocal (name : String) (key : Subscription) (script : Handler) (world : World) :
    Enacted place [] True world ((bindLocal name key script).run world).2 := by
  let engaged := (engage script).run world
  have bound : Enacted place [] True engaged.2
      ((changeLocalBus name fun bus => ((), bus.bind key engaged.1)).run engaged.2).2 :=
    enacted_changeLocalBus [.bind key engaged.1] (fun bus => .bind bus key engaged.1) name _
  exact (enacted_engage script world).trans bound id

theorem enacted_unbindLocal (name : String) (key : Subscription) (world : World) :
    Enacted place [] True world ((unbindLocal name key).run world).2 := by
  let unbound := (changeLocalBus name fun bus => (bus.unbind key).swap).run world
  have enacted : Enacted place [] True world unbound.2 :=
    enacted_changeLocalBus [.unbind key] (fun bus => .unbind bus key) name world
  have warned : Enacted place [] True unbound.2 ((warn unbound.1).run unbound.2).2 :=
    .of_same (by cases place <;> rfl) (.of_same rfl rfl)
  exact enacted.trans warned id

theorem enacted_resetLocal (name : String) (world : World) :
    Enacted place [] True world ((resetLocal name).run world).2 :=
  enacted_changeLocalBus [.reset] LocalBus.Makes.reset name world

theorem enacted_deliverTo (name : String) (event : Event) (world : World) :
    Enacted place [] True world ((deliverTo name event).run world).2 := by
  unfold deliverTo
  rw [StateT.run_bind, StateT.run_get, pure_bind]
  split
  · exact .refl world
  · exact enacted_changeLocalBus [.deliver event] (fun bus => .deliver bus event) name world
  · refine enacted_changeChannelAt [.deliver event] (fun channel => ?_) _ world
    rw [Channel.bus_deliver]
    exact .deliver channel.bus event

/-- A world in which a handler has been called. -/
def World.entered (world : World) (actor : Actor) (performer : Performer) (event : Event) : World :=
  { world with
    performers := world.performers.setIfInBounds actor
      { performer with calls := performer.calls + 1 }
    log := .called performer.script.tag event :: world.log }

/-- A call counted and logged. -/
theorem enacted_entered {world : World} {actor : Actor} {performer : Performer}
    (found : world.performers[actor]? = some performer) (event : Event) :
    Enacted place [(actor, event)] True world (world.entered actor performer event) := by
  have isLogged : world.entryOf? (actor, event) = some (.called performer.script.tag event) :=
    Option.map_eq_some_iff.mpr ⟨performer, found, rfl⟩
  refine .of_same (by cases place <;> rfl) ⟨?_, [.called performer.script.tag event], ?_, ?_⟩
  · intro call entry before
    obtain ⟨other, isThere, rfl⟩ := Option.map_eq_some_iff.mp before
    have inside := (Array.getElem?_eq_some_iff.mp found).1
    simp only [World.entryOf?, World.entered, Array.getElem?_setIfInBounds]
    by_cases here : actor = call.1
    · rw [← here] at isThere ⊢
      cases Option.some.inj (found.symm.trans isThere)
      simp [inside]
    · simp [here, isThere]
  · exact List.reverse_cons
  · rw [List.filterMap_cons_some isLogged]
    exact .refl _

end Scenario

end EventTransport
