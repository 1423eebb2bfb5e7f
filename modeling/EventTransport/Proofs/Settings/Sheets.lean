import EventTransport.Proofs.Json.Rearrangement
import EventTransport.Proofs.Settings.Plan
import EventTransport.Settings.Config

/-!
Contract: how far the plan of a sheet is carried out, and what that leaves.

Owns:
- `SheetStep.callsOf`, the calls that one context gets;
- `Configurator.after` and `Configurator.warningsOf`, what steps leave;
- `Configurator.Carries`, a plan carried out up to and including its first failure;
- sheets against their plans, and sheets in which members are written in another order.

Does not own: what components do when they are called.
-/

namespace EventTransport

/-- The call that a context gets at a step, if it gets one. -/
def SheetStep.callOf? (context : String) : SheetStep → Option SettingCall
  | .skip _ => none
  | .call other asked => if other = context then some asked else none

/-- The calls that a context gets, in order. -/
def SheetStep.callsOf (context : String) (steps : List SheetStep) : List SettingCall :=
  steps.filterMap (SheetStep.callOf? context)

namespace Configurator

variable {σ : Type}

/-- The calls that a context gets of a whole sheet: one for each setting, then the check. There are
none if nobody claimed the context, or if the sheet has no object for it. -/
def callsFor (configurator : Configurator σ) (contexts : List (String × Json.Value))
    (context : String) : List SettingCall :=
  match configurator.target? context, Keyed.get? context contexts with
  | some _, some (.object members) =>
    (members.filterMap fun member => member.2.scalar?.map (SettingCall.set member.1)) ++ [.check]
  | _, _ => []

end Configurator

open SheetStep

namespace SheetStep

theorem callsOf_append (context : String) (front back : List SheetStep) :
    callsOf context (front ++ back) = callsOf context front ++ callsOf context back :=
  List.filterMap_append

theorem callsOf_ofSettings (context : String) (members : List (String × Json.Value)) :
    callsOf context (ofSettings context members) =
      (members.filterMap fun member => member.2.scalar?.map (SettingCall.set member.1)) ++
        [.check] := by
  have check : callsOf context [.call context .check] = [SettingCall.check] := by
    simp [callsOf, callOf?]
  have settings : callsOf context (members.map (ofSetting context)) =
      members.filterMap fun member => member.2.scalar?.map (SettingCall.set member.1) := by
    unfold callsOf
    rw [List.filterMap_map]
    refine congrArg (List.filterMap · members) (funext fun member => ?_)
    show callOf? context (ofSetting context member) = _
    unfold ofSetting
    cases member.2.scalar? with
    | none => rfl
    | some text => exact if_pos rfl
  unfold ofSettings
  rw [callsOf_append, settings, check]

theorem callsOf_ofSettings_ne {context other : String} (different : other ≠ context)
    (members : List (String × Json.Value)) : callsOf context (ofSettings other members) = [] := by
  unfold callsOf ofSettings
  rw [List.filterMap_eq_nil_iff]
  intro step inside
  rcases List.mem_append.mp inside with setting | check
  · obtain ⟨member, -, rfl⟩ := List.mem_map.mp setting
    unfold ofSetting
    cases member.2.scalar? with
    | none => rfl
    | some text => exact if_neg different
  · rw [List.mem_singleton.mp check]
    exact if_neg different

end SheetStep

namespace Configurator

variable {σ : Type}

theorem callsOf_contextSteps_ne {context : String} {entry : String × Json.Value}
    (configurator : Configurator σ) (different : entry.1 ≠ context) :
    callsOf context (configurator.contextSteps entry) = [] := by
  unfold contextSteps
  split
  · split
    · exact callsOf_ofSettings_ne different _
    · rfl
  · rfl

/-- A plan has for every context the calls that it is due. -/
theorem callsOf_plan (configurator : Configurator σ) {contexts : List (String × Json.Value)}
    (sorted : Keyed.Sorted contexts) (context : String) :
    callsOf context (configurator.plan contexts) = configurator.callsFor contexts context := by
  induction contexts with
  | nil =>
      unfold callsFor
      split
      · rename_i found
        cases found
      · rfl
  | cons entry rest inductionHypothesis =>
      obtain ⟨above, sortedRest⟩ := List.pairwise_cons.mp sorted
      have later := inductionHypothesis sortedRest
      show callsOf context (configurator.contextSteps entry ++ configurator.plan rest) = _
      rw [callsOf_append, later]
      by_cases here : entry.1 = context
      · -- The context does not come again behind its own place.
        have absent : Keyed.get? context rest = none :=
          Keyed.get?_eq_none_of_before (here ▸ above)
        have found : Keyed.get? context (entry :: rest) = some entry.2 := if_pos here.symm
        unfold callsFor contextSteps isSubscribed
        rw [absent, found, here]
        cases claimed : configurator.target? context with
        | none => rfl
        | some target =>
            simp only [Option.isSome_some, if_true, List.append_nil]
            cases entry.2 with
            | object members => exact callsOf_ofSettings context members
            | null | bool value | number amount | text content | array items => rfl
      · rw [callsOf_contextSteps_ne configurator here]
        unfold callsFor
        have skipped : Keyed.get? context (entry :: rest) = Keyed.get? context rest :=
          if_neg (Ne.symm here)
        rw [skipped]
        rfl

/-! ### Plans carried out -/

section Carrying

variable [Configurable σ]

/-- The components after steps, whether these have failed or not. -/
def after (configurator : Configurator σ) (steps : List SheetStep) : Configurator σ :=
  steps.foldl (fun now step => (now.perform step).state) configurator

/-- The records that steps leave. -/
def warningsOf (configurator : Configurator σ) : List SheetStep → List Warning
  | [] => []
  | step :: rest =>
    (configurator.perform step).warnings ++ (configurator.perform step).state.warningsOf rest

/-- What it means that of planned steps those in front have been made: all of them succeeded but
perhaps the last one, and nothing is skipped unless that one failed. -/
structure Carries (configurator : Configurator σ) (planned made skipped : List SheetStep)
    (applied : Applied (Configurator σ)) : Prop where
  planned_eq : planned = made ++ skipped
  state_eq : applied.state = configurator.after made
  warnings_eq : applied.warnings = configurator.warningsOf made
  result_eq : ∀ front step back, made = front ++ step :: back →
    ((configurator.after front).perform step).result = if back = [] then applied.result else .ok ()
  complete : applied.result = .ok () → skipped = []
  fails_late : made = [] → applied.result = .ok ()

theorem Carries.nil (configurator : Configurator σ) :
    Carries configurator [] [] [] { state := configurator } where
  planned_eq := rfl
  state_eq := rfl
  warnings_eq := rfl
  result_eq front step back cut := by simp at cut
  complete _ := rfl
  fails_late _ := rfl

variable {configurator : Configurator σ} {step : SheetStep}

theorem Carries.stop {error : Error} (failed : (configurator.perform step).result = .error error)
    (rest : List SheetStep) :
    Carries configurator (step :: rest) [step] rest (configurator.perform step) where
  planned_eq := rfl
  state_eq := rfl
  warnings_eq := (List.append_nil _).symm
  result_eq front other back cut := by
    obtain ⟨rfl, same⟩ | ⟨before, rfl, rest⟩ := List.cons_eq_append_iff.mp cut
    · cases same
      rw [if_pos rfl]
      rfl
    · simp at rest
  complete succeeded := by
    rw [failed] at succeeded
    cases succeeded
  fails_late none := by cases none

theorem Carries.cons {rest made skipped : List SheetStep} {later : Applied (Configurator σ)}
    (succeeded : (configurator.perform step).result = .ok ())
    (carries : Carries (configurator.perform step).state rest made skipped later) :
    Carries configurator (step :: rest) (step :: made) skipped
      { later with warnings := (configurator.perform step).warnings ++ later.warnings } where
  planned_eq := congrArg (step :: ·) carries.planned_eq
  state_eq := carries.state_eq
  warnings_eq := congrArg (_ ++ ·) carries.warnings_eq
  result_eq front other back cut := by
    obtain ⟨rfl, same⟩ | ⟨before, rfl, cutLater⟩ := List.cons_eq_append_iff.mp cut
    · cases same
      refine succeeded.trans ?_
      split
      · rename_i last
        exact (carries.fails_late last).symm
      · rfl
    · exact carries.result_eq before other back cutLater
  complete := carries.complete
  fails_late none := by cases none

/-- A plan is carried out up to and including its first failure. -/
theorem exists_carries (configurator : Configurator σ) (steps : List SheetStep) :
    ∃ made skipped, Carries configurator steps made skipped (configurator.performAll steps) := by
  induction steps generalizing configurator with
  | nil => exact ⟨[], [], Carries.nil configurator⟩
  | cons step rest inductionHypothesis =>
      rw [performAll]
      cases succeeded : (configurator.perform step).result with
      | error error =>
          rw [Applied.andThen_of_error succeeded]
          exact ⟨[step], rest, Carries.stop succeeded rest⟩
      | ok done =>
          rw [Applied.andThen_of_ok succeeded]
          obtain ⟨made, skipped, carries⟩ := inductionHypothesis (configurator.perform step).state
          exact ⟨step :: made, skipped, carries.cons succeeded⟩

/-! ### Components -/

theorem target?_perform (configurator : Configurator σ) (step : SheetStep) (context : String) :
    (configurator.perform step).state.target? context =
      (configurator.target? context).map fun target =>
        match step.callOf? context with
        | none => target
        | some asked => (asked.on target).state := by
  cases step with
  | skip warning => exact Option.map_id'.symm
  | call other asked =>
      show (configurator.callTarget other asked).state.target? context = _
      unfold callTarget
      by_cases here : other = context
      · have due : callOf? context (.call other asked) = some asked := if_pos here
        rw [due, here]
        cases claimed : configurator.target? context with
        | none => exact claimed
        | some target => exact target?_replace_of_claimed claimed _
      · have noCall : callOf? context (.call other asked) = none := if_neg here
        rw [noCall]
        refine Eq.trans ?_ Option.map_id'.symm
        cases configurator.target? other with
        | none => rfl
        | some target => exact (target?_replace _ _ _ _).trans (if_neg (Ne.symm here))

/-- A component has got the calls of its own context, and no others. -/
theorem target?_after (configurator : Configurator σ) (steps : List SheetStep) (context : String) :
    (configurator.after steps).target? context =
      (configurator.target? context).map fun target =>
        (callsOf context steps).foldl (fun now asked => (asked.on now).state) target := by
  induction steps generalizing configurator with
  | nil => exact Option.map_id'.symm
  | cons step rest inductionHypothesis =>
      refine (inductionHypothesis (configurator.perform step).state).trans ?_
      rw [target?_perform, Option.map_map]
      unfold callsOf
      rw [List.filterMap_cons]
      cases step.callOf? context <;> rfl

/-! ### Sheets -/

theorem run_of_document {configurator : Configurator σ} {sheet : String} {document : Json.Document}
    (isRead : Json.readDocument sheet = .ok document) :
    configurator.run sheet =
      match document.value with
      | .object contexts => configurator.applyContexts contexts
      | _ => { state := configurator, result := .error (.config "<root>" .sheetNotAnObject) } := by
  have denotes : Json.read sheet = .ok document.value := by
    unfold Json.read
    rw [isRead]
  unfold run
  rw [denotes]
  cases document.value <;> rfl

/-- **A sheet is handed over in one fixed order, up to the first error.** A text that is no sheet
changes nothing. Of a sheet the contexts are taken in the order of their names, and the settings of
each in the order of their keys, a later one of a name or key standing for all of them; every
component is due one call for each of its settings that has a text, then one check. The plan is
carried out up to and including the first call that fails, whose error is the result; what a
component gets of the calls due to it are those among the steps made, and no others. Members in
another order, those with the same key among themselves apart, make no difference. -/
theorem runs_in_order (configurator : Configurator σ) (sheet : String) :
    (∀ fault, Json.readDocument sheet = .error fault →
      configurator.run sheet = { state := configurator, result := .error (.json fault) }) ∧
    (∀ document, Json.readDocument sheet = .ok document → (∀ written, document ≠ .object written) →
      configurator.run sheet =
        { state := configurator, result := .error (.config "<root>" .sheetNotAnObject) }) ∧
    (∀ written, Json.readDocument sheet = .ok (.object written) →
      ∃ contexts, Json.Gathered written contexts ∧
        (∀ context inner, Keyed.lastOf? context written = some (.object inner) →
          ∃ members, Keyed.get? context contexts = some (.object members) ∧
            Json.Gathered inner members) ∧
        ∃ made skipped,
          Carries configurator (configurator.plan contexts) made skipped (configurator.run sheet) ∧
          ∀ context,
            configurator.callsFor contexts context = callsOf context made ++
              callsOf context skipped ∧
            (configurator.run sheet).state.target? context =
              (configurator.target? context).map fun target =>
                (callsOf context made).foldl (fun now asked => (asked.on now).state) target) ∧
    ∀ other document rearranged, Json.readDocument sheet = .ok document →
      Json.readDocument other = .ok rearranged →
      document.Rearranged Json.Document.ReordersApart rearranged →
      configurator.run other = configurator.run sheet := by
  refine ⟨?_, ?_, ?_, ?_⟩
  · intro fault unread
    unfold run Json.read
    rw [unread]
  · intro document isRead noObject
    rw [run_of_document isRead]
    cases document with
    | object written => exact absurd rfl (noObject written)
    | null | bool value | number amount | text content | array items => rfl
  · intro written isRead
    obtain ⟨contexts, denotes, gathered⟩ := Json.Document.exists_gathered written
    refine ⟨contexts, gathered, ?_, ?_⟩
    · intro context inner isLast
      obtain ⟨members, innerDenotes, innerGathered⟩ := Json.Document.exists_gathered inner
      refine ⟨members, ?_, innerGathered⟩
      rw [gathered.get?_eq, isLast, Option.map_some, innerDenotes]
    · have isRun : configurator.run sheet =
          configurator.performAll (configurator.plan contexts) := by
        rw [run_of_document isRead, denotes]
        exact applyContexts_eq configurator contexts
      obtain ⟨made, skipped, carries⟩ := exists_carries configurator (configurator.plan contexts)
      rw [← isRun] at carries
      refine ⟨made, skipped, carries, fun context => ⟨?_, ?_⟩⟩
      · rw [← callsOf_plan configurator gathered.sorted, carries.planned_eq, callsOf_append]
      · rw [carries.state_eq, target?_after]
  · intro other document rearranged isRead otherRead isRearranged
    rw [run_of_document isRead, run_of_document otherRead, isRearranged.value_eq]

end Carrying

set_option maxRecDepth 4000 in
/-- Of the settings of a claimed context the first one is unknown and the second one is refused, so
the component is not checked, and the other context is not reached. It is the same with both objects
written the other way round. -/
theorem runs_in_order_of_refused_setting :
    let configurator : Configurator Config := ⟨[("C", {})]⟩
    let sheet := "\x7b\"X\":1,\"C\":\x7b\"nodelay\":1,\"a\":0\x7d\x7d"
    let other := "\x7b\"C\":\x7b\"a\":0,\"nodelay\":1\x7d,\"X\":1\x7d"
    configurator.run other = configurator.run sheet ∧
      (configurator.run sheet).result = .error (.config "nodelay" (.unreadable .notABoolean)) ∧
      (configurator.run sheet).warnings = [.unknownSetting "a"] ∧
      ∃ contexts made skipped, Keyed.Sorted contexts ∧
        Carries configurator (configurator.plan contexts) made skipped
          (configurator.run sheet) := by
  let settings : List (String × Json.Document) :=
    [("nodelay", .number (.natural 1)), ("a", .number (.natural 0))]
  let reordered : List (String × Json.Document) :=
    [("a", .number (.natural 0)), ("nodelay", .number (.natural 1))]
  have isRead : Json.readDocument "\x7b\"X\":1,\"C\":\x7b\"nodelay\":1,\"a\":0\x7d\x7d" =
      .ok (.object [("X", .number (.natural 1)), ("C", .object settings)]) := by
    with_unfolding_all rfl
  have otherRead : Json.readDocument "\x7b\"C\":\x7b\"a\":0,\"nodelay\":1\x7d,\"X\":1\x7d" =
      .ok (.object [("C", .object reordered), ("X", .number (.natural 1))]) := by
    with_unfolding_all rfl
  have isRearranged : (Json.Document.object [("X", .number (.natural 1)),
      ("C", .object settings)]).Rearranged Json.Document.ReordersApart
      (.object [("C", .object reordered), ("X", .number (.natural 1))]) :=
    .trans (.object (.swap (by decide) [] []))
      (.member [] "C" [("X", .number (.natural 1))] (.object (.swap (by decide) [] [])))
  intro configurator sheet other
  obtain ⟨-, -, inOrder, alike⟩ := runs_in_order configurator sheet
  obtain ⟨contexts, gathered, -, made, skipped, carries, -⟩ := inOrder _ isRead
  refine ⟨alike other _ _ isRead otherRead isRearranged, ?_, ?_, contexts, made, skipped,
    gathered.sorted, carries⟩
  · rw [run_of_document isRead]
    with_unfolding_all rfl
  · rw [run_of_document isRead]
    decide +kernel

set_option maxRecDepth 4000 in
/-- If a key comes again in an object, it does make a difference in which order its members are
written: the last one counts. -/
theorem effect_of_repeated_key :
    let configurator : Configurator Config := ⟨[("C", {})]⟩
    let sheet := "\x7b\"C\":\x7b\"nodelay\":true,\"nodelay\":false\x7d\x7d"
    let other := "\x7b\"C\":\x7b\"nodelay\":false,\"nodelay\":true\x7d\x7d"
    ∃ document rearranged, Json.readDocument sheet = .ok document ∧
      Json.readDocument other = .ok rearranged ∧ document.Rearranged List.Perm rearranged ∧
      (configurator.run sheet).state.target? "C" = some { noDelay := false } ∧
      (configurator.run other).state.target? "C" = some { noDelay := true } := by
  let first : String × Json.Document := ("nodelay", .bool true)
  let second : String × Json.Document := ("nodelay", .bool false)
  have isRead : Json.readDocument "\x7b\"C\":\x7b\"nodelay\":true,\"nodelay\":false\x7d\x7d" =
      .ok (.object [("C", .object [first, second])]) := by
    with_unfolding_all rfl
  have otherRead : Json.readDocument "\x7b\"C\":\x7b\"nodelay\":false,\"nodelay\":true\x7d\x7d" =
      .ok (.object [("C", .object [second, first])]) := by
    with_unfolding_all rfl
  intro configurator sheet other
  refine ⟨_, _, isRead, otherRead, .member [] "C" [] (.object (.swap _ _ _)), ?_, ?_⟩
  · rw [run_of_document isRead]
    decide +kernel
  · rw [run_of_document otherRead]
    decide +kernel

end Configurator

end EventTransport
