import EventTransport.Bus.Lookup
import EventTransport.Settings.Configurator

/-!
Contract: what a settings sheet asks for, written down as a list.

Owns:
- `SettingCall` and `SheetStep`, a call of a component and a place of a sheet;
- `Configurator.plan`, all that a sheet asks for, in order;
- `Configurator.perform` and `Configurator.performAll`, steps carried out up to the first failure;
- that a sheet is run as its plan is performed.

Does not own: which steps are carried out, and what they leave.
-/

namespace EventTransport

namespace Configurator

variable {σ : Type}

/-! ### Replaced components -/

theorem target?_replace (configurator : Configurator σ) (context : String) (target : σ)
    (other : String) :
    (configurator.replace context target).target? other =
      if other = context then (configurator.target? context).map fun _ => target
      else configurator.target? other :=
  lookup_replace context other target configurator.contexts

theorem target?_replace_of_claimed {configurator : Configurator σ} {context : String} {target : σ}
    (claimed : configurator.target? context = some target) (changed : σ) :
    (configurator.replace context changed).target? context = some changed := by
  rw [target?_replace, if_pos rfl, claimed]
  rfl

theorem isSubscribed_replace (configurator : Configurator σ) (context : String) (target : σ) :
    (configurator.replace context target).isSubscribed = configurator.isSubscribed := by
  funext other
  unfold isSubscribed
  rw [target?_replace]
  split
  · rename_i same
    rw [Option.isSome_map, same]
  · rfl

/-- Of two replacements of a component the second one counts. -/
theorem replace_replace (configurator : Configurator σ) (context : String) (first second : σ) :
    (configurator.replace context first).replace context second =
      configurator.replace context second := by
  unfold replace
  rw [List.map_map]
  refine congrArg Configurator.mk (List.map_congr_left fun entry _ => ?_)
  by_cases here : entry.1 = context
  · simp [here]
  · simp [here]

end Configurator

/-! ### One call after another -/

namespace Applied

variable {σ : Type}

/-- A call and what goes on from there, unless the call failed. -/
def andThen (now : Applied σ) (next : σ → Applied σ) : Applied σ :=
  match now.result with
  | .error _ => now
  | .ok () =>
    let later := next now.state
    { later with warnings := now.warnings ++ later.warnings }

theorem andThen_of_error {now : Applied σ} {error : Error} (failed : now.result = .error error)
    (next : σ → Applied σ) : now.andThen next = now := by
  unfold andThen
  rw [failed]

theorem andThen_of_ok {now : Applied σ} (succeeded : now.result = .ok ()) (next : σ → Applied σ) :
    now.andThen next =
      { next now.state with warnings := now.warnings ++ (next now.state).warnings } := by
  unfold andThen
  rw [succeeded]

theorem andThen_assoc (now : Applied σ) (next last : σ → Applied σ) :
    (now.andThen next).andThen last = now.andThen fun state => (next state).andThen last := by
  cases succeeded : now.result with
  | error error =>
      rw [andThen_of_error succeeded, andThen_of_error succeeded, andThen_of_error succeeded]
  | ok done =>
      rw [andThen_of_ok succeeded, andThen_of_ok succeeded]
      cases later : (next now.state).result with
      | error error => simp only [andThen, later]
      | ok done => simp only [andThen, later, List.append_assoc]

theorem andThen_congr {now : Applied σ} {next other : σ → Applied σ}
    (same : now.result = .ok () → next now.state = other now.state) :
    now.andThen next = now.andThen other := by
  cases succeeded : now.result with
  | error error => rw [andThen_of_error succeeded, andThen_of_error succeeded]
  | ok done => rw [andThen_of_ok succeeded, andThen_of_ok succeeded, same succeeded]

/-- Nothing is left to be done after a call. -/
theorem andThen_pure (now : Applied σ) : now.andThen (fun state => { state := state }) = now := by
  obtain ⟨state, warnings, result⟩ := now
  cases result with
  | error error => rfl
  | ok done => simp only [andThen, List.append_nil]

/-- What a call of the component that claimed a context means for all of them. -/
def within (now : Applied σ) (configurator : Configurator σ) (context : String) :
    Applied (Configurator σ) :=
  ⟨configurator.replace context now.state, now.warnings, now.result⟩

theorem within_andThen (now : Applied σ) (next : σ → Applied σ) (configurator : Configurator σ)
    (context : String) :
    (now.andThen next).within configurator context =
      (now.within configurator context).andThen fun later =>
        (next now.state).within later context := by
  obtain ⟨state, warnings, result⟩ := now
  cases result with
  | error error => rfl
  | ok done => simp only [within, andThen, Configurator.replace_replace]

end Applied

/-! ### Plans -/

/-- A call that a component can get. -/
inductive SettingCall where
  | set (key text : String)
  | check
deriving DecidableEq

/-- What is done at a place of a sheet: nothing but a record, or a call of the component that
claimed a context. -/
inductive SheetStep where
  | skip (warning : Warning)
  | call (context : String) (call : SettingCall)
deriving DecidableEq

/-- A member of a context. -/
def SheetStep.ofSetting (context : String) (member : String × Json.Value) : SheetStep :=
  match member.2.scalar? with
  | none => .skip (.nonScalarSetting context member.1)
  | some text => .call context (.set member.1 text)

/-- The settings of a context in turn, then the check. -/
def SheetStep.ofSettings (context : String) (members : List (String × Json.Value)) :
    List SheetStep :=
  members.map (SheetStep.ofSetting context) ++ [.call context .check]

namespace Configurator

variable {σ : Type}

/-- A context of a sheet. -/
def contextSteps (configurator : Configurator σ) (entry : String × Json.Value) : List SheetStep :=
  if configurator.isSubscribed entry.1 then
    match entry.2 with
    | .object members => SheetStep.ofSettings entry.1 members
    | _ => [.skip (.contextNotAnObject entry.1)]
  else [.skip (.contextUnclaimed entry.1)]

/-- All that the contexts of a sheet ask for. -/
def plan (configurator : Configurator σ) (contexts : List (String × Json.Value)) : List SheetStep :=
  contexts.flatMap configurator.contextSteps

variable [Configurable σ]

end Configurator

section

variable {σ : Type} [Configurable σ]

def SettingCall.on (target : σ) : SettingCall → Applied σ
  | .set key text => Configurable.setOption target key text
  | .check => Configurable.configure target

namespace Configurator

/-- A call of the component that claimed a context. -/
def callTarget (configurator : Configurator σ) (context : String) (call : SettingCall) :
    Applied (Configurator σ) :=
  match configurator.target? context with
  | none => { state := configurator }
  | some target => (call.on target).within configurator context

def perform (configurator : Configurator σ) : SheetStep → Applied (Configurator σ)
  | .skip warning => { state := configurator, warnings := [warning] }
  | .call context call => configurator.callTarget context call

/-- Steps in turn, up to the first one that fails. -/
def performAll (configurator : Configurator σ) : List SheetStep → Applied (Configurator σ)
  | [] => { state := configurator }
  | step :: rest => (configurator.perform step).andThen fun later => later.performAll rest

theorem callTarget_of_claimed {configurator : Configurator σ} {context : String} {target : σ}
    (claimed : configurator.target? context = some target) (call : SettingCall) :
    configurator.callTarget context call = (call.on target).within configurator context := by
  unfold callTarget
  rw [claimed]

theorem performAll_append (configurator : Configurator σ) (front back : List SheetStep) :
    configurator.performAll (front ++ back) =
      (configurator.performAll front).andThen fun later => later.performAll back := by
  induction front generalizing configurator with
  | nil => rfl
  | cons step rest inductionHypothesis =>
      rw [List.cons_append, performAll, performAll, Applied.andThen_assoc]
      simp only [inductionHypothesis]

/-! ### Sheets -/

theorem applySettings_cons (context : String) (target : σ) (member : String × Json.Value)
    (rest : List (String × Json.Value)) :
    applySettings context target (member :: rest) =
      match member.2.scalar? with
      | none =>
        let later := applySettings context target rest
        { later with warnings := .nonScalarSetting context member.1 :: later.warnings }
      | some text =>
        (Configurable.setOption target member.1 text).andThen fun later =>
          applySettings context later rest := by
  obtain ⟨key, value⟩ := member
  rw [applySettings]
  cases value.scalar? with
  | none => rfl
  | some text => rfl

/-- The settings of a context are handed over as its steps are performed. -/
theorem performAll_ofSettings {configurator : Configurator σ} {context : String} {target : σ}
    (claimed : configurator.target? context = some target) (members : List (String × Json.Value)) :
    configurator.performAll (SheetStep.ofSettings context members) =
      (applySettings context target members).within configurator context := by
  induction members generalizing configurator target with
  | nil =>
      show (configurator.callTarget context .check).andThen _ = _
      rw [callTarget_of_claimed claimed]
      exact Applied.andThen_pure _
  | cons member rest inductionHypothesis =>
      show (configurator.perform (SheetStep.ofSetting context member)).andThen
        (fun later => later.performAll (SheetStep.ofSettings context rest)) = _
      rw [applySettings_cons]
      unfold SheetStep.ofSetting
      cases member.2.scalar? with
      | none =>
          simp only [perform]
          rw [Applied.andThen_of_ok rfl, inductionHypothesis claimed]
          rfl
      | some text =>
          simp only [perform]
          rw [callTarget_of_claimed claimed, Applied.within_andThen]
          -- The settings behind this one meet the component that it left.
          refine Applied.andThen_congr fun _ => ?_
          exact inductionHypothesis (target?_replace_of_claimed claimed _)

omit [Configurable σ] in
theorem plan_replace (configurator : Configurator σ) (context : String) (target : σ) :
    (configurator.replace context target).plan = configurator.plan := by
  have steps : (configurator.replace context target).contextSteps = configurator.contextSteps := by
    funext entry
    unfold contextSteps
    rw [isSubscribed_replace]
  funext contexts
  unfold plan
  rw [steps]

/-- The contexts of a sheet are visited as their plan is performed. -/
theorem applyContexts_eq (configurator : Configurator σ) (contexts : List (String × Json.Value)) :
    configurator.applyContexts contexts = configurator.performAll (configurator.plan contexts) := by
  induction contexts generalizing configurator with
  | nil => rfl
  | cons entry rest inductionHypothesis =>
      obtain ⟨context, settings⟩ := entry
      unfold applyContexts
      show _ = configurator.performAll
        (configurator.contextSteps (context, settings) ++ configurator.plan rest)
      rw [performAll_append]
      unfold contextSteps isSubscribed
      cases claimed : configurator.target? context with
      | none =>
          simp only [inductionHypothesis]
          rfl
      | some target =>
          simp only [Option.isSome_some, if_true]
          cases settings with
          | object members =>
              simp only
              rw [performAll_ofSettings claimed]
              generalize applySettings context target members = now
              obtain ⟨state, warnings, result⟩ := now
              cases result with
              | error error => rfl
              | ok done =>
                  simp only [inductionHypothesis, plan_replace]
                  rfl
          | null | bool value | number amount | text content | array items =>
              simp only [inductionHypothesis]
              rfl

end Configurator

end

end EventTransport
