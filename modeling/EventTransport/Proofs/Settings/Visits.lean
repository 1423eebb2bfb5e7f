import EventTransport.Proofs.Json.Writing
import EventTransport.Proofs.Settings.Sheets

/-!
Contract: what the run of a sheet does to one component among others.

Owns:
- components of two kinds side by side, each called as what it is;
- `Configurator.Visits`, a run as it is for the component of one context;
- sheets with a single setting, from their characters to what they leave.

Does not own: what components make of settings.
-/

namespace EventTransport

/-! ### Components of two kinds -/

namespace Applied

variable {σ τ : Type}

/-- A call of a component that is held as something else. -/
def map (hold : σ → τ) (applied : Applied σ) : Applied τ :=
  ⟨hold applied.state, applied.warnings, applied.result⟩

theorem map_andThen (hold : σ → τ) (now : Applied σ) {next : σ → Applied σ} {held : τ → Applied τ}
    (same : ∀ state, held (hold state) = (next state).map hold) :
    (now.map hold).andThen held = (now.andThen next).map hold := by
  obtain ⟨state, warnings, result⟩ := now
  cases result with
  | error error => rfl
  | ok done => simp only [map, andThen, same]

end Applied

section

variable {σ τ : Type} [Configurable σ] [Configurable τ]

instance : Configurable (σ ⊕ τ) where
  setOption target key text :=
    match target with
    | .inl target => (Configurable.setOption target key text).map .inl
    | .inr target => (Configurable.setOption target key text).map .inr
  configure target :=
    match target with
    | .inl target => (Configurable.configure target).map .inl
    | .inr target => (Configurable.configure target).map .inr

theorem Configurator.applySettings_inl (context : String) (target : σ)
    (members : List (String × Json.Value)) :
    applySettings context (.inl target : σ ⊕ τ) members =
      (applySettings context target members).map .inl := by
  induction members generalizing target with
  | nil => rfl
  | cons member rest inductionHypothesis =>
      rw [applySettings_cons, applySettings_cons]
      cases member.2.scalar? with
      | none =>
          simp only [inductionHypothesis]
          rfl
      | some text =>
          exact Applied.map_andThen Sum.inl _ inductionHypothesis

end

/-! ### Sheets as they are read -/

/-- The members of an object that has been read stand in the order of their keys, and so do those of
the objects in it. -/
theorem Json.sorted_of_read {sheet : String} {contexts : List (String × Json.Value)}
    (isRead : Json.read sheet = .ok (.object contexts)) :
    Keyed.Sorted contexts ∧ ∀ context members,
      Keyed.get? context contexts = some (.object members) → Keyed.Sorted members := by
  have gathered {document : Document} {members : List (String × Value)}
      (denotes : document.value = .object members) :
      ∃ written, Gathered written members := by
    cases document with
    | object written =>
        obtain ⟨others, same, gathered⟩ := Document.exists_gathered written
        cases same.symm.trans denotes
        exact ⟨written, gathered⟩
    | null | bool value | number amount | text content | array items => cases denotes
  unfold Json.read at isRead
  cases read : readDocument sheet with
  | error fault =>
      rw [read] at isRead
      cases isRead
  | ok document =>
      rw [read] at isRead
      obtain ⟨written, outer⟩ := gathered (Except.ok.inj isRead)
      refine ⟨outer.sorted, fun context members found => ?_⟩
      rw [outer.get?_eq] at found
      obtain ⟨inner, _, denotes⟩ := Option.map_eq_some_iff.mp found
      obtain ⟨_, inner⟩ := gathered denotes
      exact inner.sorted

namespace Configurator

variable {σ : Type} [Configurable σ]

/-- Settings handed over to a component in turn, up to the first that it refuses, then the check:
what becomes of the component, and of the settings. Values without a text are left out. -/
inductive Hands : σ → List (String × Json.Value) → σ → Except Error Unit → Prop
  | check (target : σ) :
      Hands target [] (Configurable.configure target).state (Configurable.configure target).result
  | skip {target last : σ} {outcome : Except Error Unit} {member : String × Json.Value}
      {rest : List (String × Json.Value)} (noText : member.2.scalar? = none)
      (later : Hands target rest last outcome) : Hands target (member :: rest) last outcome
  | refuse {target : σ} {member : String × Json.Value} (rest : List (String × Json.Value))
      {text : String} (isText : member.2.scalar? = some text) {error : Error}
      (failed : (Configurable.setOption target member.1 text).result = .error error) :
      Hands target (member :: rest) (Configurable.setOption target member.1 text).state
        (.error error)
  | set {target last : σ} {outcome : Except Error Unit} {member : String × Json.Value}
      {rest : List (String × Json.Value)} {text : String} (isText : member.2.scalar? = some text)
      (taken : (Configurable.setOption target member.1 text).result = .ok ())
      (later : Hands (Configurable.setOption target member.1 text).state rest last outcome) :
      Hands target (member :: rest) last outcome

theorem hands_applySettings (context : String) (target : σ) (members : List (String × Json.Value)) :
    Hands target members (applySettings context target members).state
      (applySettings context target members).result := by
  induction members generalizing target with
  | nil => exact .check target
  | cons member rest inductionHypothesis =>
      rw [applySettings_cons]
      cases isText : member.2.scalar? with
      | none => exact .skip isText (inductionHypothesis target)
      | some text =>
          cases taken : (Configurable.setOption target member.1 text).result with
          | error error =>
              simp only [Applied.andThen_of_error taken, taken]
              exact .refuse rest isText taken
          | ok done =>
              simp only [Applied.andThen_of_ok taken]
              exact .set isText taken (inductionHypothesis _)

/-- What a sheet does to the component of a context: it passes it over, which it does not do to a
context that it has settings for unless it fails; or the settings are handed over, and if one of
them or the check fails, the sheet fails with that. -/
inductive Visits (contexts : List (String × Json.Value)) (context : String) (target : σ)
    (applied : Applied (Configurator σ)) : Prop
  | passes (same : applied.state.target? context = some target)
      (absent : applied.result = .ok () →
        ∀ members, Keyed.get? context contexts ≠ some (.object members))
  | pushes {members : List (String × Json.Value)}
      (present : Keyed.get? context contexts = some (.object members))
      (pushed : applied.state.target? context = some (applySettings context target members).state)
      (fails : ∀ error, (applySettings context target members).result = .error error →
        applied.result = .error error)

/-- Contexts in front do not matter if they are others. -/
theorem Visits.widen {contexts rest : List (String × Json.Value)} {context : String} {target : σ}
    {applied other : Applied (Configurator σ)} (visits : Visits rest context target applied)
    (found : Keyed.get? context contexts = Keyed.get? context rest)
    (state : other.state = applied.state) (result : other.result = applied.result) :
    Visits contexts context target other := by
  cases visits with
  | passes same absent =>
      exact .passes (state ▸ same) fun succeeded => found ▸ absent (result ▸ succeeded)
  | pushes present pushed fails =>
      exact .pushes (found ▸ present) (state ▸ pushed) fun error failed =>
        result ▸ fails error failed

/-- Contexts that do not mention a component leave it as it is. -/
theorem Visits.target?_eq {contexts : List (String × Json.Value)} {context : String} {target : σ}
    {applied : Applied (Configurator σ)} (visits : Visits contexts context target applied)
    (absent : Keyed.get? context contexts = none) :
    applied.state.target? context = some target := by
  cases visits with
  | passes same _ => exact same
  | pushes present _ _ =>
      rw [absent] at present
      cases present

section AppliedContexts

variable {configurator : Configurator σ} {context : String} {target : σ}
  {rest : List (String × Json.Value)}

/-- The context comes first, and not again. -/
theorem visits_head (claimed : configurator.target? context = some target) (settings : Json.Value)
    (absent : Keyed.get? context rest = none)
    (later : ∀ {configurator : Configurator σ} {target : σ},
      configurator.target? context = some target →
      Visits rest context target (configurator.applyContexts rest)) :
    Visits ((context, settings) :: rest) context target
      (configurator.applyContexts ((context, settings) :: rest)) := by
  have found : Keyed.get? context ((context, settings) :: rest) = some settings := if_pos rfl
  unfold applyContexts
  rw [claimed]
  cases settings with
  | object members =>
      simp only
      have changed := target?_replace_of_claimed claimed
        (applySettings context target members).state
      cases outcome : (applySettings context target members).result with
      | error error => exact .pushes found changed fun _ failed => failed.symm.trans outcome ▸ rfl
      | ok done =>
          refine .pushes found ((later changed).target?_eq absent) fun error failed => ?_
          rw [outcome] at failed
          cases failed
  | null | bool value | number amount | text content | array items =>
      refine .passes ((later claimed).target?_eq absent) fun _ members present => ?_
      rw [found] at present
      cases present

/-- Another context comes first. -/
theorem visits_tail (claimed : configurator.target? context = some target) {other : String}
    (settings : Json.Value) (apart : context ≠ other)
    (later : ∀ {configurator : Configurator σ}, configurator.target? context = some target →
      Visits rest context target (configurator.applyContexts rest)) :
    Visits ((other, settings) :: rest) context target
      (configurator.applyContexts ((other, settings) :: rest)) := by
  have found : Keyed.get? context ((other, settings) :: rest) = Keyed.get? context rest :=
    if_neg apart
  unfold applyContexts
  cases configurator.target? other with
  | none => exact (later claimed).widen found rfl rfl
  | some component =>
      cases settings with
      | object members =>
          simp only
          have still : (configurator.replace other
              (applySettings other component members).state).target? context = some target := by
            rw [target?_replace, if_neg apart, claimed]
          cases (applySettings other component members).result with
          | error error => exact .passes still fun succeeded => nomatch succeeded
          | ok done => exact (later still).widen found rfl rfl
      | null | bool value | number amount | text content | array items =>
          exact (later claimed).widen found rfl rfl

end AppliedContexts

theorem visits_applyContexts {configurator : Configurator σ} {context : String} {target : σ}
    (claimed : configurator.target? context = some target) {contexts : List (String × Json.Value)}
    (sorted : Keyed.Sorted contexts) :
    Visits contexts context target (configurator.applyContexts contexts) := by
  induction contexts generalizing configurator target with
  | nil => exact .passes claimed fun _ _ found => nomatch found
  | cons entry rest inductionHypothesis =>
      obtain ⟨other, settings⟩ := entry
      obtain ⟨above, sortedRest⟩ := List.pairwise_cons.mp sorted
      by_cases here : context = other
      · subst here
        exact visits_head claimed settings (Keyed.get?_eq_none_of_before above)
          fun claimed => inductionHypothesis claimed sortedRest
      · exact visits_tail claimed settings here fun claimed =>
          inductionHypothesis claimed sortedRest

theorem visits_run {configurator : Configurator σ} {context : String} {target : σ}
    (claimed : configurator.target? context = some target) {sheet : String}
    {contexts : List (String × Json.Value)} (isRead : Json.read sheet = .ok (.object contexts)) :
    Visits contexts context target (configurator.run sheet) := by
  unfold run
  rw [isRead]
  exact visits_applyContexts claimed (Json.sorted_of_read isRead).1

/-- A sheet with a single setting, for a context that is claimed. -/
theorem run_objectOf {configurator : Configurator σ} {context key text : String}
    {target changed : σ}
    (claimed : configurator.target? context = some target) {outer inner written : List Char}
    (quotesOuter : Json.Quotes outer context) (quotesInner : Json.Quotes inner key)
    {document : Json.Document}
    (writes : ∀ calls depth, Json.Writes (calls + 1) depth written document)
    (isText : document.value.scalar? = some text)
    (sets : Configurable.setOption target key text = { state := changed }) :
    configurator.run (String.ofList (Json.objectOf outer (Json.objectOf inner written))) =
      (Configurable.configure changed).within configurator context := by
  have isRead := Json.readDocument_objectOf quotesOuter quotesInner writes
  rw [run_of_document isRead]
  show configurator.applyContexts [(context, .object [(key, document.value)])] = _
  have settings : applySettings context target [(key, document.value)] =
      Configurable.configure changed := by
    rw [applySettings_cons, isText]
    simp only [sets, Applied.andThen]
    rfl
  unfold applyContexts
  rw [claimed]
  simp only [settings, applyContexts]
  cases outcome : (Configurable.configure changed).result with
  | error error => simp only [Applied.within, outcome]
  | ok done => simp only [Applied.within, outcome, List.append_nil]

end Configurator

end EventTransport
