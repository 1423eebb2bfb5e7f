import EventTransport.Json.Reader
import EventTransport.Settings.Configurable

/-!
Contract: settings sheets pushed into components.

Owns:
- `Configurator`, components by the context they claimed;
- `Configurator.subscribe`, which gives a context to the first that claims it;
- `Configurator.run`, a sheet handed to the components it mentions.

A sheet is a JSON object whose keys name contexts. Contexts are visited in the byte order of their
names, and so are the settings of a context. The first error ends the run; what was set before it
stays set.
-/

namespace EventTransport

/-- The text of a value that is a setting: texts, truth values and numbers are. -/
def Json.Value.scalar? : Json.Value → Option String
  | .text content => some content
  | .bool true => some "true"
  | .bool false => some "false"
  | .number amount => some amount.text
  | .null => none
  | .array _ => none
  | .object _ => none

/-- Components by the context they claimed, in the order of the claims. -/
structure Configurator (σ : Type) where
  contexts : List (String × σ)

namespace Configurator

variable {σ : Type}

def empty : Configurator σ := ⟨[]⟩

/-- The component that claimed a context. -/
def target? (configurator : Configurator σ) (context : String) : Option σ :=
  configurator.contexts.lookup context

def isSubscribed (configurator : Configurator σ) (context : String) : Bool :=
  (configurator.target? context).isSome

/-- A context claimed for a component, unless it is taken. -/
def subscribe (configurator : Configurator σ) (context : String) (target : σ) :
    Configurator σ × List Warning :=
  if configurator.isSubscribed context then (configurator, [.contextTaken context])
  else (⟨configurator.contexts ++ [(context, target)]⟩, [])

/-- The component of a claimed context replaced. -/
def replace (configurator : Configurator σ) (context : String) (target : σ) : Configurator σ :=
  ⟨configurator.contexts.map fun entry => if entry.1 = context then (context, target) else entry⟩

variable [Configurable σ]

/-- The settings of a context handed over in turn, then the check of the component. -/
def applySettings (context : String) (target : σ) : List (String × Json.Value) → Applied σ
  | [] => Configurable.configure target
  | (key, value) :: rest =>
    match value.scalar? with
    | none =>
      let later := applySettings context target rest
      { later with warnings := .nonScalarSetting context key :: later.warnings }
    | some text =>
      let now := Configurable.setOption target key text
      match now.result with
      | .error _ => now
      | .ok () =>
        let later := applySettings context now.state rest
        { later with warnings := now.warnings ++ later.warnings }

/-- The contexts of a sheet in turn. -/
def applyContexts (configurator : Configurator σ) :
    List (String × Json.Value) → Applied (Configurator σ)
  | [] => { state := configurator }
  | (context, settings) :: rest =>
    match configurator.target? context, settings with
    | none, _ =>
      let later := configurator.applyContexts rest
      { later with warnings := .contextUnclaimed context :: later.warnings }
    | some target, .object members =>
      let now := applySettings context target members
      let changed := configurator.replace context now.state
      match now.result with
      | .error error => { state := changed, warnings := now.warnings, result := .error error }
      | .ok () =>
        let later := changed.applyContexts rest
        { later with warnings := now.warnings ++ later.warnings }
    | some _, _ =>
      let later := configurator.applyContexts rest
      { later with warnings := .contextNotAnObject context :: later.warnings }

/-- A sheet handed to the components it mentions. -/
def run (configurator : Configurator σ) (sheet : String) : Applied (Configurator σ) :=
  match Json.read sheet with
  | .error fault => { state := configurator, result := .error (.json fault) }
  | .ok (.object contexts) => configurator.applyContexts contexts
  | .ok _ => { state := configurator, result := .error (.config "<root>" .sheetNotAnObject) }

end Configurator

end EventTransport
