import EventTransport.Warning

/-!
Contract: components that take settings as text.

Owns:
- `Applied`, what a component is after a setting, with what it had to say;
- `Configurable`, the two calls by which a component is configured.
-/

namespace EventTransport

/-- A component after a call, the records it left, and whether the call succeeded. -/
structure Applied (σ : Type) where
  state : σ
  warnings : List Warning := []
  result : Except Error Unit := .ok ()

/-- A component that takes settings. Each setting is handed over as a key and a text; a component
reads only the keys it knows. After the last setting the component is asked once whether they hold
together. -/
class Configurable (σ : Type) where
  setOption : σ → String → String → Applied σ
  configure : σ → Applied σ

end EventTransport
