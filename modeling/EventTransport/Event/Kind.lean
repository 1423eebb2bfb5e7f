import EventTransport.Event.Subscription

/-!
Contract: application-level names for identifiers of events.

Owns:
- `KindVariant`, a named variant of an enumeration with its discriminant;
- `KindVariant.uid`, the identifier of a variant, its discriminant modulo 256;
- `variantOf?`, the variant that an identifier names.

Main statements: the variant found for an identifier has that identifier, and none is found only if
no variant has it.
-/

namespace EventTransport

/-- A variant of an enumeration. An enumeration is the list of its variants as they are declared. -/
structure KindVariant where
  name : String
  discriminant : Int
deriving DecidableEq

namespace KindVariant

/-- The identifier of a variant: the low byte of its discriminant in two's complement. -/
def uid (variant : KindVariant) : Uid := ⟨UInt8.ofNat (variant.discriminant % 256).toNat⟩

/-- The key under which handlers of a variant are registered. -/
def subscription (variant : KindVariant) : Subscription := .uid variant.uid

end KindVariant

/-- The first variant with an identifier, in the order of declaration. -/
def variantOf? (variants : List KindVariant) (uid : Uid) : Option KindVariant :=
  variants.find? fun variant => variant.uid = uid

/-- The variant found for an identifier has that identifier. -/
theorem uid_of_variantOf? {variants : List KindVariant} {uid : Uid} {variant : KindVariant}
    (found : variantOf? variants uid = some variant) : variant.uid = uid := by
  simpa using List.find?_some found

/-- No variant is found exactly if none has the identifier. -/
theorem variantOf?_eq_none_iff {variants : List KindVariant} {uid : Uid} :
    variantOf? variants uid = none ↔ ∀ variant ∈ variants, variant.uid ≠ uid := by
  simp [variantOf?]

end EventTransport
