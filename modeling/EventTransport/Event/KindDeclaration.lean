import EventTransport.Event.Kind

/-!
Contract: declared types whose variants are to name kinds of events.

Owns:
- `KindDeclaration`, a type as it is declared;
- `KindDeclaration.kinds`, the variants with their discriminants, and `KindFault`, why there are
  none.

Only an enumeration without parameters names kinds, and none of its variants may carry fields. The
first variant that does is the one at fault.

Main statements: which declarations are accepted, and that any variants are those of a declaration.

Does not own: identifiers.
-/

namespace EventTransport

/-- What a declared variant carries. -/
inductive VariantFields where
  | unit
  | positional
  | named
deriving DecidableEq

/-- A variant as it is declared. -/
structure DeclaredVariant where
  name : String
  fields : VariantFields := .unit
  /-- The discriminant, if it is written down. -/
  written : Option Int := none

def DeclaredVariant.hasFields (variant : DeclaredVariant) : Bool := variant.fields ≠ .unit

inductive DeclaredSort where
  | enumeration (variants : List DeclaredVariant)
  | record
  | union

/-- A declared type that is to name kinds of events. -/
structure KindDeclaration where
  name : String
  parameters : List String := []
  sort : DeclaredSort

/-- Why a declared type names no kinds, with the part of the declaration that is at fault. -/
inductive KindFault where
  | notAnEnumeration (name : String)
  | generic (parameters : List String)
  | variantWithFields (name : String)
deriving DecidableEq

def KindFault.message : KindFault → String
  | notAnEnumeration _ => "EventKind can only be derived for enums"
  | generic _ => "EventKind enums cannot be generic"
  | variantWithFields _ => "EventKind variants must not carry fields"

/-- Variants with their discriminants: what is written down, or the number that comes next, which is
one more than the discriminant before. -/
def numbered : Int → List DeclaredVariant → List KindVariant
  | _, [] => []
  | next, variant :: rest =>
    let discriminant := variant.written.getD next
    ⟨variant.name, discriminant⟩ :: numbered (discriminant + 1) rest

namespace KindDeclaration

/-- The variants that name kinds. -/
def kinds (declaration : KindDeclaration) : Except KindFault (List KindVariant) :=
  match declaration.sort with
  | .record => .error (.notAnEnumeration declaration.name)
  | .union => .error (.notAnEnumeration declaration.name)
  | .enumeration variants =>
    if declaration.parameters.isEmpty then
      match variants.find? DeclaredVariant.hasFields with
      | some variant => .error (.variantWithFields variant.name)
      | none => .ok (numbered 0 variants)
    else .error (.generic declaration.parameters)

/-- A declaration is accepted exactly if it is an enumeration without parameters and fields. -/
theorem kinds_eq_ok_iff {declaration : KindDeclaration} {kinds : List KindVariant} :
    declaration.kinds = .ok kinds ↔
      ∃ variants, declaration.sort = .enumeration variants ∧ declaration.parameters = [] ∧
        (∀ variant ∈ variants, variant.fields = .unit) ∧ kinds = numbered 0 variants := by
  unfold KindDeclaration.kinds
  cases declaration.sort with
  | record => simp
  | union => simp
  | enumeration variants =>
      cases parameters : declaration.parameters with
      | cons parameter parameters => simp
      | nil =>
          simp only [List.isEmpty_nil, if_true, true_and, DeclaredSort.enumeration.injEq,
            exists_eq_left']
          cases found : variants.find? DeclaredVariant.hasFields with
          | some variant =>
              have carries : variant.fields ≠ .unit := by
                simpa [DeclaredVariant.hasFields] using List.find?_some found
              simp only [reduceCtorEq, false_iff]
              rintro ⟨units, -⟩
              exact carries (units variant (List.mem_of_find?_eq_some found))
          | none =>
              have units : ∀ variant ∈ variants, variant.fields = .unit := by
                simpa [DeclaredVariant.hasFields] using List.find?_eq_none.mp found
              simp only [Except.ok.injEq]
              exact ⟨fun same => ⟨units, same.symm⟩, fun facts => facts.2.symm⟩

/-- An enumeration with all discriminants written down. -/
def ofKinds (name : String) (kinds : List KindVariant) : KindDeclaration :=
  { name := name
    sort := .enumeration (kinds.map fun kind =>
      { name := kind.name, written := some kind.discriminant }) }

theorem kinds_ofKinds (name : String) (kinds : List KindVariant) :
    (ofKinds name kinds).kinds = .ok kinds := by
  have numbers (next : Int) : numbered next
      (kinds.map fun kind => { name := kind.name, written := some kind.discriminant }) = kinds := by
    induction kinds generalizing next with
    | nil => rfl
    | cons kind kinds inductionHypothesis => exact congrArg _ (inductionHypothesis _)
  refine kinds_eq_ok_iff.mpr ⟨_, rfl, rfl, fun variant member => ?_, (numbers 0).symm⟩
  obtain ⟨kind, -, rfl⟩ := List.mem_map.mp member
  rfl

end KindDeclaration

end EventTransport
