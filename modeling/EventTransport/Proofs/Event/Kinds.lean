import EventTransport.Event.KindDeclaration
import Mathlib.Data.List.Nodup

/-!
Contract: kinds of events against their identifiers.

Owns:
- `KindVariant.IsFirst`, the variant that an identifier names, by its place in the declaration;
- that variants are found again by their identifiers exactly if their discriminants differ modulo
  256.

Discriminants differ, since no enumeration has two variants with the same one; but only the low byte
of a discriminant is an identifier.

Does not own: where handlers are registered.
-/

namespace EventTransport

namespace KindVariant

/-- The identifier of a variant is its discriminant modulo 256. -/
theorem uid_value (variant : KindVariant) :
    (variant.uid.value.toNat : Int) = variant.discriminant % 256 := by
  show ((UInt8.ofNat (variant.discriminant % 256).toNat).toNat : Int) = _
  rw [UInt8.toNat_ofNat']
  omega

theorem uid_eq_iff {left right : KindVariant} :
    left.uid = right.uid ↔ left.discriminant % 256 = right.discriminant % 256 := by
  rw [← left.uid_value, ← right.uid_value, Int.natCast_inj, UInt8.toNat_inj]
  exact ⟨congrArg Uid.value, congrArg Uid.mk⟩

theorem subscription_eq_iff {left right : KindVariant} :
    left.subscription = right.subscription ↔ left.uid = right.uid :=
  ⟨Subscription.uid.inj, congrArg Subscription.uid⟩

/-- The discriminants differ, and not only in what is a multiple of 256. -/
def Apart (variants : List KindVariant) : Prop :=
  (variants.map fun variant => variant.discriminant % 256).Nodup

/-- A variant with an identifier that no variant declared before it has. -/
def IsFirst (uid : Uid) (variants : List KindVariant) (variant : KindVariant) : Prop :=
  ∃ front back, variants = front ++ variant :: back ∧ variant.uid = uid ∧
    ∀ earlier ∈ front, earlier.uid ≠ uid

end KindVariant

open KindVariant

/-- The first variant with an identifier is the one that it names. -/
theorem variantOf?_eq_some_iff {variants : List KindVariant} {uid : Uid} {variant : KindVariant} :
    variantOf? variants uid = some variant ↔ IsFirst uid variants variant := by
  unfold variantOf? IsFirst
  rw [List.find?_eq_some_iff_append]
  constructor
  · rintro ⟨has, front, back, split, others⟩
    exact ⟨front, back, split, by simpa using has, fun earlier member => by
      simpa using others earlier member⟩
  · rintro ⟨front, back, split, has, others⟩
    exact ⟨by simpa using has, front, back, split, fun earlier member => by
      simpa using others earlier member⟩

theorem variantOf?_cons (head : KindVariant) (rest : List KindVariant) (uid : Uid) :
    variantOf? (head :: rest) uid = if head.uid = uid then some head else variantOf? rest uid := by
  unfold variantOf?
  rw [List.find?_cons]
  by_cases has : head.uid = uid <;> simp [has]

/-- Different variants are all found again by their identifiers exactly if these are apart. -/
theorem forall_variantOf?_uid_iff {variants : List KindVariant} (different : variants.Nodup) :
    (∀ variant ∈ variants, variantOf? variants variant.uid = some variant) ↔ Apart variants := by
  induction variants with
  | nil => exact ⟨fun _ => List.Pairwise.nil, fun _ variant none => nomatch none⟩
  | cons head rest inductionHypothesis =>
      obtain ⟨new, different⟩ := List.nodup_cons.mp different
      unfold Apart
      rw [List.map_cons, List.nodup_cons, List.forall_mem_cons]
      have later (variant : KindVariant) (member : variant ∈ rest) :
          variantOf? (head :: rest) variant.uid = some variant ↔
            ¬head.uid = variant.uid ∧ variantOf? rest variant.uid = some variant := by
        rw [variantOf?_cons]
        by_cases hidden : head.uid = variant.uid
        · -- The head hides it, and is another variant.
          have other : head ≠ variant := fun same => new (same ▸ member)
          simp [hidden, other]
        · simp [hidden]
      constructor
      · rintro ⟨-, found⟩
        refine ⟨fun hidden => ?_, (inductionHypothesis different).mp fun variant member =>
          ((later variant member).mp (found variant member)).2⟩
        obtain ⟨variant, member, same⟩ := List.mem_map.mp hidden
        exact ((later variant member).mp (found variant member)).1 (uid_eq_iff.mpr same.symm)
      · rintro ⟨notHidden, apart⟩
        refine ⟨(variantOf?_cons head rest head.uid).trans (if_pos rfl), fun variant member => ?_⟩
        refine (later variant member).mpr
          ⟨fun same => ?_, (inductionHypothesis different).mpr apart variant member⟩
        exact notHidden (List.mem_map.mpr ⟨variant, member, (uid_eq_iff.mp same).symm⟩)

/-- Different variants have different keys exactly if their identifiers are apart. -/
theorem forall_subscription_ne_iff {variants : List KindVariant} (different : variants.Nodup) :
    (∀ left ∈ variants, ∀ right ∈ variants, left ≠ right → left.subscription ≠ right.subscription) ↔
      Apart variants := by
  constructor
  · intro ofDifferent
    refine different.map_on fun left inLeft right inRight same => ?_
    by_contra other
    exact ofDifferent left inLeft right inRight other
      (subscription_eq_iff.mpr (uid_eq_iff.mpr same))
  · intro apart left inLeft right inRight other same
    exact other (List.inj_on_of_nodup_map apart inLeft inRight
      (uid_eq_iff.mp (subscription_eq_iff.mp same)))

/-- **Kinds are named by the low bytes of their discriminants.** In every enumeration that is
accepted, which is one of variants without fields, the identifier of a variant is its discriminant
modulo 256; an identifier names the variant declared first among those that have it, which has it
indeed, and nothing if there is none. All variants are named by their own identifiers exactly if no
two discriminants are the same modulo 256, and only then do handlers of different kinds stand under
different keys. -/
theorem named_by_low_bytes {declaration : KindDeclaration} {variants : List KindVariant}
    (accepted : declaration.kinds = .ok variants)
    (distinct : (variants.map KindVariant.discriminant).Nodup) :
    (∃ declared, declaration.sort = .enumeration declared ∧ declaration.parameters = [] ∧
      (∀ variant ∈ declared, variant.fields = .unit) ∧ variants = numbered 0 declared) ∧
    (∀ variant ∈ variants, (variant.uid.value.toNat : Int) = variant.discriminant % 256) ∧
    (∀ uid variant, variantOf? variants uid = some variant ↔ IsFirst uid variants variant) ∧
    (∀ uid, variantOf? variants uid = none ↔ ∀ variant ∈ variants, variant.uid ≠ uid) ∧
    (∀ uid variant, variantOf? variants uid = some variant → variant.uid = uid) ∧
    ((∀ variant ∈ variants, variantOf? variants variant.uid = some variant) ↔ Apart variants) ∧
    ((∀ left ∈ variants, ∀ right ∈ variants, left ≠ right →
      left.subscription ≠ right.subscription) ↔ Apart variants) := by
  have different : variants.Nodup := distinct.of_map _
  exact ⟨KindDeclaration.kinds_eq_ok_iff.mp accepted, fun variant _ => variant.uid_value,
    fun _ _ => variantOf?_eq_some_iff, fun _ => variantOf?_eq_none_iff,
    fun _ _ => uid_of_variantOf?, forall_variantOf?_uid_iff different,
    forall_subscription_ne_iff different⟩

/-- An enumeration whose discriminants go beyond a byte on both sides. -/
def KindDeclaration.wide : KindDeclaration where
  name := "Wide"
  sort := .enumeration [
    { name := "Below", written := some (-1) }, { name := "Low" }, { name := "Next" },
    { name := "High", written := some 257 }, { name := "Above" }]

/-- Numbers go on from -1 and from 257, and the fourth variant has the identifier of the third. -/
theorem named_by_low_bytes_of_wide :
    ∃ variants, KindDeclaration.wide.kinds = .ok variants ∧
      variants.map KindVariant.discriminant = [-1, 0, 1, 257, 258] ∧
      variants.map (fun variant => variant.uid.value) = [255, 0, 1, 1, 2] ∧
      variantOf? variants ⟨1⟩ = some ⟨"Next", 1⟩ ∧
      ¬∀ variant ∈ variants, variantOf? variants variant.uid = some variant := by
  let variants : List KindVariant :=
    [⟨"Below", -1⟩, ⟨"Low", 0⟩, ⟨"Next", 1⟩, ⟨"High", 257⟩, ⟨"Above", 258⟩]
  have accepted : KindDeclaration.wide.kinds = .ok variants := rfl
  have distinct : (variants.map KindVariant.discriminant).Nodup := by decide
  obtain ⟨-, -, named, -, -, found, -⟩ := named_by_low_bytes accepted distinct
  refine ⟨variants, accepted, rfl, by decide, (named ⟨1⟩ ⟨"Next", 1⟩).mpr ?_, fun all => ?_⟩
  · exact ⟨[⟨"Below", -1⟩, ⟨"Low", 0⟩], [⟨"High", 257⟩, ⟨"Above", 258⟩], rfl, rfl, by decide⟩
  · exact absurd (found.mp all) (by unfold Apart; decide)

end EventTransport
