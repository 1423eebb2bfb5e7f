/-!
Contract: the status that an event carries, the third byte of its frames.

Owns:
- `Feedback`, the named codes and those of the application;
- the byte of a status and the status of a byte, and the order of statuses.

Main statements: a byte is the byte of the status it is read as, and a status is read back from its
byte unless it gives the number of a named code.
-/

namespace EventTransport

/-- The status carried by an event. -/
inductive Feedback where
  | unassigned
  | ok
  | error
  | invalidRequest
  | sanityCheck
  /-- A code of the application. -/
  | other (code : UInt8)
deriving DecidableEq, Inhabited

namespace Feedback

def code : Feedback → UInt8
  | unassigned => 0
  | ok => 1
  | error => 2
  | invalidRequest => 3
  | sanityCheck => 4
  | other code => code

/-- The status of a byte, a named one if there is one. -/
def ofCode (code : UInt8) : Feedback :=
  if code = 0 then unassigned
  else if code = 1 then ok
  else if code = 2 then error
  else if code = 3 then invalidRequest
  else if code = 4 then sanityCheck
  else other code

/-- The status as it is read from its own byte. -/
def normalized (feedback : Feedback) : Feedback := ofCode feedback.code

def text : Feedback → String
  | unassigned => "Unassigned"
  | ok => "Ok"
  | error => "Error"
  | invalidRequest => "InvalidRequest"
  | sanityCheck => "SanityCheck"
  | other code => "Other(" ++ toString code.toNat ++ ")"

/-- The place of a status among its kind: named ones in turn, then those of the application. -/
def rank : Feedback → Nat
  | unassigned => 0
  | ok => 1
  | error => 2
  | invalidRequest => 3
  | sanityCheck => 4
  | other code => 5 + code.toNat

/-- Statuses in the order of their places. -/
def order (left right : Feedback) : Ordering := compare left.rank right.rank

@[simp] theorem code_ofCode (code : UInt8) : (ofCode code).code = code := by
  unfold ofCode
  repeat' split
  all_goals first | rfl | (rename_i same; exact same.symm)

/-- Whether a status has the form in which bytes are read. -/
def IsNormal : Feedback → Prop
  | other code => 4 < code.toNat
  | _ => True

/-- Exactly the statuses in normal form are read back from their bytes. -/
theorem normalized_eq_self_iff {feedback : Feedback} :
    feedback.normalized = feedback ↔ feedback.IsNormal := by
  cases feedback with
  | other code =>
    constructor
    · intro same
      simp only [normalized, Feedback.code, ofCode] at same
      simp only [IsNormal]
      apply Decidable.byContradiction
      intro small
      have bound : code.toNat < 5 := by omega
      have cases : code = 0 ∨ code = 1 ∨ code = 2 ∨ code = 3 ∨ code = 4 := by
        simp only [← UInt8.toNat_inj]
        simp
        omega
      rcases cases with rfl | rfl | rfl | rfl | rfl <;> simp at same
    · intro large
      simp only [IsNormal] at large
      have apart (value : UInt8) (small : value.toNat ≤ 4) : ¬code = value := by
        intro same
        rw [same] at large
        omega
      show ofCode code = other code
      unfold ofCode
      rw [if_neg (apart 0 (by decide)), if_neg (apart 1 (by decide)), if_neg (apart 2 (by decide)),
        if_neg (apart 3 (by decide)), if_neg (apart 4 (by decide))]
  | _ => simp [normalized, Feedback.code, IsNormal, ofCode]

end Feedback

end EventTransport
