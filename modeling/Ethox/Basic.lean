import Mathlib

/-!
# Machine words and layer errors

`usize` values of a 64-bit target are `BitVec 64`. Besides wrapping `+`, the core uses
`saturating_sub`, `checked_add` and `Ord::min` on them; each has its exact `Nat` reading
here, so that counter arithmetic is argued in `Nat` and overflow is visible only where a
wrapping `+` is executed. The error taxonomy is the one every layer returns.
-/

namespace Ethox

/-- `usize` on a 64-bit target. -/
abbrev Usize := BitVec 64

namespace Usize

/-- `usize::saturating_sub`. -/
def saturatingSub (a b : Usize) : Usize := if b ≤ a then a - b else 0

/-- `usize::checked_add`: `none` exactly when the sum does not fit. -/
def checkedAdd (a b : Usize) : Option Usize :=
  if a.toNat + b.toNat < 2 ^ 64 then some (a + b) else none

/-- `Ord::min` on `usize`: the first argument unless the second is strictly smaller. -/
def min (a b : Usize) : Usize := if a ≤ b then a else b

/-- Saturating subtraction is truncated subtraction of the values. -/
@[simp] theorem toNat_saturatingSub (a b : Usize) :
    (saturatingSub a b).toNat = a.toNat - b.toNat := by
  unfold saturatingSub
  split <;> bv_omega

/-- The minimum of two words is the minimum of their values. -/
@[simp] theorem toNat_min (a b : Usize) : (min a b).toNat = Min.min a.toNat b.toNat := by
  unfold min
  split <;> bv_omega

/-- A word is nonzero exactly when its value is positive. -/
theorem toNat_pos {a : Usize} : 0 < a.toNat ↔ a ≠ 0 := by
  constructor <;> intro h <;> bv_omega

/-- A sum that fits is computed exactly. -/
theorem toNat_add_of_lt {a b : Usize} (fits : a.toNat + b.toNat < 2 ^ 64) :
    (a + b).toNat = a.toNat + b.toNat := by
  bv_omega

/-- `checked_add` fails exactly on overflow, and otherwise returns the exact sum. -/
theorem checkedAdd_eq_some {a b c : Usize} :
    checkedAdd a b = some c ↔ a.toNat + b.toNat < 2 ^ 64 ∧ c.toNat = a.toNat + b.toNat := by
  unfold checkedAdd
  split
  · constructor
    · rintro ⟨⟩
      exact ⟨‹_›, toNat_add_of_lt ‹_›⟩
    · rintro ⟨fits, value⟩
      exact congrArg some (BitVec.eq_of_toNat_eq (by rw [value, toNat_add_of_lt fits]))
  · simp only [reduceCtorEq, false_iff, not_and]
    intro fits
    contradiction

/-- `checked_add` has no result exactly when the sum overflows. -/
theorem checkedAdd_eq_none {a b : Usize} :
    checkedAdd a b = none ↔ 2 ^ 64 ≤ a.toNat + b.toNat := by
  unfold checkedAdd
  split <;> simp <;> omega

end Usize

/-- `layer::Error`. -/
inductive Error where
  /-- The operation was not permitted. -/
  | illegal
  /-- Not enough space for the requested packet. -/
  | badSize
  /-- Unable to find a route towards the destination address. -/
  | unreachable
  /-- Not enough resources to complete the action. -/
  | exhausted
deriving DecidableEq, Repr

/-- `layer::Result`. -/
abbrev Result (α : Type) := Except Error α

/-- Results are equal when they are the same variant with equal contents. -/
instance instDecidableEqResult {α : Type} [DecidableEq α] : DecidableEq (Result α)
  | .ok a, .ok b => decidable_of_iff (a = b) ⟨congrArg _, Except.ok.inj⟩
  | .error a, .error b => decidable_of_iff (a = b) ⟨congrArg _, Except.error.inj⟩
  | .ok _, .error _ => isFalse (by intro same; cases same)
  | .error _, .ok _ => isFalse (by intro same; cases same)

end Ethox
