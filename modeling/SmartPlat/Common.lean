import Mathlib.Data.Int.Notation
import Mathlib.Data.Nat.Notation
import Mathlib.Algebra.GroupWithZero.Nat
import Mathlib.Algebra.Ring.Int.Defs
import Mathlib.Order.Lattice

set_option autoImplicit false

/-! # Return codes shared by all modules (`Include/common.h`) -/

namespace SmartPlat

def keyTrue : ℤ := 0

def keyFalse : ℤ := -1

/-- Ways an operation can end without returning. -/
inductive Fault where
  /-- `assert(0)`: the whole server is aborted. -/
  | assertFail
  /-- An access through a pointer that does not designate the object accessed. -/
  | badAccess
  /-- A loop was still running when the steps allotted to it were used up. -/
  | timeout
  deriving DecidableEq, Repr

/-- A count as an `int` of any width is at most the count. -/
theorem bmod_le_self (n m : ℕ) : (n : ℤ).bmod m ≤ n := by
  have hmod : ((n % m : ℕ) : ℤ) ≤ n := Int.ofNat_le.mpr (Nat.mod_le n m)
  rw [Int.bmod_def, ← Int.natCast_emod]
  split <;> omega

theorem map_eq_ok_iff {ε α β : Type} {f : α → β} {x : Except ε α} {b : β} :
    x.map f = .ok b ↔ ∃ a, x = .ok a ∧ f a = b := by
  cases x with
  | error e => simp [Except.map]
  | ok a => simp [Except.map]

/-- An image is returned exactly when something is. -/
theorem exists_map_eq_ok_iff {ε α β : Type} {f : α → β} {x : Except ε α} :
    (∃ b, x.map f = .ok b) ↔ ∃ a, x = .ok a := by
  cases x with
  | error e => simp [Except.map]
  | ok a => simp [Except.map]

theorem ok_bind {ε α β : Type} {f : α → Except ε β} (a : α) : (Except.ok a).bind f = f a := rfl

theorem bind_eq_ok_iff {ε α β : Type} {f : α → Except ε β} {x : Except ε α} {b : β} :
    x.bind f = .ok b ↔ ∃ a, x = .ok a ∧ f a = .ok b := by
  cases x with
  | error e => simp [Except.bind]
  | ok a => simp [Except.bind]

end SmartPlat
