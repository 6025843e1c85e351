/-
**Weights that fall linearly with a score.**

The arithmetic of drawing one of `n` entries with weight `a - c * y` for a score `y`, over any
ordered field:

* `sum_shift_mean` — shifting a list by minus its mean makes it sum to zero;
* `sum_map_affine` — the weights sum to `n * a - c * Σ y`, so to `n * a` over zero-sum scores;
* `affine_nonneg` — a weight is at least `a - c * m` for every score below `m`;
* `le_getLast_of_pairwise` — in a list sorted by a key, no key exceeds the last one.
-/

import Mathlib.Algebra.Order.Field.Basic
import Mathlib.Algebra.BigOperators.Group.List.Basic
import Mathlib.Algebra.Order.BigOperators.Group.List
import Mathlib.Data.List.Pairwise
import Mathlib.Tactic.FieldSimp
import Mathlib.Tactic.Linarith
import Mathlib.Tactic.Ring

set_option linter.unusedSectionVars false

namespace Weights

section Field

variable {F : Type} [Field F] [CharZero F]

/-- A left fold that adds up a key is the sum of the keys. -/
theorem foldl_add_eq_sum {α : Type} (key : α → F) (start : F) (xs : List α) :
    xs.foldl (fun sum entry => sum + key entry) start = start + (xs.map key).sum := by
  induction xs generalizing start with
  | nil => simp
  | cons x xs ih =>
    rw [List.foldl_cons, ih, List.map_cons, List.sum_cons]
    ring

theorem sum_map_add_const (xs : List F) (shift : F) :
    (xs.map (· + shift)).sum = xs.sum + xs.length * shift := by
  induction xs with
  | nil => simp
  | cons x xs ih =>
    rw [List.map_cons, List.sum_cons, ih, List.sum_cons, List.length_cons, Nat.cast_succ]
    ring

/-- **Mean shift**: a list shifted by minus its mean sums to zero. -/
theorem sum_shift_mean (xs : List F) : (xs.map (· + -xs.sum / xs.length)).sum = 0 := by
  rw [sum_map_add_const]
  rcases Nat.eq_zero_or_pos xs.length with empty | nonempty
  · rw [List.length_eq_zero_iff.mp empty]
    simp
  · have length_ne : (xs.length : F) ≠ 0 := Nat.cast_ne_zero.mpr nonempty.ne'
    field_simp
    ring

/-- The weights `a - c * y` of scores `y` sum to `n * a - c * Σ y`. -/
theorem sum_map_affine (ys : List F) (a c : F) :
    (ys.map fun y => a - c * y).sum = ys.length * a - c * ys.sum := by
  induction ys with
  | nil => simp
  | cons y ys ih =>
    rw [List.map_cons, List.sum_cons, ih, List.sum_cons, List.length_cons, Nat.cast_succ]
    ring

/-- Equal weights `1 / n` of `n` entries sum to one. -/
theorem sum_map_inv_length {α : Type} (xs : List α) (nonempty : xs ≠ []) :
    (xs.map fun _ => 1 / (xs.length : F)).sum = 1 := by
  have length_ne : (xs.length : F) ≠ 0 := Nat.cast_ne_zero.mpr (List.length_pos_iff.mpr nonempty).ne'
  rw [List.map_const', List.sum_replicate, nsmul_eq_mul]
  field_simp

end Field

section Ordered

variable {F : Type} [Field F] [LinearOrder F] [IsStrictOrderedRing F]

/-- A weight `a - c * y`, with `c ≥ 0`, is at least `a - c * m` for a score `y ≤ m`. -/
theorem affine_nonneg {a c y m : F} (c_nonneg : 0 ≤ c) (below : y ≤ m) (at_max : 0 ≤ a - c * m) :
    0 ≤ a - c * y := by
  have : c * y ≤ c * m := mul_le_mul_of_nonneg_left below c_nonneg
  linarith

/-- Scores summing to zero have a nonnegative upper bound. -/
theorem nonneg_of_sum_eq_zero {ys : List F} (sum_zero : ys.sum = 0) (nonempty : ys ≠ [])
    {m : F} (bound : ∀ y ∈ ys, y ≤ m) : 0 ≤ m := by
  have length_pos : (0 : F) < ys.length := Nat.cast_pos.mpr (List.length_pos_iff.mpr nonempty)
  have sum_le : ys.sum ≤ ys.length • m := List.sum_le_card_nsmul ys m bound
  rw [sum_zero, nsmul_eq_mul] at sum_le
  exact le_of_mul_le_mul_left (by simpa using sum_le) length_pos

end Ordered

/-- In a list sorted by a key, every key is at most the last one's. -/
theorem le_getLast_of_pairwise {α β : Type} [Preorder β] {key : α → β} {xs : List α}
    (sorted : xs.Pairwise fun a b => key a ≤ key b) (nonempty : xs ≠ []) :
    ∀ x ∈ xs, key x ≤ key (xs.getLast nonempty) :=
  fun _ member => sorted.rel_getLast_of_rel_getLast_getLast member le_rfl

end Weights
