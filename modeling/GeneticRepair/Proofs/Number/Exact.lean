import GeneticRepair.Number.Scalar
import Mathlib.Analysis.Real.Sqrt

/-!
# Exact arithmetic

The real numbers are scalars, so whatever is calculated with scalars can be read without rounding.
An operation on them fails just if it has no result: it divides by zero, or takes the root of a
negative number.
-/

namespace GeneticRepair.Scalar

noncomputable instance : Scalar ℝ where
  ofInt n := n
  ofUnit k := k / unitSteps
  add a b := pure (a + b)
  sub a b := pure (a - b)
  mul a b := pure (a * b)
  div a b := if b = 0 then throw .divisionByZero else pure (a / b)
  sqrt a := if a < 0 then throw .outsideDomain else pure √a
  less a b := decide (a < b)
  atMost a b := decide (a ≤ b)
  same a b := decide (a = b)

variable {a b : ℝ}

theorem add_real (a b : ℝ) : add a b = .ok (a + b) := rfl

theorem mul_real (a b : ℝ) : mul a b = .ok (a * b) := rfl

theorem div_real (h : b ≠ 0) : div a b = .ok (a / b) := if_neg h

theorem sqrt_real (h : 0 ≤ a) : sqrt a = .ok √a := if_neg (not_lt.mpr h)

theorem ofInt_real (n : Int) : (ofInt n : ℝ) = n := rfl

private theorem ofUnit_real (k : Nat) : (ofUnit k : ℝ) = k / unitSteps := rfl

@[simp] theorem zero_real : (zero : ℝ) = 0 := Int.cast_zero

@[simp] theorem origin_real : (origin : ℝ) = 0 := by
  rw [origin, ofUnit_real, Nat.cast_zero, zero_div]

@[simp] theorem less_real : less a b = true ↔ a < b := decide_eq_true_iff

@[simp] theorem atMost_real : atMost a b = true ↔ a ≤ b := decide_eq_true_iff

@[simp] theorem same_real : same a b = true ↔ a = b := decide_eq_true_iff

theorem sum_real (xs : List ℝ) : sum xs = .ok xs.sum := by
  have hfold : ∀ start : ℝ, xs.foldlM add start = .ok (start + xs.sum) := by
    induction xs with
    | nil =>
      intro start
      rw [List.sum_nil, add_zero]
      rfl
    | cons x xs ih =>
      intro start
      rw [List.foldlM_cons, add_real, List.sum_cons, ← add_assoc]
      exact ih (start + x)
  rw [sum, hfold, zero_real, zero_add]

theorem ofUnit_real_mem {k : Nat} (h : k < unitSteps) : (ofUnit k : ℝ) ∈ Set.Ico 0 1 := by
  have hpos : (0 : ℝ) < unitSteps := Nat.cast_pos.mpr (by decide)
  rw [ofUnit_real]
  exact ⟨by positivity, (div_lt_one hpos).mpr (Nat.cast_lt.mpr h)⟩

end GeneticRepair.Scalar
