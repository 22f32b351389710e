import GeneticRepair.Proofs.Candidate.Exact
import GeneticRepair.Proofs.Number.Comparison

/-!
# Quantities compared with integers

A quantity is comparable with every integer, unless it is a float that is no number. What is not
less than an integer is at least as great, but for such a float.
-/

namespace GeneticRepair

/-! ## Comparisons of numbers -/

namespace Number

private theorem exact_of_compare?_eq_none {a : Number} {n : Int} (h : compare? a (.int n) = none) :
    ∃ x, a = .float x ∧ exact x = .notANumber := by
  cases compare?_eq_none h with
  | inl ha => exact ha
  | inr hn =>
    obtain ⟨x, hx, -⟩ := hn
    cases hx

end Number

/-! ## Bounds -/

namespace Quantity

/-- A float that is no number. -/
def IsNaN (q : Quantity) : Prop :=
  ∃ x, q.value = .float x ∧ Number.exact x = .notANumber

variable {q : Quantity} {n : Int}

private theorem exists_comparison (q : Quantity) (n : Int) : ∃ o : Option Ordering,
    (o = none → q.IsNaN) ∧
      Scalar.less q (ofInt n) = (o == some .lt) ∧
      Scalar.atMost q (ofInt n) = (o == some .lt || o == some .eq) ∧
      Scalar.less (ofInt n) q = (o == some .gt) ∧
      Scalar.atMost (ofInt n) q = (o == some .gt || o == some .eq) := by
  refine ⟨Number.compare? q.value (.int n), Number.exact_of_compare?_eq_none, rfl, ?_, ?_, ?_⟩
  · show Number.atMost q.value (.int n) = _
    rw [Number.atMost]
    rcases Number.compare? q.value (.int n) with _ | (_ | _ | _) <;> rfl
  · show Number.less (.int n) q.value = _
    rw [Number.less, Number.compare?_swap q.value]
    rcases Number.compare? q.value (.int n) with _ | (_ | _ | _) <;> rfl
  · show Number.atMost (.int n) q.value = _
    rw [Number.atMost, Number.compare?_swap q.value]
    rcases Number.compare? q.value (.int n) with _ | (_ | _ | _) <;> rfl

theorem not_atMost_of_less {p : Quantity} (h : Scalar.less p q = true) :
    Scalar.atMost q p = false := by
  change Number.atMost q.value p.value = false
  rw [Number.atMost, Number.compare?_swap p.value, Number.compare?_of_less h]
  rfl

theorem atMost_of_not_less {p : Quantity} (hp : ¬ p.IsNaN) (hq : ¬ q.IsNaN)
    (h : Scalar.less q p = false) : Scalar.atMost p q = true := by
  change Number.less q.value p.value = false at h
  change Number.atMost p.value q.value = true
  rw [Number.less, Number.compare?_swap p.value] at h
  rw [Number.atMost]
  cases hcompare : Number.compare? p.value q.value with
  | none =>
    cases Number.compare?_eq_none hcompare with
    | inl hnot => exact absurd hnot hp
    | inr hnot => exact absurd hnot hq
  | some o =>
    rw [hcompare] at h
    cases o with
    | gt => cases h
    | _ => rfl

theorem atMost_or_isNaN (h : Scalar.less q (ofInt n) = false) :
    Scalar.atMost (ofInt n) q = true ∨ q.IsNaN := by
  obtain ⟨o, hnone, hless, -, -, hatMost⟩ := exists_comparison q n
  rw [hless] at h
  rw [hatMost]
  rcases o with _ | (_ | _ | _)
  · exact .inr (hnone rfl)
  · cases h
  · exact .inl rfl
  · exact .inl rfl

theorem less_or_isNaN (h : Scalar.atMost q (ofInt n) = false) :
    Scalar.less (ofInt n) q = true ∨ q.IsNaN := by
  obtain ⟨o, hnone, -, hatMost, hless, -⟩ := exists_comparison q n
  rw [hatMost] at h
  rw [hless]
  rcases o with _ | (_ | _ | _)
  · exact .inr (hnone rfl)
  · cases h
  · cases h
  · exact .inl rfl

private theorem not_less_of_atMost (h : Scalar.atMost q (ofInt n) = true) :
    Scalar.less (ofInt n) q = false := by
  obtain ⟨o, -, -, hatMost, hless, -⟩ := exists_comparison q n
  rw [hatMost] at h
  rw [hless]
  rcases o with _ | (_ | _ | _)
  · rfl
  · rfl
  · rfl
  · cases h

theorem le_of_int? {m : Int} (hq : q.int? = some n) (h : Scalar.less q (ofInt m) = false) :
    m ≤ n := by
  have hvalue : q.value = .int n := by
    unfold int? at hq
    split at hq
    · next hvalue =>
      cases hq
      exact hvalue
    · cases hq
  change Number.less q.value (.int m) = false at h
  rw [hvalue] at h
  by_contra hlt
  have hless : Scalar.less (ofInt n) (ofInt m) = true := (less_ofInt n m).mpr (by omega)
  cases h.symm.trans hless

theorem eq_zero_or_one_of_unit {n : Int} (hzero : Scalar.atMost Scalar.origin (ofInt n) = true)
    (hone : Scalar.atMost (ofInt n) (ofInt 1) = true) : n = 0 ∨ n = 1 := by
  have hnonneg : ¬ n < 0 := by
    intro hlt
    rw [← less_ofInt_origin, not_less_of_atMost hzero] at hlt
    cases hlt
  have hle : n ≤ 1 := by
    by_contra hlt
    have hless := (less_ofInt 1 n).mpr (by omega)
    rw [not_less_of_atMost hone] at hless
    cases hless
  omega

end Quantity

end GeneticRepair
