import GeneticRepair.Number.Quantity
import GeneticRepair.Proofs.Candidate.Fitness
import Mathlib.Algebra.Order.Ring.Int
import Mathlib.Data.Nat.Cast.Order.Ring

/-!
# Fitness in exact arithmetic

Rewards are counts of tests times weights. Where the sums and the comparisons that a suite needs are
exact, no candidate that has been scored is better than a repair.
-/

namespace GeneticRepair

namespace Weights

variable {R K : Type} [Scalar R] [Semiring K] [LinearOrder K]

def reward (w : Weights R) (kept gained : Nat) : Except ArithmeticError R := do
  let x ← Scalar.mul (Scalar.ofInt kept) w.positive
  let y ← Scalar.mul (Scalar.ofInt gained) w.negative
  Scalar.add x y

/-- The fitness values that there can be with a suite of the given size. -/
inductive Attains (w : Weights R) (size : Nat) : R → Prop
  | origin : Attains w size Scalar.origin
  | reward {kept gained : Nat} {r : R} (bound : kept + gained ≤ size)
      (rewarded : w.reward kept gained = .ok r) : Attains w size r

/-- Non-negative weights with which fitness is computed and compared without an error, as the values
of scalars tell. -/
structure Exact (w : Weights R) (size : Nat) (value : R → K) : Prop where
  positive : 0 ≤ value w.positive
  negative : 0 ≤ value w.negative
  origin : value Scalar.origin = 0
  reward : ∀ kept gained r, kept + gained ≤ size → w.reward kept gained = .ok r →
    value r = kept * value w.positive + gained * value w.negative
  less : ∀ r s, w.Attains size r → w.Attains size s →
    (Scalar.less r s = true ↔ value r < value s)

end Weights

/-! ## Integer weights -/

namespace Quantity

def intValue (q : Quantity) : Int :=
  q.int?.getD 0

theorem less_ofInt (m n : Int) : Scalar.less (ofInt m) (ofInt n) = true ↔ m < n := by
  change (some (compare m n) == some Ordering.lt) = true ↔ m < n
  simp [compare_lt_iff_lt]

private def originFloat : Float :=
  Float.ofScientific 0 false 0 / Float.ofScientific unitSteps false 0

private theorem exact_originFloat : Number.exact originFloat = .finite false 0 0 :=
  rfl

private theorem less_origin_ofInt (n : Int) :
    Scalar.less Scalar.origin (ofInt n) = true ↔ 0 < n := by
  change ((Number.compareIntFloat n originFloat).map Ordering.swap == some Ordering.lt) = true ↔
    0 < n
  simp [Number.compareIntFloat, exact_originFloat, Number.signed, compare_gt_iff_gt]

theorem less_ofInt_origin (n : Int) : Scalar.less (ofInt n) Scalar.origin = true ↔ n < 0 := by
  change (Number.compareIntFloat n originFloat == some Ordering.lt) = true ↔ n < 0
  simp [Number.compareIntFloat, exact_originFloat, Number.signed, compare_lt_iff_lt]

end Quantity

namespace Weights

variable {positive negative : Int} {size : Nat}

theorem exact_ofInt (hpositive : 0 ≤ positive) (hnegative : 0 ≤ negative) :
    (⟨.ofInt positive, .ofInt negative⟩ : Weights Quantity).Exact size Quantity.intValue where
  positive := hpositive
  negative := hnegative
  origin := rfl
  reward kept gained r _ h := by
    cases h
    rfl
  less r s hr hs := by
    cases hr with
    | origin =>
      cases hs with
      | origin => exact ⟨(nomatch ·), fun h => absurd h (lt_irrefl _)⟩
      | reward _ h =>
        cases h
        exact Quantity.less_origin_ofInt _
    | reward _ h =>
      cases h
      cases hs with
      | origin => exact Quantity.less_ofInt_origin _
      | reward _ h =>
        cases h
        exact Quantity.less_ofInt _ _

end Weights

namespace Coherence

variable {R T : Type} [Toolchain T]

section Counts

variable {suite : TestSuite} {k : Coherence T suite} {p q : Program}

/-- How many of the given tests a program passes. -/
def gains (k : Coherence T suite) (p : Program) (names : List String) : Nat :=
  ((k.passing p).filter names.contains).length

private theorem gains_add_gains_le (hp : k.compiles p) (hq : k.compiles q) :
    k.gains p (k.passing q) + k.gains p (k.failing q) ≤ suite.names.length :=
  (covers_testRun hp).gains_add_gains_le (covers_testRun hq)

private theorem gains_le_of_repairs (hp : k.compiles p) (hq : k.Repairs q) (names : List String) :
    k.gains p names ≤ k.gains q names := by
  apply (covers_testRun hp).gains_mono
  intro name hname
  exact hq.2 name ((covers_testRun hp).mem_suite_of_mem_passing hname)

end Counts

variable {K : Type} [Scalar R] {seed c d : Candidate R} {k : Coherence T seed.suite} {w : Ledger}
  {r s : R}

private theorem Scored.reward (h : k.Scored w c r) (hc : k.compiles c.program) :
    ∃ b, w.baseline = some b ∧ seed.strategies.weights.reward (k.gains c.program b.passing)
      (k.gains c.program b.failing) = .ok r := by
  rwa [Scored, if_pos hc] at h

theorem Scored.attains {G : Type} {lab : Lab T G} (hs : k.Sound w lab) (h : k.Scored w c r) :
    seed.strategies.weights.Attains seed.suite.names.length r := by
  by_cases hc : k.compiles c.program
  · obtain ⟨b, hb, hreward⟩ := h.reward hc
    obtain ⟨p, hp, rfl⟩ := hs.baseline b hb
    exact .reward (gains_add_gains_le hc hp) hreward
  · rw [Scored, if_neg hc] at h
    exact h ▸ .origin

variable [Semiring K] [LinearOrder K] [IsStrictOrderedRing K] {value : R → K}

/-- No candidate is fitter than a repair. -/
theorem Scored.value_le_of_repairs {G : Type} {lab : Lab T G} (hs : k.Sound w lab)
    (hexact : seed.strategies.weights.Exact seed.suite.names.length value)
    (hc : k.Scored w c r) (hd : k.Scored w d s) (hrepairs : k.Repairs d.program) :
    value r ≤ value s := by
  obtain ⟨b, hb, hs'⟩ := hd.reward hrepairs.1
  obtain ⟨p, hp, rfl⟩ := hs.baseline b hb
  rw [hexact.reward _ _ _ (gains_add_gains_le hrepairs.1 hp) hs']
  by_cases hyes : k.compiles c.program
  · obtain ⟨b', hb', hr'⟩ := hc.reward hyes
    obtain rfl := Option.some.inj (hb.symm.trans hb')
    rw [hexact.reward _ _ _ (gains_add_gains_le hyes hp) hr']
    have hkept := gains_le_of_repairs hyes hrepairs (k.passing p)
    have hgained := gains_le_of_repairs hyes hrepairs (k.failing p)
    exact add_le_add (mul_le_mul_of_nonneg_right (Nat.cast_le.mpr hkept) hexact.positive)
      (mul_le_mul_of_nonneg_right (Nat.cast_le.mpr hgained) hexact.negative)
  · rw [Scored, if_neg hyes] at hc
    rw [hc, hexact.origin]
    exact add_nonneg (mul_nonneg (Nat.cast_nonneg _) hexact.positive)
      (mul_nonneg (Nat.cast_nonneg _) hexact.negative)

end Coherence

end GeneticRepair
