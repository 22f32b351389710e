import GeneticRepair.Proofs.Candidate.Evaluation
import GeneticRepair.Proofs.Candidate.Question
import GeneticRepair.Proofs.Candidate.Variation

/-!
# Fitness with a coherent toolchain

The first candidate that compiles and is scored becomes the baseline, for good. The fitness of a
candidate is a function of its program and the baseline, and the verdict on it is right whatever the
baseline. When candidates are varied, a laboratory with such a toolchain agrees with itself, and
whether a candidate compiles is what the toolchain says of its program.
-/

namespace GeneticRepair

namespace Coherence

variable {T R : Type} [Toolchain T] {suite : TestSuite} (k : Coherence T suite)

/-- The ledger after a program has been scored. -/
def settle (w : Ledger) (p : Program) : Ledger :=
  { w with baseline := if k.compiles p then some (w.baseline.getD ⟨k.passing p, k.failing p⟩)
      else w.baseline }

private theorem le_settle (w : Ledger) (p : Program) : w ≤ k.settle w p := by
  refine ⟨List.prefix_rfl, fun b hb => ?_⟩
  simp [settle, hb]

variable {k} in
private theorem settle_eq_self {w : Ledger} {b : Baseline} (h : w.baseline = some b) (p : Program) :
    k.settle w p = w := by
  cases w
  cases h
  simp [settle]

/-- The fitness of a variant of the seed according to a ledger. -/
def Scored [Scalar R] {seed : Candidate R} (k : Coherence T seed.suite) (w : Ledger)
    (c : Candidate R) (r : R) : Prop :=
  if k.compiles c.program then ∃ b, w.baseline = some b ∧
    Candidate.score seed.strategies.weights b (k.passing c.program) = .ok r
  else r = Scalar.origin

variable [Scalar R] {seed : Candidate R} {k : Coherence T seed.suite} {w w' : Ledger}
  {c : Candidate R} {r s : R}

theorem Scored.mono (hw : w ≤ w') (h : k.Scored w c r) : k.Scored w' c r := by
  unfold Scored at h ⊢
  by_cases hc : k.compiles c.program
  · rw [if_pos hc] at h ⊢
    obtain ⟨b, hb, hscore⟩ := h
    exact ⟨b, hw.2 b hb, hscore⟩
  · rwa [if_neg hc] at h ⊢

theorem Scored.eq (h₁ : k.Scored w c r) (h₂ : k.Scored w c s) : r = s := by
  unfold Scored at h₁ h₂
  by_cases hc : k.compiles c.program
  · rw [if_pos hc] at h₁ h₂
    obtain ⟨b₁, hb₁, hscore₁⟩ := h₁
    obtain ⟨b₂, hb₂, hscore₂⟩ := h₂
    obtain rfl := Option.some.inj (hb₁.symm.trans hb₂)
    exact Except.ok.inj (hscore₁.symm.trans hscore₂)
  · rw [if_neg hc] at h₁ h₂
    exact h₁.trans h₂.symm

end Coherence

namespace Candidate

variable {R T G : Type} [Toolchain T] [Scalar R] {seed c : Candidate R}
  {k : Coherence T seed.suite} {w : Ledger}

omit [Scalar R] in
private theorem achieves_baseline {result : TestRun} {p : Program} (hp : k.compiles p = true)
    (hpass : result.passing = k.passing p) (hfail : result.failing = k.failing p) :
    Achieves (k.Sound (G := G)) w (baseline result) fun w' b =>
      w' = k.settle w p ∧ w'.baseline = some b := by
  intro lab hlab
  cases hb : w.baseline with
  | some b =>
    refine ⟨b, lab, ?_, w, le_rfl, hlab, (Coherence.settle_eq_self hb p).symm, hb⟩
    simp [baseline, hlab.baseline_eq, hb]
  | none =>
    refine ⟨⟨k.passing p, k.failing p⟩,
      { lab with baseline := some ⟨k.passing p, k.failing p⟩ }, ?_, k.settle w p,
      k.le_settle w p, ?_, rfl, ?_⟩
    · simp [baseline, hlab.baseline_eq, hb, hpass, hfail]
    · refine { hlab with baseline_eq := ?_, baseline := ?_ }
      · simp [Coherence.settle, hp, hb]
      · intro b hb'
        simp only [Coherence.settle, hp, hb, if_true, Option.getD_none, Option.some.injEq] at hb'
        exact ⟨p, hp, hb'.symm⟩
    · simp [Coherence.settle, hp, hb]

theorem keeps_fitness (hc : seed.Enrolled w c) :
    Keeps (k.Sound (G := G)) w c.fitness fun w' r =>
      w' = k.settle w c.program ∧ k.Scored w' c r := by
  refine (achieves_evaluateCompiled? hc).keeps.bind ?_
  rintro w₁ _ _ ⟨rfl, ⟨hyes, r, rfl, hpass, hfail⟩ | ⟨hno, rfl⟩⟩
  · refine (achieves_baseline hyes hpass hfail).keeps.bind ?_
    rintro w₂ b _ ⟨rfl, hb⟩ lab a lab' hlab hret
    obtain ⟨hscore, rfl⟩ := Lab.returns_orFail.mp hret
    refine ⟨_, le_rfl, hlab, rfl, ?_⟩
    rw [Coherence.Scored, if_pos hyes]
    rw [hc.strategies, hpass] at hscore
    exact ⟨b, hb, hscore⟩
  · refine keeps_pure ⟨?_, ?_⟩
    · simp [Coherence.settle, hno]
    · simp [Coherence.Scored, hno]

theorem achieves_fitness (hc : seed.Enrolled w c) {r : R}
    (hr : k.Scored (k.settle w c.program) c r) :
    Achieves (k.Sound (G := G)) w c.fitness fun _ r' => r' = r := by
  refine (achieves_evaluateCompiled? hc).bind ?_
  rintro w₁ _ _ ⟨rfl, ⟨hyes, result, rfl, hpass, hfail⟩ | ⟨hno, rfl⟩⟩
  · refine (achieves_baseline hyes hpass hfail).bind ?_
    rintro w₂ b _ ⟨rfl, hb⟩ lab hlab
    rw [Coherence.Scored, if_pos hyes] at hr
    obtain ⟨b', hb', hscore⟩ := hr
    obtain rfl := Option.some.inj (hb.symm.trans hb')
    rw [← hpass, ← hc.strategies] at hscore
    exact ⟨r, lab, Lab.returns_orFail.mpr ⟨hscore, rfl⟩, _, le_rfl, hlab, rfl⟩
  · rw [Coherence.Scored, if_neg (by simp [hno])] at hr
    exact achieves_pure hr.symm

omit [Scalar R] in
private theorem keeps_comparison (hc : seed.Enrolled w c)
    (hbase : k.compiles c.program → w.baseline ≠ none) :
    Keeps (k.Sound (G := G)) w (do
      match (← get).baseline with
      | none => return false
      | some b =>
        match ← c.evaluateCompiled? with
        | some result => return result.passing.length == b.passing.length + b.failing.length
        | none => return false) fun _ b => (b = true ↔ k.Repairs c.program) := by
  refine keeps_get.bind ?_
  rintro _ lab _ ⟨rfl, hlab⟩
  rw [hlab.baseline_eq]
  split
  · rename_i hnone
    refine keeps_pure ⟨(nomatch ·), fun h => absurd hnone (hbase h.1)⟩
  · rename_i b hb
    obtain ⟨p, hp, rfl⟩ := hlab.baseline b hb
    refine (achieves_evaluateCompiled? hc).keeps.bind ?_
    rintro _ _ _ ⟨rfl, ⟨hyes, r, rfl, hpass, -⟩ | ⟨hno, rfl⟩⟩
    · refine keeps_pure ?_
      rw [beq_iff_eq, hpass]
      exact Coherence.length_passing_eq_iff hp hyes
    · refine keeps_pure ⟨(nomatch ·), fun h => ?_⟩
      exact absurd h.1 (by simp [hno])

theorem keeps_isRepair (hc : seed.Enrolled w c) :
    Keeps (k.Sound (G := G)) w c.isRepair fun _ b => (b = true ↔ k.Repairs c.program) := by
  refine keeps_get.bind ?_
  rintro _ lab _ ⟨rfl, hlab⟩
  split
  · refine (keeps_fitness hc).bind ?_
    rintro w' _ hw' ⟨rfl, -⟩
    refine keeps_comparison (hc.mono hw') fun hyes => ?_
    simp [Coherence.settle, hyes]
  · rename_i hsome
    refine keeps_comparison hc fun _ hnone => hsome ?_
    rw [hlab.baseline_eq, hnone, Option.isNone_none]

end Candidate

/-! ## Variation -/

variable {R T G : Type} [Toolchain T] {seed c : Candidate R} {k : Coherence T seed.suite}
  {w : Ledger}

namespace Candidate

private theorem achieves_spectra (hc : seed.Enrolled w c) :
    Achieves (k.Sound (G := G)) w c.spectra fun w' _ => w' = w := by
  refine (Lab.achieves_memo hc).bind ?_
  rintro _ m _ ⟨rfl, hm⟩
  split
  · exact achieves_pure rfl
  · rename_i result _ _
    have hfits : k.Fits c.program { m with spectra := some (.ofCoverage result.coverage) } :=
      ⟨hm.build, hm.result⟩
    refine (Lab.achieves_setMemo hc hfits).bind ?_
    rintro _ _ _ rfl
    exact achieves_pure rfl
  · exact achieves_pure rfl

private theorem keeps_suspiciousness [Scalar R] (hc : seed.Enrolled w c) :
    Keeps (k.Sound (G := G)) w c.suspiciousness fun w' _ => w' = w := by
  refine (achieves_evaluateCompiled? hc).keeps.bind ?_
  rintro _ r _ ⟨rfl, -⟩
  split
  · refine (achieves_spectra hc).keeps.bind ?_
    rintro _ _ _ rfl
    exact repeats_diagonal_iff.mp Lab.repeats_orFail
  · exact keeps_pure rfl

end Candidate

theorem Coherence.agreement [Scalar R] (k : Coherence T seed.suite) :
    Agreement seed (Diagonal (k.Sound (G := G))) fun p b => b = k.compiles p where
  draw act := repeats_diagonal_iff.mpr (Lab.keeps_draw (fun _ _ h => { h with }) act)
  newMemo p := repeats_diagonal_iff.mpr ((Lab.achieves_newMemo p).keeps.mono fun _ _ _ h => h.2)
  isCompilable hc := repeats_diagonal_iff.mpr (Candidate.achieves_isCompilable hc).keeps
  suspiciousness hc := repeats_diagonal_iff.mpr (Candidate.keeps_suspiciousness hc)
  fitness hc := repeats_diagonal_iff.mpr
    ((Candidate.keeps_fitness hc).mono fun _ _ _ _ => trivial)
  isRepair hc := repeats_diagonal_iff.mpr
    ((Candidate.keeps_isRepair hc).mono fun _ _ _ _ => trivial)

end GeneticRepair
