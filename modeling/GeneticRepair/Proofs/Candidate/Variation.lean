import GeneticRepair.Candidate.Crossover
import GeneticRepair.Candidate.Evaluation
import GeneticRepair.Proofs.Candidate.Evaluation
import GeneticRepair.Proofs.Mirror
import GeneticRepair.Proofs.Random

/-!
# Variation

Variation is followed in two laboratories at a time, which agree on what is asked of candidates. The
same mutants and offspring come of it, variants of the seed with memos of their own, and whatever is
selected from a population is the same member of it.
-/

namespace GeneticRepair

open GeneticRepair.Code

/-- Laboratories that are related agree: they draw the same, and what is asked of a candidate has
the same answer, of which something may be said. -/
structure Agreement {R T G : Type} [Toolchain T] [Scalar R] (seed : Candidate R)
    (rel : Ledger → Lab T G → Lab T G → Prop) (told : Program → Bool → Prop) : Prop where
  draw : ∀ {α : Type} {w : Ledger} (act : StateM G α),
    Repeats rel w (Lab.draw act) fun w' _ => w' = w
  newMemo : ∀ {w : Ledger} (p : Program),
    Repeats rel w Lab.newMemo fun w' i => w'.owners[i]? = some (some p)
  isCompilable : ∀ {w : Ledger} {c : Candidate R}, seed.Enrolled w c →
    Repeats rel w c.isCompilable fun w' b => w' = w ∧ told c.program b
  suspiciousness : ∀ {w : Ledger} {c : Candidate R}, seed.Enrolled w c →
    Repeats rel w c.suspiciousness fun w' _ => w' = w
  fitness : ∀ {w : Ledger} {c : Candidate R}, seed.Enrolled w c →
    Repeats rel w c.fitness fun _ _ => True
  isRepair : ∀ {w : Ledger} {c : Candidate R}, seed.Enrolled w c →
    Repeats rel w c.isRepair fun _ _ => True

variable {R T G α ε : Type} {seed c d : Candidate R} {rel : Ledger → Lab T G → Lab T G → Prop}
  {told : Program → Bool → Prop} {w : Ledger}

theorem Lab.repeats_orFail {failure : ε → Failure} {e : Except ε α} :
    Repeats rel w (orFail failure e) fun w' _ => w' = w := by
  cases e with
  | ok a => exact repeats_pure rfl
  | error e => exact repeats_throw

theorem Lab.keeps_draw {inv : Ledger → Lab T G → Prop}
    (hinv : ∀ lab random, inv w lab → inv w { lab with random }) (act : StateM G α) :
    Keeps inv w (draw act) fun w' _ => w' = w := by
  intro lab a lab' hlab h
  rw [draw, returns_modifyGet] at h
  obtain ⟨-, rfl⟩ := Prod.mk.inj h
  exact ⟨w, le_rfl, hinv lab _ hlab, rfl⟩

namespace Agreement

variable [Toolchain T] [Scalar R] (h : Agreement seed rel told)
include h

private theorem sample (act : ExceptT SamplingError (StateM G) α) :
    Repeats rel w (Lab.sample act) fun w' _ => w' = w := by
  refine (h.draw act.run).bind ?_
  rintro _ r _ rfl
  cases r with
  | ok a => exact repeats_pure rfl
  | error e => exact repeats_throw

private theorem derive (hc : seed.Enrolled w c) (lines : List String) :
    Repeats rel w (c.derive lines) fun w' d => seed.Enrolled w' d := by
  refine (h.newMemo ⟨c.identity, lines⟩).bind fun w' i _ hi => ?_
  exact repeats_pure ⟨hc.identity, hc.suite, hc.strategies, hi⟩

private theorem derive_printed (hc : seed.Enrolled w c) (module : Node) :
    Repeats rel w (do c.derive (← Candidate.printed module)) fun w' d => seed.Enrolled w' d := by
  refine Lab.repeats_orFail.bind ?_
  rintro _ lines _ rfl
  exact h.derive hc lines

private theorem derive_both (hc : seed.Enrolled w c) (hd : seed.Enrolled w d)
    (xs ys : List String) :
    Repeats rel w (do return (← c.derive xs, ← d.derive ys)) fun w' uv =>
      seed.Enrolled w' uv.1 ∧ seed.Enrolled w' uv.2 := by
  refine (h.derive hc xs).bind fun w₁ u hw₁ hu => ?_
  refine (h.derive (hd.mono hw₁) ys).bind fun w₂ v hw₂ hv => ?_
  exact repeats_pure ⟨hu.mono hw₂, hv⟩

variable [RandomSource G]

/-! ## Mutation -/

private theorem edit {module : Node} {crossScope : Bool} {target : Statement} (e : Edit) :
    Repeats rel w (Candidate.edit module crossScope target e) fun w' _ => w' = w := by
  unfold Candidate.edit
  split
  · refine Lab.repeats_orFail.bind ?_
    rintro _ _ _ rfl
    exact repeats_pure rfl
  · split
    · exact repeats_pure rfl
    · refine (h.draw _).bind ?_
      rintro _ donor _ rfl
      split <;>
      · refine Lab.repeats_orFail.bind ?_
        rintro _ _ _ rfl
        exact repeats_pure rfl

private theorem mutateStatement (hc : seed.Enrolled w c) (module : Node)
    (localization : Localization R) :
    Repeats rel w (c.mutateStatement module localization) fun w' d => seed.Enrolled w' d := by
  unfold Candidate.mutateStatement
  dsimp only
  split
  · exact repeats_pure hc
  · refine (h.sample _).bind ?_
    rintro _ line _ rfl
    split
    · exact repeats_pure hc
    · refine (h.draw _).bind ?_
      rintro _ e _ rfl
      refine (h.edit e).bind ?_
      rintro _ r _ rfl
      split
      · exact repeats_pure hc
      · exact h.derive_printed hc _

private theorem mutateOperator (hc : seed.Enrolled w c) (module : Node) (site : OperatorSite) :
    Repeats rel w (c.mutateOperator module site) fun w' d => seed.Enrolled w' d := by
  unfold Candidate.mutateOperator
  split
  · exact repeats_pure hc
  · refine (h.draw _).bind ?_
    rintro _ op _ rfl
    exact h.derive_printed hc _

theorem happens (probability : R) :
    Repeats rel w (Candidate.happens probability) fun w' _ => w' = w := by
  refine (h.draw _).bind ?_
  rintro _ _ _ rfl
  exact repeats_pure rfl

private theorem mutateParsed (hc : seed.Enrolled w c) (module : Node) :
    Repeats rel w (c.mutateParsed module) fun w' d => seed.Enrolled w' d := by
  refine (h.suspiciousness hc).bind ?_
  rintro _ localization _ rfl
  split
  · exact h.mutateStatement hc module localization
  · split
    · exact h.mutateStatement hc module localization
    · refine (h.happens _).bind ?_
      rintro _ _ _ rfl
      split
      · refine (h.draw _).bind ?_
        rintro _ site _ rfl
        exact h.mutateOperator hc module site
      · exact h.mutateStatement hc module localization

theorem mutate (hc : seed.Enrolled w c) :
    Repeats rel w c.mutate fun w' d =>
      seed.Enrolled w' d ∧ (d = c ∨ told c.program true) := by
  refine (h.isCompilable hc).bind ?_
  rintro _ compiles _ ⟨rfl, htold⟩
  cases compiles with
  | false => exact repeats_pure ⟨hc, .inl rfl⟩
  | true =>
    cases c.parsed? with
    | none => exact repeats_pure ⟨hc, .inl rfl⟩
    | some module =>
      apply (h.mutateParsed hc module).mono
      intro w' d _ hd
      exact ⟨hd, .inr htold⟩

/-! ## Crossover -/

private theorem crossLines (hc : seed.Enrolled w c) (hd : seed.Enrolled w d) :
    Repeats rel w (c.crossLines d) fun w' uv =>
      seed.Enrolled w' uv.1 ∧ seed.Enrolled w' uv.2 := by
  unfold Candidate.crossLines
  dsimp only
  split
  · exact repeats_pure ⟨hc, hd⟩
  · refine (h.draw _).bind ?_
    rintro _ cut _ rfl
    exact h.derive_both hc hd _ _

private theorem drawPair (x : Statement) (xs : List Statement) (y : Statement) (ys : List Statement)
    (attempts : Nat) :
    Repeats rel w (Candidate.drawPair x xs y ys attempts) fun w' _ => w' = w := by
  induction attempts with
  | zero => exact repeats_pure rfl
  | succ attempts ih =>
    refine (h.draw _).bind ?_
    rintro _ mine _ rfl
    refine (h.draw _).bind ?_
    rintro _ theirs _ rfl
    split
    · exact repeats_pure rfl
    · exact ih

private theorem crossStatements (hc : seed.Enrolled w c) (hd : seed.Enrolled w d)
    (maxAttempts : Quantity) (m n : Node) :
    Repeats rel w (Candidate.crossStatements maxAttempts c d m n) fun w' uv =>
      seed.Enrolled w' uv.1 ∧ seed.Enrolled w' uv.2 := by
  unfold Candidate.crossStatements
  split
  · split
    · exact repeats_throw
    · refine (h.drawPair _ _ _ _ _).bind ?_
      rintro _ pair _ rfl
      split
      · exact repeats_pure ⟨hc, hd⟩
      · refine Lab.repeats_orFail.bind ?_
        rintro _ lines _ rfl
        split
        · exact h.derive_both hc hd _ _
        · exact repeats_pure ⟨hc, hd⟩
  · exact repeats_pure ⟨hc, hd⟩

theorem crossover (hc : seed.Enrolled w c) (hd : seed.Enrolled w d) :
    Repeats rel w (c.crossover d) fun w' uv =>
      seed.Enrolled w' uv.1 ∧ seed.Enrolled w' uv.2 := by
  unfold Candidate.crossover
  split
  · exact h.crossLines hc hd
  · split
    · exact h.crossStatements hc hd _ _ _
    · exact repeats_pure ⟨hc, hd⟩

/-! ## Selection -/

omit [RandomSource G] in
private theorem fitter (hc : seed.Enrolled w c) (hd : seed.Enrolled w d) :
    Repeats rel w (Candidate.fitter c d) fun _ e => e = c ∨ e = d := by
  refine (h.fitness hc).bind fun w₁ x hw₁ _ => ?_
  refine (h.fitness (hd.mono hw₁)).bind fun w₂ y _ _ => repeats_pure ?_
  split
  · exact .inl rfl
  · exact .inr rfl

theorem select {population : List (Candidate R)} (hpop : ∀ c ∈ population, seed.Enrolled w c) :
    Repeats rel w (Candidate.select population) fun _ c => c ∈ population := by
  unfold Candidate.select Candidate.selectBy
  split
  · exact repeats_throw
  · exact repeats_pure (by simp)
  · rename_i c cs _
    refine (h.draw _).bind ?_
    rintro _ ⟨i, j⟩ _ rfl
    have hi := getD_mem (List.mem_cons_self : c ∈ c :: cs) i
    have hj := getD_mem (List.mem_cons_self : c ∈ c :: cs) j
    refine (h.fitter (hpop _ hi) (hpop _ hj)).mono ?_
    rintro _ e _ (rfl | rfl)
    · exact hi
    · exact hj

end Agreement

end GeneticRepair
