import GeneticRepair.Candidate.Evaluation
import GeneticRepair.Proofs.Candidate.Mutation
import GeneticRepair.Proofs.Candidate.Question

/-!
# What scoring comes to

Scoring and judging a candidate fail where its tools cannot be used, or where its score cannot be
calculated; a tournament fails where a member cannot be scored, or where there is none.
-/

namespace GeneticRepair.Candidate

variable {R T G : Type} [Toolchain T] [Scalar R] {k : Contract T} {c d : Candidate R}
  {failure : Failure → Prop}

/-- No score fails to be calculated but in these ways. -/
def ScoresOr (failure : Failure → Prop) (c : Candidate R) : Prop :=
  ∀ b passing e, score c.strategies.weights b passing = .error e → failure (.arithmetic e)

section Fitness

variable (hspares : k.Spares failure) (hscores : c.ScoresOr failure)
include hspares hscores

theorem ends_fitness : Ends (k.Binds (G := G)) c.fitness (fun _ => True) failure := by
  refine (ends_evaluateCompiled? hspares).bind fun result _ => ?_
  cases result with
  | none => exact ends_pure trivial
  | some r =>
    have hbaseline : Ends (k.Binds (G := G)) (baseline r) (fun _ => True) failure := by
      intro s hs
      rw [returns_baseline s r]
      exact ⟨trivial, hs⟩
    exact hbaseline.bind fun b _ => Lab.ends_orFail (fun _ _ => trivial) (hscores b r.passing)

theorem ends_isRepair : Ends (k.Binds (G := G)) c.isRepair (fun _ => True) failure := by
  have hmeets : Ends (k.Binds (G := G)) c.meetsBaseline (fun _ => True) failure := by
    refine ends_get.bind fun s _ => ?_
    cases s.baseline with
    | none => exact ends_pure trivial
    | some b =>
      refine (ends_evaluateCompiled? hspares).bind fun result _ => ?_
      cases result <;> exact ends_pure trivial
  rw [isRepair_eq]
  refine ends_get.bind fun s _ => ?_
  split
  · exact (ends_fitness hspares hscores).bind fun _ _ => hmeets
  · exact hmeets

end Fitness

private theorem ends_fitter (hspares : k.Spares failure) (hc : c.ScoresOr failure)
    (hd : d.ScoresOr failure) :
    Ends (k.Binds (G := G)) (c.fitter d) (fun z => z = c ∨ z = d) failure := by
  refine (ends_fitness hspares hc).bind fun x _ => ?_
  refine (ends_fitness hspares hd).bind fun y _ => ends_pure ?_
  split
  · exact .inl rfl
  · exact .inr rfl

theorem ends_select [RandomSource G] (hspares : k.Spares failure) {pool : List (Candidate R)}
    (hscores : ∀ c ∈ pool, c.ScoresOr failure) (hempty : pool = [] → failure .emptyPopulation) :
    Ends (k.Binds (G := G)) (select pool) (fun z => z ∈ pool) failure := by
  match pool with
  | [] => exact ends_throw (hempty rfl)
  | [c] => exact ends_pure List.mem_cons_self
  | c :: d :: pool =>
    have hmem : ∀ i, (c :: d :: pool).getD i c ∈ c :: d :: pool := getD_mem List.mem_cons_self
    have hdraw : Ends (k.Binds (G := G)) (Lab.draw (Random.twoBelow (c :: d :: pool).length))
        (fun _ => True) failure :=
      Lab.ends_draw fun _ => trivial
    refine hdraw.bind fun ij _ => ?_
    have hfitter := ends_fitter (G := G) hspares (hscores _ (hmem ij.1)) (hscores _ (hmem ij.2))
    refine hfitter.mono ?_ fun _ h => h
    rintro _ (rfl | rfl)
    · exact hmem ij.1
    · exact hmem ij.2

end GeneticRepair.Candidate
