import GeneticRepair.Proofs.Candidate.Crossover
import GeneticRepair.Proofs.Candidate.Scoring
import GeneticRepair.Proofs.Search.Breeding
import GeneticRepair.Proofs.Search.Leftovers

/-!
# Searches that can count

Whatever the toolchain does, and with any number of threads, a search fails for want of an integer
only if one of the counts in its settings is a fraction, or the limit of its crossings is.
-/

namespace GeneticRepair

variable {R T G α β σ : Type}

/-- However the action ends, it does not fail for want of an integer, and it has such a value. -/
abbrev Counts (act : ExceptT Failure (StateM σ) α) (value : α → Prop) : Prop :=
  Ends (fun _ => True) act value (· ≠ .fractionalCount)

/-- The settings that are counted with are integers. -/
structure SearchSettings.Integral (settings : SearchSettings R) : Prop where
  population : settings.populationSize.int? ≠ none
  generations : settings.numGenerations.int? ≠ none
  attempts : settings.maxMutationAttempts.int? ≠ none

/-! ## Any toolchain -/

def Contract.any (T : Type) [Toolchain T] : Contract T where
  valid _ := True
  build _ _ := True
  testRun _ _ _ := True
  compile_answers _ _ _ := ⟨trivial, trivial⟩
  runTests_answers _ _ _ _ := ⟨trivial, trivial⟩

private theorem Contract.spares_any [Toolchain T] :
    (Contract.any T).Spares (· ≠ .fractionalCount) where
  build _ _ _ := Failure.noConfusion
  testRun _ _ _ _ := Failure.noConfusion

private theorem Thread.secures_of_total {rel : σ → σ → Prop} {post : α → σ → Prop}
    (hrel : ∀ s s', rel s s') (hpost : ∀ a s, post a s) (thread : Thread σ α) (s : σ) :
    thread.Secures rel post s := by
  induction thread generalizing s with
  | done a => exact fun s' _ => hpost a s'
  | step next update ih => exact fun s' _ => ⟨hrel s' (update s'), ih s' (update s')⟩

def Attempting.any (T : Type) [Toolchain T] [Stepwise T] : Attempting T fun _ => True where
  valid _ := True
  testing_secures p suite t _ := by
    refine Thread.secures_of_total (fun _ _ => id) (fun r _ => ?_) _ t
    cases r <;> trivial

namespace Search

variable {c seed : Candidate R} {cs population : List (Candidate R)}

private theorem Crossable.subset (h : Crossable population) (hsub : cs ⊆ population) :
    Crossable cs :=
  fun c hc => h c (hsub hc)

private theorem counts_count {q : Quantity} (hq : q.int? ≠ none) :
    Counts (count q : Action T G Int) fun _ => True := by
  unfold count
  cases h : q.int? with
  | none => exact absurd h hq
  | some n => exact ends_pure trivial

private theorem counts_inLab {act : Action T G α} {value : α → Prop} (h : Counts act value) :
    Counts (inLab act : Searching R T G α) value := by
  intro s _
  exact ⟨(h s.lab trivial).1, trivial⟩

private theorem counts_modify {f : σ → σ} :
    Counts (modify f : ExceptT Failure (StateM σ) Unit) fun _ => True :=
  ends_modify fun _ _ => trivial

/-! ## One generation -/

variable [Toolchain T]

private theorem counts_isCompilable (c : Candidate R) :
    Counts (c.isCompilable : Action T G Bool) fun _ => True :=
  Candidate.ends_isCompilable Contract.spares_any

private theorem counts_evaluateAllWith [Stepwise T] (threads : Quantity) (schedule : List Nat)
    (cs : List (Candidate R)) :
    Counts (evaluateAllWith threads schedule cs : Action T G Unit) fun _ => True := by
  intro s _
  obtain ⟨r, s', hrun, -, hr⟩ := run_outcomes (Attempting.any T) trivial threads schedule cs
  rw [evaluateAllWith_eq]
  cases r with
  | error e =>
    obtain ⟨reason, rfl, -⟩ := hr
    rw [run_bind_error hrun]
    exact ⟨Failure.noConfusion, trivial⟩
  | ok tried =>
    rw [Returns.run_bind hrun]
    exact ⟨trivial, trivial⟩

variable [Scalar R]

private theorem counts_fitness (c : Candidate R) :
    Counts (c.fitness : Action T G R) fun _ => True :=
  Candidate.ends_fitness Contract.spares_any fun _ _ _ _ => Failure.noConfusion

private theorem counts_isRepair (c : Candidate R) :
    Counts (c.isRepair : Action T G Bool) fun _ => True :=
  Candidate.ends_isRepair Contract.spares_any fun _ _ _ _ => Failure.noConfusion

private theorem counts_scoreAll (generation : Int) (population : List (Candidate R)) :
    Counts (scoreAll generation population : Searching R T G _) fun _ => True := by
  induction population with
  | nil => exact ends_pure trivial
  | cons c cs ih =>
    apply (counts_inLab (counts_fitness c)).bind
    intro fitness _
    apply (counts_inLab (counts_isRepair c)).bind
    intro isRepair _
    apply counts_modify.bind
    intro _ _
    split
    · apply counts_modify.bind
      intro _ _
      exact counts_modify.bind fun _ _ => ends_pure trivial
    · apply ends_get.bind
      intro s _
      have hset : Counts (do setBest c fitness; scoreAll generation cs : Searching R T G _)
          fun _ => True :=
        counts_modify.bind fun _ _ => ih
      cases s.best with
      | none => exact hset
      | some best =>
        dsimp only
        split
        · exact hset
        · exact ih

variable {evaluate : List (Candidate R) → Action T G Unit}

private theorem counts_evaluateGenerationBy
    (hevaluate : Counts (evaluate population) fun _ => True) (generation : Int) :
    Counts (evaluateGenerationBy evaluate population generation) fun _ => True := by
  apply counts_modify.bind
  intro _ _
  apply (counts_inLab hevaluate).bind
  intro _ _
  apply (counts_scoreAll generation population).bind
  intro repair _
  cases repair with
  | some c => exact ends_pure trivial
  | none =>
    apply ends_get.bind
    intro s _
    cases s.best with
    | none => exact ends_throw Failure.noConfusion
    | some best => exact counts_modify.bind fun _ _ => ends_pure trivial

private theorem counts_finish (state : SearchState) (c : Candidate R) (generations : Quantity) :
    Counts (finish state c generations : Searching R T G _) fun _ => True := by
  apply counts_modify.bind
  intro _ _
  apply (counts_inLab (counts_fitness c)).bind
  intro fitness _
  apply (counts_inLab (counts_isRepair c)).bind
  intro isRepair _
  exact ends_pure trivial

private theorem counts_giveUp (state : SearchState) (generations : Quantity) :
    Counts (giveUp state generations : Searching R T G _) fun _ => True := by
  apply ends_get.bind
  intro s _
  cases s.best with
  | none => exact ends_throw Failure.noConfusion
  | some best => exact counts_finish state best.1 generations

/-! ## Populations -/

variable [RandomSource G]

private theorem counts_mutate (hc : c.strategies.crossover.Limited) :
    Counts (c.mutate : Action T G _) fun d => d.strategies.crossover.Limited := by
  have himpedes : ∀ e, c.Impedes e → e ≠ .fractionalCount := by
    rintro _ (h | ⟨_, _, _, _, rfl⟩) hcount
    · rw [hcount] at h
      exact h
    · cases hcount
  refine (Candidate.ends_mutate Contract.spares_any himpedes).mono ?_ fun _ h => h
  rintro d (rfl | hbears)
  · exact hc
  · rw [hbears.strategies]
    exact hc

private theorem counts_compilableMutant (hc : c.strategies.crossover.Limited) (attempts : Nat) :
    Counts (compilableMutant c attempts : Action T G _)
      fun d => d.strategies.crossover.Limited := by
  induction attempts with
  | zero => exact ends_pure hc
  | succ attempts ih =>
    apply (counts_mutate hc).bind
    intro d hd
    apply (counts_isCompilable d).bind
    intro compiles _
    split
    · exact ends_pure hd
    · exact ih

variable {settings : SearchSettings R}

private theorem counts_mutant (h : settings.Integral) (hc : c.strategies.crossover.Limited) :
    Counts (mutant settings c : Action T G _) fun d => d.strategies.crossover.Limited :=
  (counts_count h.attempts).bind fun n _ => counts_compilableMutant hc n.toNat

private theorem counts_fillWith (h : settings.Integral) (hc : c.strategies.crossover.Limited)
    (missing : Nat) : Counts (fillWith settings c missing : Action T G _) Crossable := by
  induction missing with
  | zero => exact ends_pure (by simp [Crossable])
  | succ missing ih =>
    apply (counts_mutant h hc).bind
    intro d hd
    apply ih.bind
    intro ds hds
    exact ends_pure (List.forall_mem_cons.mpr ⟨hd, hds⟩)

private theorem counts_initial (h : settings.Integral) (hc : c.strategies.crossover.Limited) :
    Counts (initial settings c : Action T G _) Crossable :=
  (counts_fillWith h hc _).bind fun _ hds => ends_pure (List.forall_mem_cons.mpr ⟨hc, hds⟩)

private theorem counts_select (hpop : Crossable population) :
    Counts (Candidate.select population : Action T G _)
      fun d => d.strategies.crossover.Limited := by
  have hselect : Counts (Candidate.select population : Action T G _) (· ∈ population) :=
    Candidate.ends_select Contract.spares_any (fun _ _ _ _ _ _ => Failure.noConfusion)
      fun _ => Failure.noConfusion
  exact hselect.mono (fun d hd => hpop d hd) fun _ h => h

private theorem counts_selectOther (x : Candidate R) (fuel : Nat) {y : Candidate R}
    (hy : y.strategies.crossover.Limited) (hpop : Crossable population) :
    Counts (selectOther Candidate.select x fuel y population : Action T G _)
      fun d => d.strategies.crossover.Limited := by
  induction fuel generalizing y population with
  | zero => exact ends_pure hy
  | succ fuel ih =>
    rw [selectOther]
    split
    · apply (counts_select hpop).bind
      intro z hz
      exact ih hz (hpop.subset (removeSame_sublist z population).subset)
    · exact ends_pure hy

private theorem counts_parents (hpop : Crossable population) :
    Counts (parents Candidate.select population : Action T G _)
      fun xy => xy.1.strategies.crossover.Limited ∧ xy.2.strategies.crossover.Limited := by
  apply (counts_select hpop).bind
  intro x hx
  have hpool : Crossable (poolAfter x population) :=
    hpop.subset (poolAfter_sublist x population).subset
  apply (counts_select hpool).bind
  intro y hy
  have hleft := hpool.subset (removeSame_sublist y (poolAfter x population)).subset
  exact (counts_selectOther x _ hy hleft).bind fun z hz => ends_pure ⟨hx, hz⟩

private theorem counts_breedUntil (hpop : Crossable population) (fuel : Nat) (hcs : Crossable cs) :
    Counts (breedUntil settings Candidate.select population fuel cs : Action T G _) Crossable := by
  induction fuel generalizing cs with
  | zero => exact ends_pure hcs
  | succ fuel ih =>
    rw [breedUntil]
    split
    · apply (counts_parents hpop).bind
      rintro ⟨x, y⟩ ⟨hx, hy⟩
      have hcrossed : Counts (x.crossover y : Action T G _) (x.Offspring y) := by
        refine (Candidate.ends_crossover (k := .any T)).mono (fun _ h => h) ?_
        rintro e ⟨-, q, hq, hnone⟩
        exact absurd hnone (hx q hq)
      apply hcrossed.bind
      rintro ⟨u, v⟩ ⟨hu, hv⟩
      apply (Ends.filterM fun c _ => counts_isCompilable c).bind
      intro children hchildren
      have hlimited : Crossable children := by
        intro c hc
        rcases List.mem_pair.mp (hchildren c hc).1 with rfl | rfl
        · exact hu.strategies ▸ hx
        · exact hv.strategies ▸ hy
      apply ih
      simp only [Crossable, List.forall_mem_append, List.forall_mem_cons]
      exact ⟨⟨hcs, hx, hy, by simp⟩, hlimited⟩
    · exact ends_pure hcs

private theorem counts_breed (h : settings.Integral) (hpop : Crossable population) :
    Counts (breed settings population : Action T G _) Crossable := by
  apply (counts_breedUntil hpop _ (by simp [Crossable])).bind
  intro offspring hoffspring
  apply (counts_count h.population).bind
  intro n _
  exact ends_pure (hoffspring.subset (List.take_subset _ _))

private theorem counts_mutateSome (h : settings.Integral) (hpop : Crossable population) :
    Counts (mutateSome settings population : Action T G _) Crossable := by
  apply Ends.mapM
  intro c hc
  apply (Candidate.ends_happens (k := .any T)).bind
  intro happens _
  split
  · exact counts_mutant h (hpop c hc)
  · exact ends_pure (hpop c hc)

private theorem counts_advance (h : settings.Integral) (hpop : Crossable population)
    (generation : Int) :
    Counts (advance settings population generation : Searching R T G _)
      fun next => ∀ cs ∈ next, Crossable cs := by
  apply (counts_inLab (Ends.filterM fun c _ => counts_isCompilable c)).bind
  intro compilable hcompilable
  have hsub : Crossable compilable := hpop.subset fun c hc => (hcompilable c hc).1
  split
  · exact ends_pure (by simp)
  · apply counts_modify.bind
    intro _ _
    apply (counts_inLab (counts_breed h hsub)).bind
    intro bred hbred
    apply counts_modify.bind
    intro _ _
    apply (counts_inLab (counts_mutateSome h hbred)).bind
    intro next hnext
    apply counts_modify.bind
    intro _ _
    exact ends_pure (by simpa using hnext)

/-! ## Whole searches -/

variable {evaluateBy : Int → List (Candidate R) → Action T G Unit}

private theorem counts_generationsBy (h : settings.Integral)
    (hevaluate : ∀ n cs, Counts (evaluateBy n cs) fun _ => True) (hpop : Crossable population)
    (generation : Int) (left : Nat) :
    Counts (generationsBy settings evaluateBy population generation left) fun _ => True := by
  induction left generalizing population generation with
  | zero => exact counts_giveUp _ _
  | succ left ih =>
    apply (counts_advance h hpop generation).bind
    intro next hnext
    cases next with
    | none => exact counts_giveUp _ _
    | some next =>
      apply (counts_evaluateGenerationBy (hevaluate generation next) generation).bind
      intro repair _
      cases repair with
      | some c => exact counts_finish _ c _
      | none => exact ih (hnext next rfl) (generation + 1)

private theorem counts_launch [Stepwise T] (h : settings.Integral)
    (hseed : seed.strategies.crossover.Limited) :
    Counts (launch settings seed : Searching R T G _) Crossable := by
  have hone : Counts (evaluateAll [seed] : Action T G Unit) fun _ => True :=
    counts_evaluateAllWith (.ofInt 1) [] [seed]
  apply counts_modify.bind
  intro _ _
  apply (counts_inLab hone).bind
  intro _ _
  apply counts_modify.bind
  intro _ _
  apply (counts_inLab (counts_fitness seed)).bind
  intro fitness _
  apply counts_modify.bind
  intro _ _
  apply (counts_inLab (counts_initial h hseed)).bind
  intro population hpop
  exact counts_modify.bind fun _ _ => ends_pure hpop

/-- A search whose counts are integers, and whose crossings are limited by integers, never fails for
want of an integer. -/
theorem counts_searchInPool [Stepwise T] (h : settings.Integral)
    (hseed : seed.strategies.crossover.Limited) (schedules : Int → List Nat) :
    Counts (searchInPool schedules settings seed : Searching R T G _) fun _ => True := by
  have hevaluate : ∀ n (cs : List (Candidate R)), Counts
      (evaluateAllWith settings.threads (schedules n) cs : Action T G Unit) fun _ => True :=
    fun n cs => counts_evaluateAllWith settings.threads (schedules n) cs
  have hrun : Counts (runBy settings (fun n => evaluateAllWith settings.threads (schedules n))
      seed : Searching R T G _) fun _ => True := by
    apply (counts_launch h hseed).bind
    intro population hpop
    apply (counts_evaluateGenerationBy (hevaluate 0 population) 0).bind
    intro repair _
    cases repair with
    | some c => exact counts_finish _ c _
    | none =>
      apply (counts_inLab (counts_count h.generations)).bind
      intro limit _
      exact counts_generationsBy h hevaluate hpop 1 limit.toNat
  apply ends_get.bind
  intro s _
  split
  · exact ends_throw Failure.noConfusion
  · dsimp only
    apply counts_modify.bind
    intro _ _
    apply counts_modify.bind
    intro _ _
    apply hrun.bind
    intro result _
    exact counts_modify.bind fun _ _ => ends_pure trivial

end Search

end GeneticRepair
