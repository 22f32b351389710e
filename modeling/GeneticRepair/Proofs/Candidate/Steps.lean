import GeneticRepair.Candidate.Crossover
import GeneticRepair.Candidate.Evaluation
import GeneticRepair.Candidate.Stepwise
import GeneticRepair.Proofs.Candidate.Question
import GeneticRepair.Proofs.Passage

/-!
# Steps of a laboratory

All that is done with candidates is composed of a few steps: the toolchain is used, memos are made,
read and written, numbers are drawn, and the baseline is set. Threads that evaluate candidates take
steps of their own, none of which sets a baseline.
-/

namespace GeneticRepair

open GeneticRepair.Code

variable {R T G α β : Type}

namespace Lab

/-- The change leaves the baseline as it is. -/
def Quiet (s s' : Lab T G) : Prop :=
  s'.baseline = s.baseline

/-- The steps of a laboratory. -/
inductive Step : Actions Failure (Lab T G)
  | get : Step _ get
  | use {α : Type} (act : ExceptT ToolchainError (StateM T) α) : Step _ (use act)
  | draw {α : Type} (act : StateM G α) : Step _ (draw act)
  | newMemo : Step _ newMemo
  | setMemo (i : Nat) (m : Memo) : Step _ (setMemo i m)
  | baseline (r : TestRun) : Step _ (Candidate.baseline r)
  | thread {α : Type} (thread : Thread (Lab T G) α) (takes : thread.Takes Quiet) :
      Step _ (ExceptT.lift thread.advance)

variable {ε : Type}

private theorem composed_orFail (failure : ε → Failure) (e : Except ε α) :
    Composed (Step (T := T) (G := G)) α (orFail failure e) := by
  cases e with
  | ok a => exact .pure a
  | error e => exact .throw _

private theorem composed_draw (act : StateM G α) : Composed (Step (T := T)) α (draw act) :=
  .atom (.draw act)

private theorem composed_sample (act : ExceptT SamplingError (StateM G) α) :
    Composed (Step (T := T)) α (sample act) := by
  apply (composed_draw act.run).then
  intro r
  cases r with
  | ok a => exact .pure a
  | error e => exact .throw _

private theorem composed_memo (i : Nat) : Composed (Step (T := T) (G := G)) Memo (memo i) :=
  (Composed.atom .get).then fun _ => .pure _

private theorem composed_setMemo (i : Nat) (m : Memo) :
    Composed (Step (T := T) (G := G)) Unit (setMemo i m) :=
  .atom (.setMemo i m)

private theorem composed_newMemo : Composed (Step (T := T) (G := G)) Nat newMemo :=
  .atom .newMemo

end Lab

open Lab

namespace Candidate

/-! ## Evaluation -/

section Evaluation

variable [Toolchain T] (c : Candidate R)

omit [Toolchain T] in
private theorem composed_rememberBuild (m : Memo) (build : BuildOutcome) :
    Composed (Step (T := T) (G := G)) Bool (c.rememberBuild m build) :=
  (composed_setMemo _ _).then fun _ => .pure _

theorem composed_isCompilable : Composed (Step (T := T) (G := G)) Bool c.isCompilable := by
  apply (composed_memo _).then
  intro m
  split
  · exact .pure _
  · exact c.composed_rememberBuild _ _
  · apply (Composed.atom (.use _)).then
    intro r
    split
    · exact c.composed_rememberBuild _ _
    · exact .pure _
    · exact .throw _

private theorem composed_testAll :
    Composed (Step (T := T) (G := G)) TestRun (runTests.testAll c) := by
  apply (Composed.atom (.use _)).then
  intro r
  split
  · exact .pure _
  · exact .throw _
  · exact .throw _

private theorem composed_runTests (build : Option BuildOutcome) :
    Composed (Step (T := T) (G := G)) TestRun (c.runTests build) := by
  unfold runTests
  split
  · split
    · exact c.composed_testAll
    · exact .pure _
  · exact c.composed_testAll

private theorem composed_evaluate : Composed (Step (T := T) (G := G)) TestRun c.evaluate := by
  apply (composed_memo _).then
  intro m
  split
  · exact .pure _
  · apply (c.composed_runTests _).then
    intro result
    exact (composed_setMemo _ _).then fun _ => .pure _

theorem composed_evaluate? :
    Composed (Step (T := T) (G := G)) (Option TestRun) c.evaluate? := by
  apply c.composed_evaluate.map.tryCatch
  intro e
  split
  · exact .pure _
  · exact .throw _

private theorem composed_evaluateCompiled? :
    Composed (Step (T := T) (G := G)) (Option TestRun) c.evaluateCompiled? := by
  apply c.composed_isCompilable.then
  intro compiles
  split
  · exact c.composed_evaluate?.then fun _ => .pure _
  · exact .pure _

omit [Toolchain T] in
theorem composed_isEvaluated : Composed (Step (T := T) (G := G)) Bool c.isEvaluated :=
  ((composed_memo _).then fun _ => .pure _).then fun _ => .pure _

omit [Toolchain T] in
private theorem composed_spectra : Composed (Step (T := T) (G := G)) Spectra c.spectra := by
  apply (composed_memo _).then
  intro m
  dsimp only
  split
  · exact .pure _
  · exact (composed_setMemo _ _).then fun _ => .pure _
  · exact .pure _

variable [Scalar R]

private theorem composed_suspiciousness :
    Composed (Step (T := T) (G := G)) (Localization R) c.suspiciousness := by
  apply c.composed_evaluateCompiled?.then
  intro result
  split
  · exact c.composed_spectra.then fun _ => composed_orFail _ _
  · exact .pure _

theorem composed_fitness : Composed (Step (T := T) (G := G)) R c.fitness := by
  apply c.composed_evaluateCompiled?.then
  intro result
  split
  · exact (Composed.atom (.baseline _)).then fun _ => composed_orFail _ _
  · exact .pure _

theorem composed_isRepair : Composed (Step (T := T) (G := G)) Bool c.isRepair := by
  have hmeets : Composed (Step (T := T) (G := G)) Bool c.meetsBaseline := by
    apply (Composed.atom .get).then
    intro s
    split
    · exact .pure _
    · apply c.composed_evaluateCompiled?.then
      intro result
      cases result <;> exact .pure _
  rw [isRepair_eq]
  apply (Composed.atom .get).then
  intro s
  split
  · exact c.composed_fitness.then fun _ => hmeets
  · exact hmeets

end Evaluation

/-! ## Variation -/

section Variation

variable (c d : Candidate R)

private theorem composed_derive (lines : List String) :
    Composed (Step (T := T) (G := G)) (Candidate R) (c.derive lines) :=
  composed_newMemo.then fun _ => .pure _

private theorem composed_derive_both (xs ys : List String) :
    Composed (Step (T := T) (G := G)) (Candidate R × Candidate R)
      (do return (← c.derive xs, ← d.derive ys)) := by
  apply (c.composed_derive xs).then
  intro u
  exact (d.composed_derive ys).then fun _ => .pure _

private theorem composed_derive_printed (module : Node) :
    Composed (Step (T := T) (G := G)) (Candidate R)
      (do c.derive (← Candidate.printed module)) :=
  (composed_orFail _ _).then fun lines => c.composed_derive lines

variable [RandomSource G]

private theorem composed_edit (module : Node) (crossScope : Bool) (target : Statement) (e : Edit) :
    Composed (Step (T := T) (G := G)) (Option Node) (edit module crossScope target e) := by
  unfold edit
  split
  · exact (composed_orFail _ _).then fun _ => .pure _
  · split
    · exact .pure _
    · apply (composed_draw _).then
      intro donor
      split <;> exact (composed_orFail _ _).then fun _ => .pure _

private theorem composed_mutateStatement [Scalar R] (module : Node)
    (localization : Localization R) :
    Composed (Step (T := T) (G := G)) (Candidate R) (c.mutateStatement module localization) := by
  unfold mutateStatement
  dsimp only
  split
  · exact .pure _
  · apply (composed_sample _).then
    intro line
    split
    · exact .pure _
    · apply (composed_draw _).then
      intro e
      apply (composed_edit _ _ _ e).then
      intro mutant
      split
      · exact .pure _
      · exact c.composed_derive_printed _

private theorem composed_mutateOperator (module : Node) (site : OperatorSite) :
    Composed (Step (T := T) (G := G)) (Candidate R) (c.mutateOperator module site) := by
  unfold mutateOperator
  split
  · exact .pure _
  · apply (composed_draw _).then
    intro op
    exact c.composed_derive_printed _

theorem composed_happens [Scalar R] (probability : R) :
    Composed (Step (T := T) (G := G)) Bool (happens probability) :=
  (composed_draw _).then fun _ => .pure _

private theorem composed_mutateParsed [Toolchain T] [Scalar R] (module : Node) :
    Composed (Step (T := T) (G := G)) (Candidate R) (c.mutateParsed module) := by
  apply c.composed_suspiciousness.then
  intro localization
  split
  · exact c.composed_mutateStatement module localization
  · split
    · exact c.composed_mutateStatement module localization
    · apply (composed_happens _).then
      intro happens
      split
      · apply (composed_draw _).then
        intro site
        exact c.composed_mutateOperator module site
      · exact c.composed_mutateStatement module localization

theorem composed_mutate [Toolchain T] [Scalar R] :
    Composed (Step (T := T) (G := G)) (Candidate R) c.mutate := by
  apply c.composed_isCompilable.then
  intro compiles
  split
  · split
    · exact c.composed_mutateParsed _
    · exact .pure _
  · exact .pure _

private theorem composed_crossLines :
    Composed (Step (T := T) (G := G)) (Candidate R × Candidate R) (c.crossLines d) := by
  unfold crossLines
  dsimp only
  split
  · exact .pure _
  · apply (composed_draw _).then
    intro cut
    exact c.composed_derive_both d _ _

private theorem composed_drawPair (x : Statement) (xs : List Statement) (y : Statement)
    (ys : List Statement) (attempts : Nat) :
    Composed (Step (T := T) (G := G)) (Option (Statement × Statement))
      (drawPair x xs y ys attempts) := by
  induction attempts with
  | zero => exact .pure _
  | succ attempts ih =>
    apply (composed_draw _).then
    intro mine
    apply (composed_draw _).then
    intro theirs
    split
    · exact .pure _
    · exact ih

private theorem composed_crossStatements (maxAttempts : Quantity) (m n : Node) :
    Composed (Step (T := T) (G := G)) (Candidate R × Candidate R)
      (crossStatements maxAttempts c d m n) := by
  unfold crossStatements
  split
  · split
    · exact .throw _
    · apply (composed_drawPair _ _ _ _ _).then
      intro pair
      split
      · exact .pure _
      · apply (composed_orFail _ _).then
        intro lines
        split
        · exact c.composed_derive_both d _ _
        · exact .pure _
  · exact .pure _

theorem composed_crossover :
    Composed (Step (T := T) (G := G)) (Candidate R × Candidate R) (c.crossover d) := by
  unfold crossover
  split
  · exact c.composed_crossLines d
  · split
    · exact c.composed_crossStatements d _ _ _
    · exact .pure _

theorem composed_select [Toolchain T] [Scalar R] (population : List (Candidate R)) :
    Composed (Step (T := T) (G := G)) (Candidate R) (select population) := by
  unfold select selectBy
  split
  · exact .throw _
  · exact .pure _
  · apply (composed_draw _).then
    intro ij
    apply (composed_fitness _).then
    intro x
    exact (composed_fitness _).then fun _ => .pure _

end Variation

/-! ## Evaluation in steps -/

section Threads

variable [Toolchain T] [Stepwise T] (c : Candidate R)

private theorem takes_testAll : (testing.testAll c).run.Takes (Quiet (T := T) (G := G)) := by
  have huse : (Lab.useInSteps (Stepwise.testing c.program c.suite)).run.Takes
      (Quiet (T := T) (G := G)) :=
    Thread.Takes.bind (Thread.takes_within fun _ _ => rfl) fun _ => trivial
  apply huse.run_bind
  intro r
  rcases r with (_ | _) | _ <;> trivial

private theorem takes_testing (build : Option BuildOutcome) :
    (c.testing build).run.Takes (Quiet (T := T) (G := G)) := by
  unfold testing
  split
  · split
    · exact c.takes_testAll
    · trivial
  · exact c.takes_testAll

private theorem takes_evaluation : c.evaluation.run.Takes (Quiet (T := T) (G := G)) := by
  have hmemo : (Thread.attempt (Lab.memo c.memo)).run.Takes (Quiet (T := T) (G := G)) :=
    Thread.takes_attempt fun _ => rfl
  apply hmemo.run_bind
  intro m
  split
  · trivial
  · apply (c.takes_testing _).run_bind
    intro result
    have hset : ∀ n, (Thread.attempt (Lab.setMemo c.memo n)).run.Takes
        (Quiet (T := T) (G := G)) := fun _ => Thread.takes_attempt fun _ => rfl
    exact (hset _).run_bind fun _ => trivial

theorem takes_evaluation? : c.evaluation?.run.Takes (Quiet (T := T) (G := G)) := by
  have hsome : (do return some (← c.evaluation)).run.Takes (Quiet (T := T) (G := G)) :=
    c.takes_evaluation.run_bind fun _ => trivial
  apply hsome.run_tryCatch
  intro e
  cases e <;> trivial

end Threads

end Candidate

end GeneticRepair
