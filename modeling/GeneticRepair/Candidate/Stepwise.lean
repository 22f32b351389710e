import GeneticRepair.Candidate.Evaluation
import GeneticRepair.Toolchain.Basic
/-!
# Stepwise evaluation

An evaluation that others may interrupt: it looks at the memo, lets the toolchain run the tests in
its steps, and writes the memo. Without interruption it comes to the evaluation in one go.
-/

namespace GeneticRepair

variable {R T G α : Type}

namespace Lab

def setToolchain (s : Lab T G) (toolchain : T) : Lab T G :=
  { s with toolchain }

def useInSteps (thread : ExceptT ToolchainError (Thread T) α) :
    ExceptT Failure (Thread (Lab T G)) (Except ToolchainError α) :=
  ExceptT.lift (thread.run.within toolchain setToolchain)

theorem complete_useInSteps (thread : ExceptT ToolchainError (Thread T) α) :
    Thread.complete (useInSteps thread) = (use (Thread.complete thread) : Action T G _) := by
  have hset : ∀ (s : Lab T G) t, toolchain (setToolchain s t) = t := fun _ _ => rfl
  have hsame : ∀ s : Lab T G, setToolchain s (toolchain s) = s := fun _ => rfl
  have hlast : ∀ (s : Lab T G) t t', setToolchain (setToolchain s t) t' = setToolchain s t' :=
    fun _ _ _ => rfl
  apply ExceptT.ext
  funext s
  have hlift : (Thread.complete (useInSteps thread) : Action T G _).run =
      (thread.run.within toolchain setToolchain).finish >>= fun r => pure (.ok r) :=
    Thread.finish_bind _ _
  rw [hlift]
  show (Except.ok (((thread.run.within toolchain setToolchain).finish.run s).1),
    ((thread.run.within toolchain setToolchain).finish.run s).2) = _
  rw [Thread.finish_within hset hsame hlast]
  rfl

end Lab

namespace Candidate

variable [Toolchain T] [Stepwise T]

def testing (c : Candidate R) (build : Option BuildOutcome) :
    ExceptT Failure (Thread (Lab T G)) TestRun := do
  match build with
  | some build =>
    if build.successful then testAll else return ⟨build, .empty⟩
  | none => testAll
where
  testAll : ExceptT Failure (Thread (Lab T G)) TestRun := do
    match ← Lab.useInSteps (Stepwise.testing c.program c.suite) with
    | .ok result => return result
    | .error (.system fault) => throw (.evaluation c.id fault)
    | .error e => throw (.toolchain e)

def evaluation (c : Candidate R) : ExceptT Failure (Thread (Lab T G)) TestRun := do
  let m ← Thread.attempt (Lab.memo c.memo)
  match m.result with
  | some result => return result
  | none =>
    let result ← c.testing m.build
    Thread.attempt (Lab.setMemo c.memo { m with result := some result, build := some result.build })
    return result

def evaluation? (c : Candidate R) : ExceptT Failure (Thread (Lab T G)) (Option TestRun) :=
  tryCatch (do return some (← c.evaluation)) fun
    | .evaluation .. => return none
    | e => throw e

theorem complete_testing (c : Candidate R) (build : Option BuildOutcome) :
    Thread.complete (c.testing build) = (c.runTests build : Action T G TestRun) := by
  have hall : Thread.complete (testing.testAll c) = (runTests.testAll c : Action T G TestRun) := by
    rw [testing.testAll, runTests.testAll, Thread.complete_bind, Lab.complete_useInSteps,
      Stepwise.complete_testing]
    congr 1
    funext r
    rcases r with (fault | reason) | result <;> rfl
  cases build with
  | some build =>
    simp only [testing, runTests]
    split
    · exact hall
    · rfl
  | none => exact hall

theorem complete_evaluation (c : Candidate R) :
    Thread.complete c.evaluation = (c.evaluate : Action T G TestRun) := by
  rw [evaluation, evaluate, Thread.complete_bind, Thread.complete_attempt]
  congr 1
  funext m
  cases m.result with
  | some result => rfl
  | none =>
    simp only [Thread.complete_bind, complete_testing]
    rfl

theorem complete_evaluation? (c : Candidate R) :
    Thread.complete c.evaluation? = (c.evaluate? : Action T G (Option TestRun)) := by
  rw [evaluation?, evaluate?, Thread.complete_tryCatch, map_eq_pure_bind, Thread.complete_bind,
    complete_evaluation]
  congr 1
  funext e
  cases e <;> rfl

end Candidate

end GeneticRepair
