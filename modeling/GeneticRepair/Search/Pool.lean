import GeneticRepair.Candidate.Stepwise
import GeneticRepair.Search.Genetic
/-!
# Searches with several threads

A pool evaluates several candidates at a time. A schedule says in which order they take their steps;
when it is over they are awaited one after another. Everything else is done as in a search with one
thread.
-/

namespace GeneticRepair.Search

variable {R T G : Type} [Toolchain T] [Stepwise T]

/-- Awaits results in order; the first failure ends that. -/
def await : List (Thread (Lab T G) (Except Failure (Option TestRun))) → Action T G Unit
  | [] => return
  | thread :: threads => do
    let _ ← Thread.complete (ExceptT.mk thread)
    await threads

def evaluateInPool (schedule : List Nat) (cs : List (Candidate R)) : Action T G Unit := do
  let threads := cs.map fun c => c.evaluation?.run
  await (← (Thread.interleave schedule threads : StateM (Lab T G) _))

/-- Evaluates each distinct candidate that has not been evaluated, in a pool if there are several of
them and several threads. -/
def evaluateAllWith (threads : Quantity) (schedule : List Nat) (cs : List (Candidate R)) :
    Action T G Unit := do
  let pending := distinct (← unevaluated cs)
  if Scalar.less (.ofInt 1) threads && pending.length > 1 then
    evaluateInPool schedule pending
  else
    for c in pending do
      let _ ← c.evaluate?

variable [Scalar R] [RandomSource G]

/-- Searches once, with as many threads as the settings say and a schedule for each generation. -/
def searchInPool (schedules : Int → List Nat) (settings : SearchSettings R) (seed : Candidate R) :
    Searching R T G (SearchResult R) :=
  searchBy settings (fun generation => evaluateAllWith settings.threads (schedules generation)) seed

end GeneticRepair.Search
