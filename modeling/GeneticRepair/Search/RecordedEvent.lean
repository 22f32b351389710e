import GeneticRepair.Search.Event
/-!
# Recorded events

Events as documents: the kind of an event and then what it holds, in which the lines of a program
stand for a candidate. Counts, scores and verdicts are kept as they are given.
-/

namespace GeneticRepair

abbrev RecordedEvent :=
  Event Value Value Value Value

namespace RecordedEvent

inductive ReadError where
  | unknownKind
  /-- There is no program where a candidate belongs, or one where something else belongs. -/
  | misplacedCandidate
  deriving Repr, DecidableEq

/-- The candidate of some lines, of which nothing else is known. -/
def candidateOf (lines : List String) : Candidate Value :=
  ⟨"", lines, ⟨"", [], []⟩, ⟨.classic false, .raw, .ochiai, ⟨.null, .null⟩⟩, 0⟩

def candidateOfValue : Value → Except ReadError (Candidate Value)
  | .list vs =>
    candidateOf <$> vs.mapM fun
      | .text s => return s
      | _ => throw .misplacedCandidate
  | _ => throw .misplacedCandidate

def plainOfValue : Value → Except ReadError Value
  | .list _ => throw .misplacedCandidate
  | v => return v

def ofValue (v : Value) : Except ReadError RecordedEvent := do
  match v with
  | .list [.text "search-started", seed] =>
    return .searchStarted (← candidateOfValue seed)
  | .list [.text "generation-started", generation, size] =>
    return .generationStarted (← plainOfValue generation) (← plainOfValue size)
  | .list [.text "candidate-evaluated", c, generation, fitness, isRepair] =>
    return .candidateEvaluated (← candidateOfValue c) (← plainOfValue generation)
      (← plainOfValue fitness) (← plainOfValue isRepair)
  | .list [.text "generation-finished", generation, best, fitness] =>
    return .generationFinished (← plainOfValue generation) (← candidateOfValue best)
      (← plainOfValue fitness)
  | .list [.text "repair-found", c, generation] =>
    return .repairFound (← candidateOfValue c) (← plainOfValue generation)
  | .list [.text "search-finished", c, fitness, isRepair, generations, timeTaken] =>
    return .searchFinished ⟨← candidateOfValue c, ← plainOfValue fitness, ← plainOfValue isRepair,
      ← plainOfValue generations, ← plainOfValue timeTaken⟩
  | _ => throw .unknownKind

end RecordedEvent

end GeneticRepair
