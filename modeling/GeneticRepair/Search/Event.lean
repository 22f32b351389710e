import GeneticRepair.Candidate.Basic
import GeneticRepair.Document.Value

/-!
# Events of a search

What a search reports while it runs, each event with a message and its data. The counts in the
events of a search are numbers and the verdicts truth values, but whatever has a value can stand for
them.
-/

namespace GeneticRepair

/-- The outcome of a search: the repair, or the fittest candidate that was found. -/
structure SearchResult (R : Type) (N : Type := Quantity) (B : Type := Bool) where
  candidate : Candidate R
  fitness : R
  isRepair : B
  /-- The number of generations that were run. -/
  generations : N
  timeTaken : R

inductive Event (R : Type) (I : Type := Int) (N : Type := Quantity) (B : Type := Bool) where
  | searchStarted (seed : Candidate R)
  | generationStarted (generation size : I)
  | candidateEvaluated (candidate : Candidate R) (generation : I) (fitness : R) (isRepair : B)
  | generationFinished (generation : I) (best : Candidate R) (bestFitness : R)
  | repairFound (candidate : Candidate R) (generation : I)
  | searchFinished (result : SearchResult R N B)

def idValue {R : Type} (c : Candidate R) : Value :=
  .map [("id", .text c.id)]

section Shown

variable {R I N B : Type} [ToValue R] [ToValue I] [ToValue N] [ToValue B]

def isTrue (b : B) : Bool :=
  (toValue b).isTrue

omit [ToValue I] in
def SearchResult.toValue (r : SearchResult R N B) : Value :=
  .map [("candidate", idValue r.candidate), ("fitness", ToValue.toValue r.fitness),
    ("is-repair", ToValue.toValue r.isRepair), ("generations", ToValue.toValue r.generations),
    ("time-taken", ToValue.toValue r.timeTaken)]

namespace Event

omit [ToValue R] [ToValue I] [ToValue N] [ToValue B] in
def name : Event R I N B → String
  | searchStarted _ => "search-started"
  | generationStarted .. => "generation-started"
  | candidateEvaluated .. => "candidate-evaluated"
  | generationFinished .. => "generation-finished"
  | repairFound .. => "repair-found"
  | searchFinished _ => "search-finished"

def label {R : Type} (c : Candidate R) : String :=
  "[" ++ c.id ++ "]"

def message : Event R I N B → Except FixedError String
  | searchStarted seed => return "started search from seed program " ++ label seed
  | generationStarted generation size =>
    return "started generation " ++ shownText generation ++ " with " ++ shownText size ++
      " candidates"
  | candidateEvaluated c _ fitness isRepair => do
    if isTrue isRepair then return "found repair " ++ label c
    else return "scored candidate " ++ label c ++ " with fitness " ++ (← fixedText 1 fitness)
  | generationFinished generation best fitness =>
    return "finished generation " ++ shownText generation ++ ": best fitness so far is " ++
      (← fixedText 1 fitness) ++ " " ++ label best
  | repairFound c generation =>
    return "found repair " ++ label c ++ " in generation " ++ shownText generation
  | searchFinished r =>
    return "search " ++ (if isTrue r.isRepair then "succeeded" else "failed") ++ " after " ++
      shownText r.generations ++ " generations " ++ label r.candidate

def data : Event R I N B → Value
  | searchStarted seed => .map [("seed", idValue seed)]
  | generationStarted generation size =>
    .map [("generation", ToValue.toValue generation), ("population-size", ToValue.toValue size)]
  | candidateEvaluated c generation fitness isRepair =>
    .map [("candidate", idValue c), ("generation", ToValue.toValue generation),
      ("fitness", ToValue.toValue fitness), ("is-repair", ToValue.toValue isRepair)]
  | generationFinished generation best fitness =>
    .map [("generation", ToValue.toValue generation), ("best", idValue best),
      ("best-fitness", ToValue.toValue fitness)]
  | repairFound c generation =>
    .map [("candidate", idValue c), ("generation", ToValue.toValue generation)]
  | searchFinished r => r.toValue

def toValue (e : Event R I N B) : Except FixedError Value :=
  return .map [("type", .text e.name), ("message", .text (← e.message)), ("data", e.data)]

def row : Event R I N B → Except FixedError (List String)
  | searchStarted seed => return ["SEARCH-STARTED", seed.id]
  | generationStarted generation size =>
    return ["GENERATION-STARTED", shownText generation, shownText size]
  | candidateEvaluated c generation fitness isRepair =>
    return ["CANDIDATE", c.id, shownText generation, ← fixedText 1 fitness,
      if isTrue isRepair then "repair" else "rejected"]
  | generationFinished generation best fitness =>
    return ["GENERATION-FINISHED", shownText generation, best.id, ← fixedText 1 fitness]
  | repairFound c generation => return ["REPAIR-FOUND", c.id, shownText generation]
  | searchFinished r =>
    return ["SEARCH-FINISHED", r.candidate.id, if isTrue r.isRepair then "succeeded" else "failed",
      ← fixedText 1 r.fitness, shownText r.generations, ← fixedText 3 r.timeTaken]

end Event

end Shown

/-! ## Event logs

A table of the events of a search, with a row for each of them in the order in which they came. An
end of a line within a cell is written as an escape. In the text of a table, a cell with a comma, a
quote or the end of a line is quoted, and a quote in it is doubled. -/

namespace Table

def isSpecial (c : Char) : Bool :=
  c == ',' || c == '"' || c == '\r' || c == '\n'

def cellText (cell : String) : String :=
  if cell.toList.any isSpecial then "\"" ++ cell.replace "\"" "\"\"" ++ "\"" else cell

def rowText (cells : List String) : String :=
  ",".intercalate (cells.map cellText) ++ "\r\n"

end Table

inductive EventLogError where
  | relativePath (path : String)
  deriving Repr, DecidableEq

def EventLogError.message : EventLogError → String
  | relativePath path => "expected an absolute path for the event log: " ++ path

structure EventLog where
  path : String
  text : String
  deriving DecidableEq

namespace EventLog

def new (path : String) : Except EventLogError EventLog :=
  if Path.isAbsolute path then return ⟨path, ""⟩ else throw (.relativePath path)

def escaped (cell : String) : String :=
  cell.replace "\n" "\\n"

variable {R I N B : Type} [ToValue R] [ToValue I] [ToValue N] [ToValue B]

def record (log : EventLog) (e : Event R I N B) : Except FixedError EventLog :=
  return { log with text := log.text ++ Table.rowText ((← e.row).map escaped) }

def recordAll (log : EventLog) (es : List (Event R I N B)) : Except FixedError EventLog :=
  es.foldlM record log

end EventLog

end GeneticRepair
