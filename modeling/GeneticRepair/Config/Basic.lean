import GeneticRepair.Collection.Entries
import GeneticRepair.Config.Property
import GeneticRepair.File.Path
import GeneticRepair.Search.Genetic
import GeneticRepair.Text.Identifier
/-!
# Configurations

A configuration describes the program under repair, the search, and what candidates share. It is
read from a document; some of its properties may be overridden. Paths are seen from the directory of
the document, if it has one.
-/

namespace GeneticRepair

structure ProgramConfig where
  directory : String
  /-- The name of the module under repair. -/
  module : String
  /-- The test file, as seen from the directory. -/
  tests : String
  interpreter : String
  timeLimit : Quantity

structure Config where
  /-- The directory where the outcomes of searches are saved. -/
  patches : String
  program : ProgramConfig
  search : SearchSettings Quantity
  strategies : Strategies Quantity
  seed : Quantity

structure Overrides where
  seed : Option Value := none
  threads : Option Value := none
  patches : Option Value := none
  generations : Option Value := none
  population : Option Value := none

namespace Overrides

def names : List String :=
  ["seed", "threads", "dir_patches", "generations", "population"]

/-- The overrides that a document gives. Null overrides nothing. -/
def ofValue (v : Value) : Except ConfigError Overrides := do
  unless v.hasOnly names do throw .override
  let given (name : String) := (v.get? name).filter (!·.isNull)
  return {
    seed := given "seed"
    threads := given "threads"
    patches := given "dir_patches"
    generations := given "generations"
    population := given "population" }

end Overrides

structure Surroundings where
  workingDirectory : String
  /-- The interpreter for programs that name none. -/
  interpreter : String

namespace Config

def resolve (directory : Option String) (name path : String) : Except ConfigError String :=
  if Path.isAbsolute path then return Path.normalize path
  else match directory.filter (!·.isEmpty) with
    | some d => return Path.normalize (Path.join d path)
    | none => refuse (.relativePath name)

def patchesOf (here : Surroundings) (directory : Option String) (given : Option Value)
    (v : Value) : Except ConfigError String := do
  let path ← match given with
    | some (.text path) => pure (Path.absolute here.workingDirectory path)
    | some _ => throw .override
    | none => text (.top "save-patches-to") (property v "save-patches-to" (.text "patches"))
  resolve directory "save-patches-to" path

def programOf (here : Surroundings) (directory : Option String) (v : Value) :
    Except ConfigError ProgramConfig := do
  let place (name : String) : Place := .within "program" name
  let module ← match v.get? "module" with
    | some m => text (place "module") m
    | none => refuse .moduleMissing
  let path ← text (place "directory") (property v "directory" (.text "."))
  let path ← resolve directory "directory" path
  let tests ← text (place "tests") (property v "tests" (.text ("test_" ++ module ++ ".py")))
  let interpreter ← text (place "python") (property v "python" (.text here.interpreter))
  let timeLimit ← float (place "time-limit") (property v "time-limit" (.int 10))
  require (Path.isAbsolute path) .relativeDirectory
  require (Text.isIdentifier module) (.notAModule module)
  require (!Scalar.atMost timeLimit (.ofInt 0)) .timeLimit
  return ⟨path, module, tests, interpreter, timeLimit⟩

def algorithm : String := "genprog"

def algorithms : List String := [algorithm]

def requireAlgorithm (kind : Value) : Except ConfigError Unit :=
  match kind with
  | .text s => require (algorithms.contains s) (.unknownAlgorithm s algorithms)
  | _ => do refuse (.unknownAlgorithm (← shown kind) algorithms)

def searchOf (v : Value) : Except ConfigError (SearchSettings Quantity) := do
  let d : SearchSettings Quantity := .defaults
  let setting (name : String) (q : Quantity) := property v name (.ofQuantity q)
  requireAlgorithm (property v "type" (.text algorithm))
  let population ← atLeast 1 (.tooSmall "population" 1) (setting "population" d.populationSize)
  let generations ← atLeast 0 (.tooSmall "generations" 0) (setting "generations" d.numGenerations)
  let rate ← comparable (setting "mutation-rate" d.rateMutation)
  require (Scalar.atMost Scalar.origin rate && Scalar.atMost rate (.ofInt 1)) .mutationRate
  let attempts ← atLeast 1 (.tooSmall "mutation-attempts" 1)
    (setting "mutation-attempts" d.maxMutationAttempts)
  return ⟨population, generations, rate, attempts, d.threads⟩

def weightsOf (v : Value) : Except ConfigError (Weights Quantity) := do
  let weight (name : String) (n : Int) := float (.within "fitness" name) (property v name (.int n))
  let positive ← weight "positive-weight" 1
  let negative ← weight "negative-weight" 10
  match Weights.new positive negative with
  | .ok w => return w
  | .error _ => refuse .negativeWeight

def metricOf (v : Value) : Except ConfigError Metric := do
  let name ← text (.within "localization" "metric") (property v "metric" (.text Metric.ochiai.name))
  match Metric.named name with
  | .ok m => return m
  | .error m => refuse m

def mutatorOf (v : Value) : Except ConfigError (Mutator Quantity) := do
  let type ← text (.within "mutation" "type") (property v "type" (.text "classic"))
  let crossScope ← truth (.within "mutation" "cross-scope-donors")
    (property v "cross-scope-donors" (.bool false))
  match Mutator.ofName type crossScope none with
  | .ok m => return m
  | .error _ => refuse (.unknownType "mutation" type Mutator.names)

def crossoverOf (v : Value) : Except ConfigError Crossover := do
  let type ← text (.within "crossover" "type") (property v "type" (.text "raw"))
  let attempts := property v "max-attempts" (.ofQuantity Crossover.defaultAttempts)
  let attempts ← count (.within "crossover" "max-attempts") attempts
  require (Crossover.names.contains type) (.unknownType "crossover" type Crossover.names)
  require (!Scalar.less attempts (.ofInt 1)) .maxAttempts
  return if type == Crossover.raw.name then .raw else .structural attempts

def integerOf (given : Option Value) (v : Value) (name : String) (default : Int) :
    Except ConfigError Value :=
  match given with
  | some v => return v
  | none => return .int (← integer (.top name) (property v name (.int default)))

def overrideIn (name : String) (given : Option Value) : Value → Value
  | .map entries => .map (match given with
    | some v => Entries.set name v entries
    | none => entries)
  | v => v

def ofValue (here : Surroundings) (directory : Option String) (overrides : Overrides) (v : Value) :
    Except ConfigError Config := do
  require v.isMap .notAnObject
  require (v.get? "program").isSome .programMissing
  let patches ← patchesOf here directory overrides.patches v
  let algorithm ← sectionOf v "algorithm"
  let program ← programOf here directory (← sectionOf v "program")
  let search ← searchOf (overrideIn "population" overrides.population
    (overrideIn "generations" overrides.generations algorithm))
  let weights ← weightsOf (← sectionOf v "fitness")
  let metric ← metricOf (← sectionOf v "localization")
  let mutator ← mutatorOf (← sectionOf v "mutation")
  let crossover ← crossoverOf (← sectionOf v "crossover")
  let seed ← integerOf overrides.seed v "seed" 0
  let threads ← integerOf overrides.threads v "threads" 1
  require (Path.isAbsolute patches) (.relativePatches patches)
  let seed ← atLeast 0 .negativeSeed seed
  let threads ← atLeast 1 .noThread threads
  return ⟨patches, program, { search with threads }, ⟨mutator, crossover, metric, weights⟩, seed⟩

def summary (c : Config) : Except ConfigError String := do
  let shown (q : Quantity) := shown (.ofQuantity q)
  let w := c.strategies.weights
  let lines := [
    "program: " ++ c.program.directory ++ " [" ++ c.program.module ++ "]",
    "tests: " ++ c.program.tests,
    "python: " ++ c.program.interpreter,
    "search: " ++ algorithm,
    "localization: " ++ c.strategies.metric.name,
    "mutation: " ++ c.strategies.mutator.name,
    "crossover: " ++ c.strategies.crossover.name,
    "fitness weights: " ++ (← shown w.positive) ++ " / " ++ (← shown w.negative),
    "seed: " ++ (← shown c.seed),
    "threads: " ++ (← shown c.search.threads),
    "patches: " ++ c.patches]
  return "\n".intercalate (lines.map ("  * " ++ ·))

def announcement (s : SearchSettings Quantity) : Except ConfigError String := do
  let shown (q : Quantity) := shown (.ofQuantity q)
  let lines := [
    "generations: " ++ (← shown s.numGenerations),
    "population: " ++ (← shown s.populationSize),
    "mutation rate: " ++ (← (s.rateMutation.fixed 2).mapError fun _ => .outOfRange),
    "max. mutation attempts: " ++ (← shown s.maxMutationAttempts)]
  return "genetic search settings:\n" ++ "\n".intercalate (lines.map ("  * " ++ ·))

end Config

end GeneticRepair
