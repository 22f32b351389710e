import GeneticRepair.Candidate.Crossover
import GeneticRepair.Candidate.Evaluation
import GeneticRepair.Search.Event
import GeneticRepair.Search.Settings
/-!
# Genetic search

A population of candidates evolves from the program under repair. The first generation holds the
program and mutants of it. Each later one is bred from the compilable members of the generation
before it, by tournament selection and crossover, and is then mutated. The search ends with the
first repair, at the limit of generations, or when no candidate compiles. Breeding works on programs
of any depth of nesting; the recursion limit of an interpreter is left aside.
-/

namespace GeneticRepair

inductive SearchState where
  | initializing | evaluatingGeneration | breeding | mutating
  | terminatedSuccess | terminatedMaxGenerations | terminatedExhausted
  deriving Repr, DecidableEq

def SearchState.name : SearchState → String
  | initializing => "initializing"
  | evaluatingGeneration => "evaluating-generation"
  | breeding => "breeding"
  | mutating => "mutating"
  | terminatedSuccess => "terminated-success"
  | terminatedMaxGenerations => "terminated-max-generations"
  | terminatedExhausted => "terminated-exhausted"

/-- A search in a laboratory: how far it is, the fittest candidate so far, and what it has
reported. -/
structure Search (R T G : Type) where
  lab : Lab T G
  started : Bool
  state : SearchState
  best : Option (Candidate R × R)
  events : List (Event R)

abbrev Searching (R T G α : Type) := ExceptT Failure (StateM (Search R T G)) α

namespace Search

variable {R T G α : Type}

def new (lab : Lab T G) : Search R T G :=
  ⟨lab, false, .initializing, none, []⟩

def inLab (act : Action T G α) : Searching R T G α :=
  ExceptT.mk fun s => let (r, lab) := act.run.run s.lab; (r, { s with lab })

def report (e : Event R) : Searching R T G Unit :=
  modify fun s => { s with events := s.events ++ [e] }

def enter (state : SearchState) : Searching R T G Unit :=
  modify fun s => { s with state }

def setBest (c : Candidate R) (fitness : R) : Searching R T G Unit :=
  modify fun s => { s with best := some (c, fitness) }

def unevaluated (cs : List (Candidate R)) : Action T G (List (Candidate R)) :=
  cs.filterM fun c => return !(← c.isEvaluated)

/-- Keeps the first of several equal candidates. -/
def distinct : List (Candidate R) → List (Candidate R)
  | [] => []
  | c :: cs => c :: (distinct cs).filter fun d => !c.same d

def removeSame (c : Candidate R) : List (Candidate R) → List (Candidate R)
  | [] => []
  | d :: ds => if d.same c then ds else d :: removeSame c ds

variable [Toolchain T]

/-- Evaluates each distinct candidate that has not been evaluated; one that cannot be is passed
over. -/
def evaluateAll (cs : List (Candidate R)) : Action T G Unit := do
  for c in distinct (← unevaluated cs) do
    let _ ← c.evaluate?

variable [Scalar R] [RandomSource G]

/-- Mutates a candidate until the mutant compiles, a limited number of times. -/
def compilableMutant (c : Candidate R) : Nat → Action T G (Candidate R)
  | 0 => return c
  | attempts + 1 => do
    let mutant ← c.mutate
    if ← mutant.isCompilable then return mutant else compilableMutant c attempts

def count (q : Quantity) : Action T G Int :=
  match q.int? with
  | some n => return n
  | none => throw .fractionalCount

variable (settings : SearchSettings R)

def mutant (c : Candidate R) : Action T G (Candidate R) := do
  compilableMutant c (← count settings.maxMutationAttempts).toNat

def fillWith (seed : Candidate R) : Nat → Action T G (List (Candidate R))
  | 0 => return []
  | missing + 1 => do
    let c ← mutant settings seed
    return c :: (← fillWith seed missing)

def initial (seed : Candidate R) : Action T G (List (Candidate R)) :=
  return seed :: (← fillWith settings seed (settings.populationSize.ceiling - 1))

omit [Toolchain T] [Scalar R] [RandomSource G] in
/-- Selects from a shrinking pool until a candidate differs from the given one. -/
def selectOther (select : List (Candidate R) → Action T G (Candidate R)) (x : Candidate R) :
    Nat → Candidate R → List (Candidate R) → Action T G (Candidate R)
  | 0, y, _ => return y
  | fuel + 1, y, pool => do
    if x.same y && !pool.isEmpty then
      let y ← select pool
      selectOther select x fuel y (removeSame y pool)
    else
      return y

omit [Toolchain T] [Scalar R] [RandomSource G] in
/-- Two parents; they differ if the population holds two different candidates. -/
def parents (select : List (Candidate R) → Action T G (Candidate R))
    (population : List (Candidate R)) : Action T G (Candidate R × Candidate R) := do
  let x ← select population
  let pool := if population.length > 1 then removeSame x population else population
  let y ← select pool
  return (x, ← selectOther select x pool.length y (removeSame y pool))

omit [Scalar R] in
/-- Breeds until there are enough offspring. Every round adds both parents. -/
def breedUntil (select : List (Candidate R) → Action T G (Candidate R))
    (population : List (Candidate R)) :
    Nat → List (Candidate R) → Action T G (List (Candidate R))
  | 0, offspring => return offspring
  | fuel + 1, offspring => do
    if offspring.length < settings.populationSize.ceiling then
      let (x, y) ← parents select population
      let (u, v) ← x.crossover y
      let children ← [u, v].filterM fun c => c.isCompilable
      breedUntil select population fuel (offspring ++ [x, y] ++ children)
    else
      return offspring

omit [Scalar R] in
def breedBy (select : List (Candidate R) → Action T G (Candidate R))
    (population : List (Candidate R)) : Action T G (List (Candidate R)) := do
  let offspring ← breedUntil settings select population settings.populationSize.ceiling []
  return offspring.take (← count settings.populationSize).toNat

def breed (population : List (Candidate R)) : Action T G (List (Candidate R)) :=
  breedBy settings Candidate.select population

def mutateSome (population : List (Candidate R)) : Action T G (List (Candidate R)) :=
  population.mapM fun c => do
    if ← Candidate.happens settings.rateMutation then mutant settings c else return c

omit [RandomSource G] in
/-- Scores the members of a generation one after another, up to the first repair. -/
def scoreAll (generation : Int) : List (Candidate R) → Searching R T G (Option (Candidate R))
  | [] => return none
  | c :: cs => do
    let fitness ← inLab c.fitness
    let isRepair ← inLab c.isRepair
    report (.candidateEvaluated c generation fitness isRepair)
    if isRepair then
      setBest c fitness
      report (.repairFound c generation)
      return some c
    else
      let better := match (← get).best with
        | none => true
        | some (_, best) => Scalar.less best fitness
      if better then setBest c fitness
      scoreAll generation cs

omit [RandomSource G] in
/-- Scores a generation, which is evaluated in the given way before; the first repair in it, if
there is one. -/
def evaluateGenerationBy (evaluate : List (Candidate R) → Action T G Unit)
    (population : List (Candidate R)) (generation : Int) :
    Searching R T G (Option (Candidate R)) := do
  enter .evaluatingGeneration
  inLab (evaluate population)
  match ← scoreAll generation population with
  | some repair => return some repair
  | none =>
    match (← get).best with
    | none => throw .noBest
    | some (best, fitness) =>
      report (.generationFinished generation best fitness)
      return none

omit [RandomSource G] in
def evaluateGeneration (population : List (Candidate R)) (generation : Int) :
    Searching R T G (Option (Candidate R)) :=
  evaluateGenerationBy evaluateAll population generation

omit [RandomSource G] in
def resultOf (c : Candidate R) (generations : Quantity) : Searching R T G (SearchResult R) := do
  let fitness ← inLab c.fitness
  let isRepair ← inLab c.isRepair
  return ⟨c, fitness, isRepair, generations, Scalar.origin⟩

omit [RandomSource G] in
def finish (state : SearchState) (c : Candidate R) (generations : Quantity) :
    Searching R T G (SearchResult R) := do
  enter state
  resultOf c generations

omit [RandomSource G] in
def giveUp (state : SearchState) (generations : Quantity) : Searching R T G (SearchResult R) := do
  match (← get).best with
  | some (best, _) => finish state best generations
  | none => throw .noBest

/-- The population of the next generation, if a member of this one compiles. -/
def advance (population : List (Candidate R)) (generation : Int) :
    Searching R T G (Option (List (Candidate R))) := do
  let compilable ← inLab (population.filterM fun c => c.isCompilable)
  if compilable.isEmpty then
    return none
  else
    enter .breeding
    let bred ← inLab (breed settings compilable)
    enter .mutating
    let next ← inLab (mutateSome settings bred)
    report (.generationStarted generation next.length)
    return some next

/-- Runs the generations that are left; `generation` is the number of the first of them, by which it
is decided how it is evaluated. -/
def generationsBy (evaluate : Int → List (Candidate R) → Action T G Unit)
    (population : List (Candidate R)) (generation : Int) : Nat → Searching R T G (SearchResult R)
  | 0 => giveUp .terminatedMaxGenerations settings.numGenerations
  | left + 1 => do
    match ← advance settings population generation with
    | none => giveUp .terminatedExhausted (.ofInt (generation - 1))
    | some next =>
      match ← evaluateGenerationBy (evaluate generation) next generation with
      | some repair => finish .terminatedSuccess repair (.ofInt generation)
      | none => generationsBy evaluate next (generation + 1) left

def generations (population : List (Candidate R)) (generation : Int) (left : Nat) :
    Searching R T G (SearchResult R) :=
  generationsBy settings (fun _ => evaluateAll) population generation left

def launch (seed : Candidate R) : Searching R T G (List (Candidate R)) := do
  enter .initializing
  inLab (evaluateAll [seed])
  modify fun s => { s with best := some (seed, Scalar.origin) }
  setBest seed (← inLab seed.fitness)
  let population ← inLab (initial settings seed)
  report (.generationStarted 0 population.length)
  return population

def runBy (evaluate : Int → List (Candidate R) → Action T G Unit) (seed : Candidate R) :
    Searching R T G (SearchResult R) := do
  let population ← launch settings seed
  match ← evaluateGenerationBy (evaluate 0) population 0 with
  | some repair => finish .terminatedSuccess repair (.ofInt 0)
  | none =>
    let limit ← inLab (count settings.numGenerations)
    generationsBy settings evaluate population 1 limit.toNat

def run (seed : Candidate R) : Searching R T G (SearchResult R) :=
  runBy settings (fun _ => evaluateAll) seed

/-- Searches once, and reports the beginning and the end. -/
def searchBy (evaluate : Int → List (Candidate R) → Action T G Unit) (seed : Candidate R) :
    Searching R T G (SearchResult R) := do
  if (← get).started then
    throw .alreadyStarted
  modify fun s => { s with started := true }
  report (.searchStarted seed)
  let result ← runBy settings evaluate seed
  report (.searchFinished result)
  return result

/-- Searches once, and evaluates one by one. -/
def search (seed : Candidate R) : Searching R T G (SearchResult R) :=
  searchBy settings (fun _ => evaluateAll) seed

end Search

end GeneticRepair
