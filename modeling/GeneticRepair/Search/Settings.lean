import GeneticRepair.Document.Value
/-!
# Settings of a search

How large a population is, how many generations there may be, how often and how hard a mutation is
tried, and how many threads are used. Counts may be any numbers; a search refuses those that it
cannot use.
-/

namespace GeneticRepair

structure SearchSettings (R : Type) where
  populationSize : Quantity
  numGenerations : Quantity
  rateMutation : R
  maxMutationAttempts : Quantity
  threads : Quantity

def SearchSettings.defaults : SearchSettings Quantity :=
  ⟨.ofInt 40, .ofInt 200, .number (.float 0.06), .ofInt 100, .ofInt 1⟩

namespace SearchSettings

def settingIn (v : Value) (key : String) (default : Quantity) : Except FixedError Quantity :=
  match v.get? key with
  | none => return default
  | some w =>
    match w.quantity? with
    | some q => return q
    | none => throw .wrongShape

def names : List String :=
  ["population_size", "num_generations", "rate_mutation", "max_mutation_attempts", "selection",
    "threads"]

/-- The settings that a document gives. The mutation rate has to be one that can be shown. -/
def ofValue (v : Value) : Except FixedError (SearchSettings Quantity) := do
  unless v.hasOnly names do throw .wrongShape
  let rate := (v.get? "rate_mutation").getD (.ofQuantity defaults.rateMutation)
  let _ ← fixedText 2 rate
  return ⟨← settingIn v "population_size" defaults.populationSize,
    ← settingIn v "num_generations" defaults.numGenerations,
    ← settingIn v "rate_mutation" defaults.rateMutation,
    ← settingIn v "max_mutation_attempts" defaults.maxMutationAttempts,
    ← settingIn v "threads" defaults.threads⟩

end SearchSettings

end GeneticRepair
