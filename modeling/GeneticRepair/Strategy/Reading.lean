import GeneticRepair.Strategy.Basic
/-!
# Strategies in documents

What the candidates of a search share, as a document gives it. Whatever it does not mention has a
default. A strategy takes no parameters but its own.
-/

namespace GeneticRepair

inductive StrategyReadError where
  | strategy (e : StrategyError)
  | misconfigured (m : Misconfiguration)
  | wrongShape

namespace Strategies

def orStrategy {α : Type} (r : Except StrategyError α) : Except StrategyReadError α :=
  r.mapError .strategy

/-- The name of a strategy. No strategy is called by anything but a text. -/
def nameIn (v : Value) (key default : String) : Except StrategyReadError String :=
  match v.get? key with
  | none => return default
  | some (.list _) | some (.map _) => throw .wrongShape
  | some name => return name.shown

def quantityIn? (v : Value) (key : String) : Except StrategyReadError (Option Quantity) :=
  match v.get? key with
  | none => return none
  | some w =>
    match w.quantity? with
    | some q => return some q
    | none => throw .wrongShape

def checkParameters (v : Value) (names : List String) : Except StrategyReadError Unit :=
  if v.hasOnly ("type" :: names) then return else throw (.strategy .noParameter)

def mutatorOfValue (v : Value) : Except StrategyReadError (Mutator Quantity) := do
  let name ← nameIn v "type" "classic"
  unless Mutator.names.contains name do throw (.strategy .unknownName)
  checkParameters v ["cross_scope_donors", "operator_probability"]
  let probability ← quantityIn? v "operator_probability"
  orStrategy (Mutator.ofName name ((v.get? "cross_scope_donors").any Value.isTrue) probability)

def crossoverOfValue (v : Value) : Except StrategyReadError Crossover := do
  let name ← nameIn v "type" "raw"
  unless Crossover.names.contains name do throw (.strategy .unknownName)
  checkParameters v ["max_attempts"]
  orStrategy (Crossover.ofName name (← quantityIn? v "max_attempts"))

def ofValue (v : Value) : Except StrategyReadError (Strategies Quantity) := do
  let mutator ← mutatorOfValue ((v.get? "mutator").getD .null)
  let crossover ← crossoverOfValue ((v.get? "crossover").getD .null)
  let metric ← (Metric.named (← nameIn v "metric" Metric.ochiai.name)).mapError .misconfigured
  let positive := (← quantityIn? v "pw").getD Weights.defaults.positive
  let negative := (← quantityIn? v "nw").getD Weights.defaults.negative
  return ⟨mutator, crossover, metric, ← orStrategy (Weights.new positive negative)⟩

end Strategies

end GeneticRepair
