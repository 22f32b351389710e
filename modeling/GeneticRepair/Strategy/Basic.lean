import GeneticRepair.Coverage.Metric
/-!
# Strategies

How candidates are mutated, crossed over, localized and scored. Parameters that make no sense are
refused.
-/

namespace GeneticRepair

inductive StrategyError where
  | unknownName
  /-- The strategy of the given name has no such parameter. -/
  | noParameter
  | negativeWeight
  | operatorProbability
  | maxAttempts
  | timeLimit
  | cacheCapacity
  deriving Repr, DecidableEq

def StrategyError.message : StrategyError → String
  | unknownName => "unknown strategy"
  | noParameter => "unknown parameter"
  | negativeWeight => "fitness weights must be non-negative"
  | operatorProbability => "operator probability must be between 0 and 1"
  | maxAttempts => "max attempts must be greater than or equal to 1"
  | timeLimit => "time limit must be positive"
  | cacheCapacity => "cache capacity must be at least 1"

inductive Mutator (R : Type) where
  /-- A statement is inserted, deleted or swapped. Donors may be required to belong to the class of
  the target. -/
  | classic (crossScope : Bool)
  /-- With some probability an operator is replaced; else the edit is a classic one. -/
  | binaryOperator (crossScope : Bool) (probability : R)

namespace Mutator

variable {R : Type} [Scalar R]

def names : List String := ["binary-operator", "classic"]

def name : Mutator R → String
  | classic _ => "classic"
  | binaryOperator .. => "binary-operator"

def defaultProbability : Quantity :=
  .number (.float 0.25)

def crossScope : Mutator R → Bool
  | classic b => b
  | binaryOperator b _ => b

def newBinaryOperator (crossScope : Bool) (probability : R) : Except StrategyError (Mutator R) :=
  if Scalar.atMost Scalar.origin probability && Scalar.atMost probability (Scalar.ofInt 1) then
    return .binaryOperator crossScope probability
  else throw .operatorProbability

def ofName (name : String) (crossScope : Bool) (probability : Option Quantity) :
    Except StrategyError (Mutator Quantity) :=
  match name, probability with
  | "classic", none => return .classic crossScope
  | "classic", some _ => throw .noParameter
  | "binary-operator", p => newBinaryOperator crossScope (p.getD defaultProbability)
  | _, _ => throw .unknownName

end Mutator

inductive Crossover where
  /-- At one point of their lines. -/
  | raw
  /-- By an exchange of two statements, which are drawn a limited number of times. -/
  | structural (maxAttempts : Quantity)
  deriving DecidableEq

namespace Crossover

def names : List String := ["ast", "raw"]

def name : Crossover → String
  | raw => "raw"
  | structural _ => "ast"

def defaultAttempts : Quantity :=
  .ofInt 100

def newStructural (maxAttempts : Quantity) : Except StrategyError Crossover :=
  if Scalar.less maxAttempts (.ofInt 1) then throw .maxAttempts
  else return .structural maxAttempts

def ofName (name : String) (maxAttempts : Option Quantity) : Except StrategyError Crossover :=
  match name, maxAttempts with
  | "raw", none => return .raw
  | "raw", some _ => throw .noParameter
  | "ast", n => newStructural (n.getD defaultAttempts)
  | _, _ => throw .unknownName

end Crossover

/-- The reward for a passing test that the baseline passed, and for one that it failed. -/
structure Weights (R : Type) where
  positive : R
  negative : R

def Weights.new {R : Type} [Scalar R] (positive negative : R) :
    Except StrategyError (Weights R) :=
  if Scalar.less positive Scalar.zero || Scalar.less negative Scalar.zero then
    throw .negativeWeight
  else return ⟨positive, negative⟩

/-- A test that the baseline failed counts ten times as much. -/
def Weights.defaults : Weights Quantity :=
  ⟨.number (.float 1.0), .number (.float 10.0)⟩

structure Strategies (R : Type) where
  mutator : Mutator R
  crossover : Crossover
  metric : Metric
  weights : Weights R

end GeneticRepair
