import GeneticRepair.Candidate.Evaluation
/-!
# Mutation

A mutant differs from its candidate by one edit at a suspicious line. A candidate is its own mutant
if it does not compile or does not parse, if no statement that may be mutated begins on a suspicious
line, or if the edit that was drawn finds no donor. That an interpreter may refuse to copy a module
that is nested too deep for it is left aside.
-/

namespace GeneticRepair

open GeneticRepair.Code

inductive Edit where
  | insert | delete | swap
  deriving Repr, DecidableEq

namespace Candidate

variable {R T G : Type} [Toolchain T] [Scalar R] [RandomSource G]

def parsed? (c : Candidate R) : Option Node :=
  match parseLines c.lines with
  | .ok module => some module
  | .error _ => none

def printed (module : Node) : Action T G (List String) :=
  Lab.orFail .printing module.toLines

/-- The edits that a target allows: the sole statement of a function is not deleted. -/
def editsAt (target : Statement) : List Edit :=
  if target.placeholder then [.swap] else [.delete, .swap]

def oneOf {α : Type} (x : α) (xs : List α) : Action T G α :=
  Lab.draw (Random.choose x xs)

/-- The module with an edit at the target; none if the edit finds no donor. -/
def edit (module : Node) (crossScope : Bool) (target : Statement) :
    Edit → Action T G (Option Node)
  | .delete => return some (← Lab.orFail .path (module.delete target))
  | e => do
    match module.donors crossScope target with
    | [] => return none
    | donor :: donors =>
      let donor ← oneOf donor donors
      if e = .insert then return some (← Lab.orFail .path (module.insert target donor))
      else return some (← Lab.orFail .path (module.swap target donor))

def mutateStatement (c : Candidate R) (module : Node) (localization : Localization R) :
    Action T G (Candidate R) := do
  let statements := module.mutatableLines
  let targets := localization.restrictToLines (statements.map fun (line, _) => Int.ofNat line)
  if targets.scores.isEmpty then
    return c
  else
    let line ← Lab.sample targets.sample
    match statements.lookup line.toNat with
    | none => return c
    | some target =>
      let e ← oneOf Edit.insert (editsAt target)
      match ← edit module c.strategies.mutator.crossScope target e with
      | none => return c
      | some mutant => c.derive (← printed mutant)

def mutateOperator (c : Candidate R) (module : Node) (site : OperatorSite) :
    Action T G (Candidate R) := do
  match site.alternatives with
  | [] => return c
  | op :: ops =>
    let op ← oneOf op ops
    c.derive (← printed (module.withOperator site op))

def suspiciousSites (module : Node) (localization : Localization R) : List OperatorSite :=
  module.operatorSites.filter fun site => localization.contains (Int.ofNat site.line)

def happens (probability : R) : Action T G Bool :=
  return Scalar.less (Scalar.ofUnit (← Lab.draw Random.unit)) probability

def mutateParsed (c : Candidate R) (module : Node) : Action T G (Candidate R) := do
  let localization ← c.suspiciousness
  match c.strategies.mutator with
  | .classic _ => c.mutateStatement module localization
  | .binaryOperator _ probability =>
    match suspiciousSites module localization with
    | [] => c.mutateStatement module localization
    | site :: sites =>
      if ← happens probability then
        c.mutateOperator module (← oneOf site sites)
      else
        c.mutateStatement module localization

/-- A mutant of the candidate, or the candidate itself. -/
def mutate (c : Candidate R) : Action T G (Candidate R) := do
  if ← c.isCompilable then
    match c.parsed? with
    | some module => c.mutateParsed module
    | none => return c
  else
    return c

end Candidate

end GeneticRepair
