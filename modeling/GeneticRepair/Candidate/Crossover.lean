import GeneticRepair.Candidate.Mutation
/-!
# Crossover

Two candidates give two offspring, each of which belongs to one of them; or they stay as they are.
Raw crossover cuts the nonblank lines of both at one point and exchanges what follows. Structural
crossover exchanges two statements that stand in the same kind of block. However deep the modules
are nested, an interpreter's limit to recursion is left aside.
-/

namespace GeneticRepair.Candidate

open GeneticRepair.Code

variable {R T G : Type} [RandomSource G]

def splice (cut : Nat) (xs ys : List String) : List String × List String :=
  (xs.take cut ++ ys.drop cut, ys.take cut ++ xs.drop cut)

def crossLines (c d : Candidate R) : Action T G (Candidate R × Candidate R) := do
  let limit := min c.content.length d.content.length
  if limit == 0 then
    return (c, d)
  else
    let cut ← Lab.draw (Random.below limit)
    let (xs, ys) := splice cut c.content d.content
    return (← c.derive xs, ← d.derive ys)

/-- Draws two statements until they stand in the same kind of block, a limited number of times. -/
def drawPair (x : Statement) (xs : List Statement) (y : Statement) (ys : List Statement) :
    Nat → Action T G (Option (Statement × Statement))
  | 0 => return none
  | attempts + 1 => do
    let mine ← oneOf x xs
    let theirs ← oneOf y ys
    if mine.parent == theirs.parent then return some (mine, theirs)
    else drawPair x xs y ys attempts

def exchangedLines? (m n : Node) (mine theirs : Statement) :
    Except PathError (Option (List String × List String)) := do
  let (x, y) ← m.exchange n mine theirs
  match x.toLines, y.toLines with
  | .ok xs, .ok ys => return some (xs, ys)
  | _, _ => return none

def crossStatements (maxAttempts : Quantity) (c d : Candidate R) (m n : Node) :
    Action T G (Candidate R × Candidate R) := do
  match m.statements.filter Statement.exchangeable, n.statements.filter Statement.exchangeable with
  | x :: xs, y :: ys =>
    match maxAttempts.int? with
    | none => throw .fractionalCount
    | some attempts =>
      match ← drawPair x xs y ys attempts.toNat with
      | none => return (c, d)
      | some (mine, theirs) =>
        match ← Lab.orFail .path (exchangedLines? m n mine theirs) with
        | some (xs, ys) => return (← c.derive xs, ← d.derive ys)
        | none => return (c, d)
  | _, _ => return (c, d)

/-- Two offspring, or the candidates themselves. The crossover of the first candidate is used. -/
def crossover (c d : Candidate R) : Action T G (Candidate R × Candidate R) := do
  match c.strategies.crossover with
  | .raw => c.crossLines d
  | .structural maxAttempts =>
    match c.parsed?, d.parsed? with
    | some m, some n => crossStatements maxAttempts c d m n
    | _, _ => return (c, d)

end GeneticRepair.Candidate
