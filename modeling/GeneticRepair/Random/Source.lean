import GeneticRepair.Number.Scalar
/-!
# Sources of randomness

A source gives numbers of the unit interval, in equal steps, and integers below a bound. All
random choices are made of these: one of several items, a shuffle, two distinct positions, and an
item drawn with probability proportional to its weight.
-/

namespace GeneticRepair

/-- A source of randomness, given by what its states answer. -/
class RandomSource (G : Type) where
  /-- The numerator of a number `k / unitSteps` of the unit interval. -/
  unit : G → Nat × G
  below : Nat → G → Nat × G
  unit_lt : ∀ g, (unit g).1 < unitSteps
  below_lt : ∀ n g, 0 < n → (below n g).1 < n

namespace Random

variable {G : Type} [RandomSource G] {α : Type}

def unit : StateM G Nat :=
  RandomSource.unit

def below (n : Nat) : StateM G Nat :=
  RandomSource.below n

def choose (x : α) (xs : List α) : StateM G α := do
  let i ← below (xs.length + 1)
  return (x :: xs).getD i x

/-- Exchanges each item, from one position down to the second, with one at or before it. -/
def shuffleFrom : Nat → Array α → StateM G (Array α)
  | 0, xs => return xs
  | i + 1, xs => do
    let j ← below (i + 2)
    shuffleFrom i (xs.swapIfInBounds (i + 1) j)

def shuffle (xs : List α) : StateM G (List α) := do
  return (← shuffleFrom (xs.length - 1) xs.toArray).toList

def redraws : Nat := 1000

def drawOther (n first : Nat) : Nat → StateM G Nat
  | 0 => return (first + 1) % n
  | fuel + 1 => do
    let i ← below n
    if i == first then drawOther n first fuel else return i

/-- Two distinct positions below `n`. Up to 21 positions are drawn from a pool, in which the last
position takes the place of the first one drawn; of more positions the second is drawn again as
long as it equals the first. -/
def twoBelow (n : Nat) : StateM G (Nat × Nat) := do
  let i ← below n
  if n ≤ 21 then
    let j ← below (n - 1)
    return (i, if j == i then n - 1 else j)
  else
    return (i, ← drawOther n i redraws)

end Random

/-! ## Weighted choice

A key is drawn with probability proportional to its weight. The entries are shuffled before each
draw, so that keys of equal weight are not told apart by their place. A draw that rounding leaves
beyond the last entry gives that entry, and if no weight is positive in total the first key is
taken, without a draw.
-/

inductive SamplingError where
  | noWeights
  | arithmetic (e : ArithmeticError)
  deriving Repr, DecidableEq

def SamplingError.message : SamplingError → String
  | noWeights => "cannot sample from an empty set of weights"
  | arithmetic e => e.message

namespace Random

variable {R G K : Type} [Scalar R] [RandomSource G]

/-- The key of the first entry at which the sum of the weights exceeds a bound. -/
def keyBeyond (bound : R) (fallback : K) (sum : R) : List (K × R) → Except ArithmeticError K
  | [] => return fallback
  | (key, weight) :: entries => do
    let sum ← Scalar.add sum weight
    if Scalar.less bound sum then return key else keyBeyond bound key sum entries

def calculated {α : Type} (a : Except ArithmeticError α) : ExceptT SamplingError (StateM G) α :=
  liftExcept (a.mapError SamplingError.arithmetic)

def weightedChoice : List (K × R) → ExceptT SamplingError (StateM G) K
  | [] => throw .noWeights
  | entry :: entries => do
    let weights := entry :: entries
    let total ← calculated (Scalar.sum (weights.map Prod.snd))
    if Scalar.atMost total Scalar.zero then
      return entry.1
    else
      let k ← (Random.unit : StateM G Nat)
      let bound ← calculated (Scalar.mul (Scalar.ofUnit k) total)
      let shuffled ← (shuffle weights : StateM G (List (K × R)))
      calculated (keyBeyond bound entry.1 Scalar.origin shuffled)

end Random

end GeneticRepair
