import GeneticRepair.Number.Basic
/-!
# Scalars

What scores, weights and fitness values need of the numbers they are computed in. Programs run with
`Number`; every definition over `Scalar` can also be read in exact arithmetic, where no operation
fails.
-/

namespace GeneticRepair

/-- The number of steps that random numbers divide the unit interval into, `2 ^ 53`. -/
def unitSteps : Nat := 0x20000000000000

class Scalar (R : Type) where
  ofInt : Int → R
  /-- The random number `k / unitSteps` of the half-open unit interval. -/
  ofUnit : Nat → R
  add : R → R → Except ArithmeticError R
  sub : R → R → Except ArithmeticError R
  mul : R → R → Except ArithmeticError R
  div : R → R → Except ArithmeticError R
  sqrt : R → Except ArithmeticError R
  less : R → R → Bool
  atMost : R → R → Bool
  /-- Equality by value. -/
  same : R → R → Bool

namespace Scalar

variable {R : Type} [Scalar R]

def zero : R := ofInt 0

/-- The zero of the unit interval. -/
def origin : R := ofUnit 0

def ratio (m n : Int) : Except ArithmeticError R :=
  div (ofInt m) (ofInt n)

/-- The sum of a list, added from the left to an exact zero. -/
def sum (xs : List R) : Except ArithmeticError R :=
  xs.foldlM add zero

end Scalar

instance : Scalar Number where
  ofInt := .int
  ofUnit k := .float (Float.ofScientific k false 0 / Float.ofScientific unitSteps false 0)
  add := Number.add
  sub := Number.sub
  mul := Number.mul
  div := Number.div
  sqrt := Number.sqrt
  less := Number.less
  atMost := Number.atMost
  same := Number.same

end GeneticRepair
