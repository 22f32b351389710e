/-!
# Sets of code points

A set is kept as the ascending list of the code points at which membership changes: it is entered
at the first bound, left at the second, entered again at the third, and so on. A code point belongs
to the set when the number of bounds at or below it is odd.
-/

namespace GeneticRepair.Text

structure CodePointSet where
  bounds : List Nat

namespace CodePointSet

def containsFrom : List Nat → Nat → Bool
  | [], _ => false
  | b :: bounds, c => if c < b then false else !containsFrom bounds c

def contains (s : CodePointSet) (c : Nat) : Bool :=
  containsFrom s.bounds c

end CodePointSet

end GeneticRepair.Text
