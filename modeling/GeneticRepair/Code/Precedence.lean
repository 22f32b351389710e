import GeneticRepair.Code.Term
/-!
# Places and their precedence

Each place of a statement or a term has a precedence, and so has each form of expression. An
expression that binds more loosely than its place asks for is put in parentheses.
-/

namespace GeneticRepair.Code

namespace Precedence

/-! The places of an expression, from the loosest to the tightest. -/

def named : Nat := 1
def tuple : Nat := 2
def yield : Nat := 3
def test : Nat := 4
def disjunction : Nat := 5
def conjunction : Nat := 6
def negation : Nat := 7
def comparison : Nat := 8
def union : Nat := 9
def exclusive : Nat := 10
def intersection : Nat := 11
def shift : Nat := 12
def arithmetic : Nat := 13
def product : Nat := 14
def factor : Nat := 15
def power : Nat := 16
def await : Nat := 17
def atom : Nat := 18

def next (p : Nat) : Nat :=
  min (p + 1) atom

def ofBinary : Operator → Nat
  | .add | .sub => arithmetic
  | .mult | .matMult | .div | .mod | .floorDiv => product
  | .lShift | .rShift => shift
  | .bitOr => union
  | .bitXor => exclusive
  | .bitAnd => intersection
  | _ => power

def ofUnary : UnaryOperator → Nat
  | .not => negation
  | _ => factor

end Precedence

/-- The precedence of the place of a term in the first line of a statement: where among how many
terms. -/
def placeInHeader (l : Label) (index count : Nat) : Nat :=
  match l with
  | .expression => Precedence.yield
  | .assign => if index + 1 < count then Precedence.tuple else Precedence.test
  | .forLoop _ => if index == 0 then Precedence.tuple else Precedence.test
  | _ => Precedence.test

def isTupleHead : Head → Bool
  | .tuple => true
  | _ => false

def placeIn (h : Head) (index count : Nat) (child : Head) : Nat :=
  open Precedence in
  match h with
  | .assigned | .await | .yield | .yieldFrom | .attribute _ => atom
  | .binary .pow => if index == 0 then Precedence.await else power
  | .binary op => if index == 0 then ofBinary op else next (ofBinary op)
  | .unary op => ofUnary op
  | .comparison _ => union
  | .connective .and => min (conjunction + index + 1) atom
  | .connective _ => min (disjunction + index + 1) atom
  | .conditional => if index == 2 then test else disjunction
  | .clause _ => if index == 0 then Precedence.tuple else disjunction
  | .call _ | .classPattern _ => if index == 0 then atom else test
  | .subscript => if index == 0 then atom else if isTupleHead child then Precedence.tuple else test
  | .dict keyed =>
    let keys := keyed.countP id
    if keys ≤ index && keyed[index - keys]? == some false then union else test
  | .starred | .bindingPattern _ => union
  | .orPattern => exclusive
  | .statement l _ => placeInHeader l index count
  | _ => test

end GeneticRepair.Code
