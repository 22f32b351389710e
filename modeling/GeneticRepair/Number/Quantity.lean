import GeneticRepair.Number.Basic
import GeneticRepair.Number.Scalar
/-!
# Quantities

What may stand where a number is asked for: a number, or a truth value, which counts as `1` or `0`
but is kept as it is given.
-/

namespace GeneticRepair.Number

/-! ## Fixed decimal places

A number written with a fixed count of decimal places: its exact value is rounded to the nearest
multiple of the last place, a half going to the even neighbour.
-/

/-- The integer nearest to `num / den`, a half going to the even one. -/
def roundDiv (num den : Nat) : Nat :=
  let q := num / den
  let twice := 2 * (num % den)
  if twice < den || (twice == den && q % 2 == 0) then q else q + 1

def padStart (width : Nat) (c : Char) (s : String) : String :=
  String.ofList (List.replicate (width - s.length) c) ++ s

def placesText (places units : Nat) : String :=
  let whole := toString (units / Nat.pow 10 places)
  if places == 0 then whole
  else whole ++ "." ++ padStart places '0' (toString (units % Nat.pow 10 places))

def fixedFloat (places : Nat) (x : Float) : String :=
  match exact x with
  | .notANumber => "nan"
  | .infinity negative => if negative then "-inf" else "inf"
  | .finite negative m e =>
    (if negative then "-" else "") ++
      placesText places
        (roundDiv (m * Nat.pow 2 e.toNat * Nat.pow 10 places) (Nat.pow 2 (-e).toNat))

def fixed (places : Nat) (a : Number) : Except ArithmeticError String :=
  return fixedFloat places (← toFloat a)

/-! ## Fingerprints

The fingerprint of a number depends on its value alone, so that `1` and `1.0` share one: the value
is reduced modulo the prime `2 ^ 61 - 1`, of which `2` is a root of unity of order 61. The
fingerprints `-1` and `-2` are not told apart.
-/

def fingerprintModulus : Nat :=
  0x1fffffffffffffff

def mergeNegatives (n : Int) : Int :=
  if n == -1 then -2 else n

def residue (negative : Bool) (m : Nat) (e : Int) : Int :=
  mergeNegatives (signed negative (m * Nat.pow 2 (e % 61).toNat % fingerprintModulus))

def fingerprint : Number → Int
  | .int n => residue (n < 0) n.natAbs 0
  | .float x =>
    match exact x with
    | .notANumber => 0
    | .infinity negative => signed negative 314159
    | .finite negative m e => residue negative m e

end GeneticRepair.Number

namespace GeneticRepair

/-! ## Quantities -/

inductive Quantity where
  | number (a : Number)
  | flag (b : Bool)
  deriving DecidableEq

namespace Quantity

def value : Quantity → Number
  | number a => a
  | flag b => .int (if b then 1 else 0)

instance : Inhabited Quantity :=
  ⟨.number default⟩

instance : Coe Number Quantity :=
  ⟨.number⟩

def ofInt (n : Int) : Quantity :=
  .number (.int n)

def int? (q : Quantity) : Option Int :=
  match q.value with
  | .int n => some n
  | .float _ => none

/-- The greatest count that is not above a quantity; none if the quantity has no bound. -/
def floor? (q : Quantity) : Option Nat :=
  match q.value with
  | .int n => some n.toNat
  | .float x =>
    match Number.exact x with
    | .finite false m e => some (m * Nat.pow 2 e.toNat / Nat.pow 2 (-e).toNat)
    | .finite true .. => some 0
    | _ => none

def ceiling (q : Quantity) : Nat :=
  match q.value with
  | .int n => n.toNat
  | .float x =>
    match Number.exact x with
    | .finite false m e => (m * Nat.pow 2 e.toNat + Nat.pow 2 (-e).toNat - 1) / Nat.pow 2 (-e).toNat
    | _ => 0

def fixed (places : Nat) (q : Quantity) : Except ArithmeticError String :=
  Number.fixed places q.value

def fingerprint (q : Quantity) : Int :=
  q.value.fingerprint

/-- The integer by which a random generator is started: a fraction is replaced by its
fingerprint. -/
def seed (q : Quantity) : Int :=
  match q.int? with
  | some n => n
  | none => q.fingerprint % 0x10000000000000000

instance : Scalar Quantity where
  ofInt := ofInt
  ofUnit k := .number (Scalar.ofUnit k)
  add a b := return .number (← a.value.add b.value)
  sub a b := return .number (← a.value.sub b.value)
  mul a b := return .number (← a.value.mul b.value)
  div a b := return .number (← a.value.div b.value)
  sqrt a := return .number (← a.value.sqrt)
  less a b := a.value.less b.value
  atMost a b := a.value.atMost b.value
  same a b := a.value.same b.value

end Quantity

end GeneticRepair
