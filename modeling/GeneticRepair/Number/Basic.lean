/-!
# Numbers

A number is an integer of any size or a binary64 float. The two stay apart: sums and products of
integers are exact integers, an operation that meets a float is carried out in floats, and a
quotient is always a float. Comparisons are exact. Where a result does not exist the operation says
why: an integer that no finite float is near, a division by zero, a root of a negative number.
-/

namespace GeneticRepair

inductive ArithmeticError where
  | divisionByZero
  | overflow
  | outsideDomain
  deriving Repr, DecidableEq

def ArithmeticError.message : ArithmeticError → String
  | divisionByZero => "division by zero"
  | overflow => "integer too large for a float"
  | outsideDomain => "root of a negative number"

inductive Number where
  | int (n : Int)
  | float (x : Float)
  deriving DecidableEq

instance : Inhabited Number :=
  ⟨.int 0⟩

namespace Number

open Float.Model (UnpackedFloat Format)

/-- What a float stands for: `sign · mantissa · 2 ^ exponent`, an infinity, or nothing. -/
inductive Exact where
  | notANumber
  | infinity (negative : Bool)
  | finite (negative : Bool) (mantissa : Nat) (exponent : Int)

def isNegativeSign : UnpackedFloat.Sign → Bool
  | .negative => true
  | .positive => false

def exact (x : Float) : Exact :=
  match x.toModel.unpack with
  | .notANumber => .notANumber
  | .infinity s => .infinity (isNegativeSign s)
  | .zero s => .finite (isNegativeSign s) 0 0
  | .finite s m e _ => .finite (isNegativeSign s) m e

def signed (negative : Bool) (n : Nat) : Int :=
  if negative then -(n : Int) else n

/-- The nearest float to an integer; none if that is infinite. -/
def floatOfInt (n : Int) : Except ArithmeticError Float :=
  let x := Float.ofInt n
  if x.isInf then throw .overflow else pure x

def toFloat : Number → Except ArithmeticError Float
  | .int n => floatOfInt n
  | .float x => pure x

/-- The order of an integer and a float, by value; none for a value that is not a number. -/
def compareIntFloat (n : Int) (x : Float) : Option Ordering :=
  match exact x with
  | .notANumber => none
  | .infinity negative => some (if negative then .gt else .lt)
  | .finite negative m e =>
    some (compare (n * Nat.pow 2 (-e).toNat) (signed negative m * Nat.pow 2 e.toNat))

def compareFloats (x y : Float) : Option Ordering :=
  if x < y then some .lt else if y < x then some .gt else if x == y then some .eq else none

def compare? : Number → Number → Option Ordering
  | .int m, .int n => some (compare m n)
  | .int m, .float y => compareIntFloat m y
  | .float x, .int n => (compareIntFloat n x).map Ordering.swap
  | .float x, .float y => compareFloats x y

def less (a b : Number) : Bool :=
  compare? a b == some .lt

def atMost (a b : Number) : Bool :=
  match compare? a b with
  | some .gt | none => false
  | _ => true

/-- Equality by value, so that `1` equals `1.0` and a value that is not a number equals nothing. -/
def same (a b : Number) : Bool :=
  compare? a b == some .eq

def viaFloats (op : Float → Float → Float) (a b : Number) : Except ArithmeticError Number := do
  let x ← toFloat a
  let y ← toFloat b
  return .float (op x y)

def add : Number → Number → Except ArithmeticError Number
  | .int m, .int n => pure (.int (m + n))
  | a, b => viaFloats (· + ·) a b

def sub : Number → Number → Except ArithmeticError Number
  | .int m, .int n => pure (.int (m - n))
  | a, b => viaFloats (· - ·) a b

def mul : Number → Number → Except ArithmeticError Number
  | .int m, .int n => pure (.int (m * n))
  | a, b => viaFloats (· * ·) a b

def nearestQuotient (m n : Nat) : Float :=
  if h : 0 < m ∧ 0 < n then
    .ofModel (.pack (UnpackedFloat.div Format.binary64
      (.finite .positive m 0 h.1) (.finite .positive n 0 h.2)))
  else
    0.0

def quotient (m n : Int) : Except ArithmeticError Number :=
  if n == 0 then
    throw .divisionByZero
  else
    let x := nearestQuotient m.natAbs n.natAbs
    if x.isInf then throw .overflow
    else pure (.float (if m != 0 && (m < 0) != (n < 0) then -x else x))

def div : Number → Number → Except ArithmeticError Number
  | .int m, .int n => quotient m n
  | a, b => do
    let x ← toFloat a
    let y ← toFloat b
    if y == 0.0 then throw .divisionByZero
    return .float (x / y)

def sqrt (a : Number) : Except ArithmeticError Number := do
  let x ← toFloat a
  if x < 0.0 then throw .outsideDomain
  return .float x.sqrt

end Number

end GeneticRepair
