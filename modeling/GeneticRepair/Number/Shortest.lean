import GeneticRepair.Number.Basic
/-!
# Shortest decimal text of a float

A float is written with the fewest significant digits that read back as the same float, and of
those with the digits nearest to its value. The digits are found in exact arithmetic: the reals that
round to `m · 2 ^ e` form an interval, closed if `m` is even, and for one digit, two digits, … the
two grid points around the value are tested for lying in it.
-/

namespace GeneticRepair.Number

/-- A positive decimal number `digits · 10 ^ scale`. -/
structure Decimal where
  digits : Nat
  scale : Int
  deriving Repr, DecidableEq

/-- How floats are spelled: with or without `.0` on integral values, and the names of the values
that have no digits. Exponents from -4 up to 15 are written positionally. -/
structure FloatStyle where
  pointZero : Bool
  infinity : String
  notANumber : String

namespace Shortest

def leadingExponent (m : Nat) (e : Int) : Int :=
  let num := m * Nat.pow 2 e.toNat
  let den := Nat.pow 2 (-e).toNat
  if den ≤ num then ((Nat.toDigits 10 (num / den)).length : Int) - 1
  else -(((List.range 400).find? fun k => den ≤ num * Nat.pow 10 k).getD 400 : Nat)

def scaled (c : Nat) (s : Int) (x : Nat) (e : Int) : Nat × Nat :=
  (4 * c * Nat.pow 10 s.toNat * Nat.pow 2 (-e).toNat, x * Nat.pow 2 e.toNat * Nat.pow 10 (-s).toNat)

/-- Whether `c · 10 ^ s` rounds to the float `m · 2 ^ e`. Below a power of two the next float is
only half as far away. -/
def readsBack (m : Nat) (e : Int) (s : Int) (c : Nat) : Bool :=
  let low := 4 * m - (if m == 0x10000000000000 && e != -1074 then 1 else 2)
  let (a, lowest) := scaled c s low e
  let (_, highest) := scaled c s (4 * m + 2) e
  if m % 2 == 0 then lowest ≤ a && a ≤ highest else lowest < a && a < highest

def point (n : Nat) (s : Int) (c : Nat) : Decimal :=
  if c == Nat.pow 10 n then ⟨Nat.pow 10 (n - 1), s + 1⟩ else ⟨c, s⟩

def withDigits (m : Nat) (e : Int) (leading : Int) (n : Nat) : Option Decimal :=
  let s := leading - n + 1
  let num := m * Nat.pow 2 e.toNat * Nat.pow 10 (-s).toNat
  let den := Nat.pow 2 (-e).toNat * Nat.pow 10 s.toNat
  let below := num / den
  match readsBack m e s below, readsBack m e s (below + 1) with
  | false, false => none
  | true, false => some (point n s below)
  | false, true => some (point n s (below + 1))
  | true, true =>
    let twice := 2 * (num % den)
    if twice < den || (twice == den && below % 2 == 0) then some (point n s below)
    else some (point n s (below + 1))

/-- The shortest decimal that reads back as `m · 2 ^ e`; seventeen digits always do. -/
def decimal (m : Nat) (e : Int) : Decimal :=
  let leading := leadingExponent m e
  ((List.range' 1 17).findSome? (withDigits m e leading)).getD ⟨m, e⟩

end Shortest

def zeros (n : Nat) : String :=
  String.ofList (List.replicate n '0')

def exponentText (x : Int) : String :=
  let digits := toString x.natAbs
  (if x < 0 then "e-" else "e+") ++ (if digits.length < 2 then "0" ++ digits else digits)

def Decimal.text (style : FloatStyle) (d : Decimal) : String :=
  let ds := toString d.digits
  let x := d.scale + ds.length - 1
  if -4 ≤ x && x < 16 then
    if x < 0 then "0." ++ zeros (-x - 1).toNat ++ ds
    else if ds.length ≤ x.toNat + 1 then
      ds ++ zeros (x.toNat + 1 - ds.length) ++ (if style.pointZero then ".0" else "")
    else
      String.ofList (ds.toList.take (x.toNat + 1)) ++ "." ++
        String.ofList (ds.toList.drop (x.toNat + 1))
  else
    match ds.toList with
    | [] => ""
    | [c] => String.singleton c ++ exponentText x
    | c :: cs => String.singleton c ++ "." ++ String.ofList cs ++ exponentText x

def floatText (style : FloatStyle) (x : Float) : String :=
  match exact x with
  | .notANumber => style.notANumber
  | .infinity negative => (if negative then "-" else "") ++ style.infinity
  | .finite negative m e =>
    (if negative then "-" else "") ++
      if m == 0 then (if style.pointZero then "0.0" else "0")
      else (Shortest.decimal m e).text style

end GeneticRepair.Number
