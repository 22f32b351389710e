import GeneticRepair.Code.Term
import GeneticRepair.Number.Digits
/-!
# Numerals

Number literals: integers in base ten, two, eight and sixteen, decimal floats, and imaginary
numbers. Single underscores may stand between digits. A decimal integer other than zero has no
leading zero, and at most 4300 digits.
-/

namespace GeneticRepair.Code

open GeneticRepair.Number (ofDigits floatOfDigits)

namespace Numeral

def digitOf? (base : Nat) (c : Char) : Option Nat :=
  let n := c.toNat
  let v := if 48 ≤ n && n ≤ 57 then n - 48 else if 97 ≤ n && n ≤ 102 then n - 87
    else if 65 ≤ n && n ≤ 70 then n - 55 else base
  if v < base then some v else none

/-- The digits at the front of a text, with single underscores between them, and what follows; none
if an underscore is not followed by a digit. The flag tells whether an underscore may come first. -/
def digits (base : Nat) : Bool → List Char → Option (List Nat × List Char)
  | mayPause, '_' :: cs =>
    if mayPause then
      match cs with
      | c :: cs => do
        let d ← digitOf? base c
        let (ds, rest) ← digits base true cs
        return (d :: ds, rest)
      | [] => none
    else some ([], '_' :: cs)
  | _, c :: cs =>
    match digitOf? base c with
    | some d => do
      let (ds, rest) ← digits base true cs
      return (d :: ds, rest)
    | none => some ([], c :: cs)
  | _, [] => some ([], [])

def isNameChar (c : Char) : Bool :=
  c.isAlphanum || c == '_' || 0x80 ≤ c.toNat

def followers : List String := ["and", "else", "for", "if", "in", "is", "or", "not"]

def mayEnd : List Char → Bool
  | [] => true
  | c :: cs => !isNameChar c || followers.any fun w => w.toList.isPrefixOf (c :: cs)

def finish (c : Constant) (rest : List Char) : Option (Constant × List Char) :=
  if mayEnd rest then some (c, rest) else none

def based (base : Nat) (cs : List Char) : Option (Constant × List Char) := do
  let (ds, rest) ← digits base true cs
  if ds.isEmpty then none else finish (.int (ofDigits base ds)) rest

def exponent : List Char → Option (Option Int × List Char)
  | e :: cs =>
    if e == 'e' || e == 'E' then
      let (signed, negative, ds) := match cs with
        | '+' :: ds => (true, false, ds)
        | '-' :: ds => (true, true, ds)
        | ds => (false, false, ds)
      match digits 10 false ds with
      | some ([], _) => if signed then none else some (none, e :: cs)
      | some (ds, rest) =>
        let n : Int := ofDigits 10 ds
        some (some (if negative then -n else n), rest)
      | none => none
    else some (none, e :: cs)
  | [] => some (none, [])

/-- What follows the whole part of a decimal numeral: a fraction, an exponent, the mark of an
imaginary number, or nothing. -/
def decimal (whole : List Nat) (cs : List Char) : Option (Constant × List Char) := do
  let (fraction, cs) ← match cs with
    | '.' :: cs => (digits 10 false cs).map fun (ds, rest) => (some ds, rest)
    | cs => some (none, cs)
  let (power, rest) ← exponent cs
  let ds := whole ++ fraction.getD []
  let scale : Int := power.getD 0 - (fraction.getD []).length
  match rest with
  | 'j' :: rest | 'J' :: rest => finish (.imaginary (floatOfDigits ds scale)) rest
  | rest =>
    if fraction.isSome || power.isSome then finish (.float (floatOfDigits ds scale)) rest
    else if whole.head? == some 0 && whole.any (· != 0) then none
    else if whole.length ≤ 4300 || whole.all (· == 0) then finish (.int (ofDigits 10 whole)) rest
    else none

end Numeral

def readNumeral : List Char → Option (Constant × List Char)
  | '0' :: 'x' :: cs | '0' :: 'X' :: cs => Numeral.based 16 cs
  | '0' :: 'o' :: cs | '0' :: 'O' :: cs => Numeral.based 8 cs
  | '0' :: 'b' :: cs | '0' :: 'B' :: cs => Numeral.based 2 cs
  | cs => do
    let (whole, rest) ← Numeral.digits 10 false cs
    Numeral.decimal whole rest

end GeneticRepair.Code
