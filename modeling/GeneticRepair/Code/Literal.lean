import GeneticRepair.Code.Numeral
import GeneticRepair.Text.CharacterName
/-!
# Escapes in string literals

What the characters between the quotes of a string literal stand for. An escaped newline stands for
nothing; a backslash before any character that no escape begins with stands for itself. A text is a
list of code points, since an escape may name a lone surrogate.
-/

namespace GeneticRepair.Code

open GeneticRepair.Text
open GeneticRepair.Number (ofDigits)

namespace Literal

def simpleEscape? : Char → Option CodePoint
  | '\\' => some 0x5c
  | '\'' => some 0x27
  | '"' => some 0x22
  | 'a' => some 0x7
  | 'b' => some 0x8
  | 'f' => some 0xc
  | 'n' => some 0xa
  | 'r' => some 0xd
  | 't' => some 0x9
  | 'v' => some 0xb
  | _ => none

def exactly (base count : Nat) (cs : List Char) : Option (Nat × List Char) := do
  let ds ← (cs.take count).mapM (Numeral.digitOf? base)
  if ds.length == count then some (ofDigits base ds, cs.drop count) else none

def octal (cs : List Char) : Nat × List Char :=
  let ds := ((cs.take 3).map (Numeral.digitOf? 8)).takeWhile Option.isSome
  (ofDigits 8 (ds.filterMap id), cs.drop ds.length)

def hexWidth? : Char → Option Nat
  | 'x' => some 2
  | 'u' => some 4
  | 'U' => some 8
  | _ => none

/-- The character named between braces, and what follows them. -/
def named : List Char → Option (CodePoint × List Char)
  | '\x7b' :: cs => do
    let name := cs.takeWhile (· != '\x7d')
    let c ← characterNamed? (String.ofList name)
    if name.length < cs.length then some (c, cs.drop (name.length + 1)) else none
  | _ => none

/-- Decodes the escape after a backslash: the code points it stands for and what follows it. -/
def escape (wide : Bool) : List Char → Option (List CodePoint × List Char)
  | [] => some ([0x5c], [])
  | '\n' :: cs => some ([], cs)
  | c :: cs =>
    match simpleEscape? c with
    | some n => some ([n], cs)
    | none =>
      if (Numeral.digitOf? 8 c).isSome then
        let (n, rest) := octal (c :: cs)
        some ([if wide then n else n % 256], rest)
      else
        match if wide || c == 'x' then hexWidth? c else none with
        | some width => do
          let (n, rest) ← exactly 16 width cs
          if n < 0x110000 then some ([n], rest) else none
        | none =>
          if wide && c == 'N' then (named cs).map fun (n, rest) => ([n], rest)
          else some ([0x5c], c :: cs)

def decode (wide : Bool) : Nat → List Char → Option (List CodePoint)
  | 0, _ => some []
  | _, [] => some []
  | fuel + 1, '\\' :: cs => do
    let (found, rest) ← escape wide cs
    return found ++ (← decode wide fuel rest)
  | fuel + 1, c :: cs => do
    return c.toNat :: (← decode wide fuel cs)

end Literal

def decodeText (raw : Bool) (body : List Char) : Option (List CodePoint) :=
  if raw then some (body.map Char.toNat) else Literal.decode true body.length body

def decodeBytes (raw : Bool) (body : List Char) : Option (List UInt8) := do
  if body.any fun c => 0x80 ≤ c.toNat then none
  let cs ← if raw then some (body.map Char.toNat) else Literal.decode false body.length body
  return cs.map Nat.toUInt8

end GeneticRepair.Code
