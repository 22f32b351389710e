import GeneticRepair.Collection.Entries
import GeneticRepair.Document.Value
import GeneticRepair.Number.Digits
/-!
# Reading JSON

Documents written in JSON. The words `NaN`, `Infinity` and `-Infinity` are numbers too. Of a key
that comes twice the last value counts. Every step takes at least one character, so the length of a
text bounds the depth of the recursion.
-/

namespace GeneticRepair

inductive ReadFlaw where
  | malformed
  /-- An integer has more than 4300 digits. -/
  | tooManyDigits
  deriving Repr, DecidableEq

abbrev ReadFrom (α : Type) := List Char → Except ReadFlaw (α × List Char)

def orMalformed {α : Type} : Option α → Except ReadFlaw α
  | some a => return a
  | none => throw .malformed

namespace Json

open GeneticRepair.Number
open GeneticRepair.Text (hexValue?)

def isBlank (c : Char) : Bool :=
  c == ' ' || c == '\t' || c == '\n' || c == '\r'

def skipBlanks (cs : List Char) : List Char :=
  cs.dropWhile isBlank

def afterWord (word : String) (cs : List Char) : Option (List Char) :=
  if word.toList.isPrefixOf cs then some (cs.drop word.length) else none

def escaped? : Char → Option Char
  | '"' => some '"'
  | '\\' => some '\\'
  | '/' => some '/'
  | 'b' => some '\x08'
  | 'f' => some '\x0c'
  | 'n' => some '\n'
  | 'r' => some '\r'
  | 't' => some '\t'
  | _ => none

def units : List Char → Option (List Nat × List Char)
  | [] => none
  | '"' :: cs => some ([], cs)
  | '\\' :: 'u' :: a :: b :: c :: d :: cs => do
    let n := ofDigits 16 [← hexValue? a, ← hexValue? b, ← hexValue? c, ← hexValue? d]
    let (us, rest) ← units cs
    return (n :: us, rest)
  | '\\' :: c :: cs => do
    let e ← escaped? c
    let (us, rest) ← units cs
    return (e.toNat :: us, rest)
  | c :: cs => do
    if c.toNat < 0x20 then none
    let (us, rest) ← units cs
    return (c.toNat :: us, rest)

def isHighHalf (n : Nat) : Bool :=
  0xd800 ≤ n && n < 0xdc00

def isLowHalf (n : Nat) : Bool :=
  0xdc00 ≤ n && n < 0xe000

/-- Joins the halves of the characters that are written as two escapes. -/
def joinHalves : List Nat → List Char
  | [] => []
  | high :: low :: us =>
    if isHighHalf high && isLowHalf low then
      Char.ofNat (0x10000 + (high - 0xd800) * 0x400 + (low - 0xdc00)) :: joinHalves us
    else Char.ofNat high :: joinHalves (low :: us)
  | [u] => [Char.ofNat u]

def string : ReadFrom String := fun cs => do
  let (us, rest) ← orMalformed (units cs)
  return (String.ofList (joinHalves us), rest)

def digits (cs : List Char) : List Nat × List Char :=
  ((cs.takeWhile isDigit).map digitValue, cs.dropWhile isDigit)

def fraction : List Char → Option (List Nat) × List Char
  | '.' :: cs =>
    match digits cs with
    | ([], _) => (none, '.' :: cs)
    | (ds, rest) => (some ds, rest)
  | cs => (none, cs)

def exponent : List Char → Option Int × List Char
  | e :: cs =>
    let (negative, afterSign) := match cs with
      | '-' :: cs => (true, cs)
      | '+' :: cs => (false, cs)
      | cs => (false, cs)
    match e == 'e' || e == 'E', digits afterSign with
    | true, (d :: ds, rest) => (some (signed negative (ofDigits 10 (d :: ds))), rest)
    | _, _ => (none, e :: cs)
  | [] => (none, [])

def numberAfter (negative : Bool) (whole : List Nat) : ReadFrom Value := fun cs =>
  let (places, cs) := fraction cs
  let (power, rest) := exponent cs
  if places.isSome || power.isSome then
    let x := floatOfDigits (whole ++ places.getD []) (power.getD 0 - (places.getD []).length)
    return (.float (if negative then -x else x), rest)
  else if whole.length ≤ 4300 then return (.int (signed negative (ofDigits 10 whole)), rest)
  else throw .tooManyDigits

def magnitude (negative : Bool) : ReadFrom Value
  | '0' :: cs => numberAfter negative [0] cs
  | cs =>
    match digits cs with
    | ([], _) => throw .malformed
    | (ds, rest) => numberAfter negative ds rest

def number : ReadFrom Value
  | '-' :: cs => magnitude true cs
  | cs => magnitude false cs

def words : List (String × Value) :=
  [("null", .null), ("true", .bool true), ("false", .bool false), ("NaN", .float (0.0 / 0.0)),
    ("Infinity", .float (1.0 / 0.0)), ("-Infinity", .float (-1.0 / 0.0))]

def scalar : ReadFrom Value := fun cs =>
  match words.findSome? fun (w, v) => (afterWord w cs).map (v, ·) with
  | some found => return found
  | none => number cs

section Structure

/-! How atoms are read is left open. -/

variable (atom : ReadFrom Value)

mutual

def value : Nat → ReadFrom Value
  | 0, _ => throw .malformed
  | n + 1, cs => do
    match cs with
    | '"' :: cs => return Prod.map Value.text id (← string cs)
    | '[' :: cs =>
      match skipBlanks cs with
      | ']' :: rest => return (.list [], rest)
      | cs => return Prod.map Value.list id (← items n cs)
    | '{' :: cs =>
      match skipBlanks cs with
      | '}' :: rest => return (.map [], rest)
      | cs => return Prod.map (fun es => .map (Entries.ofList es)) id (← entries n cs)
    | cs => atom cs

def items : Nat → ReadFrom (List Value)
  | 0, _ => throw .malformed
  | n + 1, cs => do
    let (v, rest) ← value n cs
    match skipBlanks rest with
    | ']' :: rest => return ([v], rest)
    | ',' :: rest =>
      let (vs, rest) ← items n (skipBlanks rest)
      return (v :: vs, rest)
    | _ => throw .malformed

def entries : Nat → ReadFrom (List (String × Value))
  | 0, _ => throw .malformed
  | n + 1, cs => do
    match cs with
    | '"' :: cs =>
      let (key, rest) ← string cs
      match skipBlanks rest with
      | ':' :: rest =>
        let (v, rest) ← value n (skipBlanks rest)
        match skipBlanks rest with
        | '}' :: rest => return ([(key, v)], rest)
        | ',' :: rest =>
          let (es, rest) ← entries n (skipBlanks rest)
          return ((key, v) :: es, rest)
        | _ => throw .malformed
      | _ => throw .malformed
    | _ => throw .malformed

end

def readWith (s : String) : Except ReadFlaw Value := do
  let cs := s.toList
  let (v, rest) ← value atom (2 * cs.length + 2) (skipBlanks cs)
  if (skipBlanks rest).isEmpty then return v else throw .malformed

end Structure

def read (s : String) : Except ReadFlaw Value :=
  readWith scalar s

end Json

end GeneticRepair
