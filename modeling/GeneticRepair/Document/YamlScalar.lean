import GeneticRepair.Document.JsonReader
/-!
# Plain scalars

What a word stands for that is written without quotes in a YAML document: nothing, a truth value, an
integer in one of four bases, a float, or a text.
-/

namespace GeneticRepair.Yaml

open GeneticRepair.Number

def nulls : List String := ["", "~", "null", "Null", "NULL"]

def trueWords : List String := ["yes", "Yes", "YES", "true", "True", "TRUE", "on", "On", "ON"]

def falseWords : List String := ["no", "No", "NO", "false", "False", "FALSE", "off", "Off", "OFF"]

def infinityWords : List String := [".inf", ".Inf", ".INF"]

def nanWords : List String := [".nan", ".NaN", ".NAN"]

def splitSign : List Char → Bool × List Char
  | '-' :: cs => (true, cs)
  | '+' :: cs => (false, cs)
  | cs => (false, cs)

def digitsIn (base : Nat) (cs : List Char) : Option (List Nat) :=
  (cs.filter (· != '_')).mapM fun c => (Text.hexValue? c).filter (· < base)

def natIn (base : Nat) (cs : List Char) : Option Nat :=
  match digitsIn base cs with
  | some [] => none
  | found => found.map (ofDigits base)

/-- An integer without its sign: a zero before other digits announces another base. -/
def natural? : List Char → Option Nat
  | ['0'] => some 0
  | '0' :: 'b' :: cs => natIn 2 cs
  | '0' :: 'x' :: cs => natIn 16 cs
  | '0' :: cs => (digitsIn 8 cs).map (ofDigits 8)
  | c :: cs => if isDigit c then natIn 10 (c :: cs) else none
  | [] => none

def integer? (cs : List Char) : Option Int :=
  let (negative, rest) := splitSign cs
  (natural? rest).map (signed negative)

/-- The exponent of a float, which has to have a sign. -/
def exponent? : List Char → Option Int
  | [] => some 0
  | e :: sign :: c :: cs =>
    if (e == 'e' || e == 'E') && (sign == '+' || sign == '-') && (c :: cs).all isDigit then
      some (signed (sign == '-') (ofDigits 10 ((c :: cs).map digitValue)))
    else none
  | _ => none

def isDigitOrLowLine (c : Char) : Bool :=
  isDigit c || c == '_'

/-- A float has a point, and begins with a digit or with its point. -/
def magnitude? (signGiven : Bool) (cs : List Char) : Option Float := do
  let whole := cs.takeWhile isDigitOrLowLine
  match cs.dropWhile isDigitOrLowLine with
  | '.' :: rest =>
    let places := rest.takeWhile isDigitOrLowLine
    let leads := match whole, places with
      | c :: _, _ => isDigit c
      | [], c :: _ => isDigit c && !signGiven
      | [], [] => false
    if !leads then none
    let power ← exponent? (rest.dropWhile isDigitOrLowLine)
    let whole ← digitsIn 10 whole
    let places ← digitsIn 10 places
    return floatOfDigits (whole ++ places) (power - places.length)
  | _ => none

def float? (cs : List Char) : Option Float := do
  let (negative, rest) := splitSign cs
  if nanWords.contains (String.ofList cs) then return 0.0 / 0.0
  let x ← if infinityWords.contains (String.ofList rest) then pure (1.0 / 0.0)
    else magnitude? (rest.length < cs.length) rest
  return if negative then -x else x

def plain (s : String) : Value :=
  if nulls.contains s then .null
  else if trueWords.contains s then .bool true
  else if falseWords.contains s then .bool false
  else match float? s.toList, integer? s.toList with
    | some x, _ => .float x
    | none, some n => .int n
    | none, none => .text s

end GeneticRepair.Yaml
