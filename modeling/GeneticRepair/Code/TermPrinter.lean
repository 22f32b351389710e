import GeneticRepair.Code.Header
import GeneticRepair.Code.Precedence
import GeneticRepair.Code.Quotation
import GeneticRepair.Number.Shortest
/-!
# Printing terms

A term is printed with the fewest parentheses that its place asks for: each place has a precedence,
and a term that binds more loosely is put in parentheses. Texts become quoted texts, numbers are
written in their shortest form.

Inside the braces of a formatted text no backslash may occur. The printer tries other quotes there,
and where none will do the term cannot be printed.
-/

namespace GeneticRepair.Code

open GeneticRepair.Text
open GeneticRepair.Number (FloatStyle floatText)

/-- Floats of programs. A value with no literal of its own is written as an overflowing one, or as
the difference of two. -/
def programFloat : FloatStyle := ⟨true, "1e309", "(1e309-1e309)"⟩

def programImaginary : FloatStyle := { programFloat with pointZero := false }

structure Setting where
  /-- Whether backslashes are to be avoided, as inside the braces of a formatted text. -/
  sparing : Bool
  /-- How deep the statement is nested in blocks. -/
  depth : Nat

def printConstant (sparing : Bool) : Constant → Printed
  | .none => pure "None"
  | .bool true => pure "True"
  | .bool false => pure "False"
  | .ellipsis => pure "..."
  | .int n => if n < Nat.pow 10 4300 then pure (toString n) else throw .tooManyDigits
  | .float x => pure (floatText programFloat x)
  | .imaginary x => pure (floatText programImaginary x ++ "j")
  | .text cs marked =>
    pure ((if marked then "u" else "") ++
      if sparing then Quotation.sparing Quotation.all cs else quoted cs)
  | .bytes bs => pure (quotedBytes bs)

def tupleItems : List String → String
  | [x] => x ++ ","
  | xs => commaJoin xs

def doubleBraces (cs : List CodePoint) : List CodePoint :=
  cs.flatMap fun c => if c == 0x7b || c == 0x7d then [c, c] else [c]

def withDefault (p : String) : Option String → String
  | some d => p ++ "=" ++ d
  | none => p

def alignDefaults (count : Nat) (defaults : List String) : List (Option String) :=
  List.replicate (count - defaults.length) none ++ defaults.map some

def distribute : List Bool → List String → List (Option String)
  | [], _ => []
  | true :: flags, v :: vs => some v :: distribute flags vs
  | true :: flags, [] => none :: distribute flags []
  | false :: flags, vs => none :: distribute flags vs

def joinParameters (shape : Parameters) (printed : List String) : String :=
  let count := shape.positionalOnly + shape.positional
  let plain := printed.take count
  let rest := printed.drop count
  let variadic := rest.take shape.variadic.toNat
  let rest := rest.drop shape.variadic.toNat
  let named := rest.take shape.keywordOnly.length
  let rest := rest.drop shape.keywordOnly.length
  let given := shape.keywordOnly.countP id
  let namedDefaults := distribute shape.keywordOnly (rest.take given)
  let rest := rest.drop given
  let keywordVariadic := rest.take shape.keywordVariadic.toNat
  let defaults := alignDefaults count (rest.drop shape.keywordVariadic.toNat)
  let positional := plain.zipWith withDefault defaults
  let positional := if shape.positionalOnly == 0 then positional
    else positional.take shape.positionalOnly ++ "/" :: positional.drop shape.positionalOnly
  let star := if shape.variadic then variadic.map ("*" ++ ·)
    else if named.isEmpty then [] else ["*"]
  commaJoin (positional ++ star ++ named.zipWith withDefault namedDefaults ++
    keywordVariadic.map ("**" ++ ·))

def entryText : Option String × String → String
  | (some k, v) => k ++ ": " ++ v
  | (none, v) => "**" ++ v

def pairText (separator : String) (k v : String) : String :=
  k ++ separator ++ v

def comparisonTail : List Operator → List Printed → Printed
  | op :: ops, x :: xs => do
    let sign ← orThrow op.comparisonSign?
    return " " ++ sign ++ " " ++ (← x) ++ (← comparisonTail ops xs)
  | _, _ => pure ""

def needsBlank : Head → Bool
  | .constant (.int _) | .constant (.bool _) => true
  | _ => false

/-- The children of a dictionary in the order of its entries: from a key and an entry on, where the
given number of keys comes before the values. -/
def entryOrder (keys : Nat) : Nat → Nat → List Bool → List Nat
  | _, _, [] => []
  | key, entry, true :: keyed =>
    key :: (keys + entry) :: entryOrder keys (key + 1) (entry + 1) keyed
  | key, entry, false :: keyed => (keys + entry) :: entryOrder keys key (entry + 1) keyed

def Parameters.order (p : Parameters) : List Nat :=
  let count := p.positionalOnly + p.positional
  let named := count + p.variadic.toNat
  let namedDefaults := named + p.keywordOnly.length
  let last := namedDefaults + p.keywordOnly.countP id
  let defaults := last + p.keywordVariadic.toNat
  let positional (i : Nat) : List Nat :=
    if count ≤ i + p.defaults then [i, defaults + (i + p.defaults - count)] else [i]
  let keywordOnly (i : Nat) : List Nat :=
    if p.keywordOnly[i]? == some true then
      [named + i, namedDefaults + (p.keywordOnly.take i).countP id]
    else [named + i]
  (List.range count).flatMap positional ++ (if p.variadic then [count] else []) ++
    (List.range p.keywordOnly.length).flatMap keywordOnly ++
    (if p.keywordVariadic then [last] else [])

def Head.printingOrder (h : Head) (count : Nat) : List Nat :=
  match h with
  | .conditional => [1, 0, 2]
  | .dict keyed => entryOrder (keyed.countP id) 0 0 keyed
  | .mappingPattern _ => (List.range (count / 2)).flatMap fun i => [i, count / 2 + i]
  | .parameters shape => shape.order
  | _ => List.range count

def assembleTexts (setting : Setting) (place : Nat) (h : Head) (heads : List Head)
    (xs : List String) : Printed := do
  match h, xs with
  | .name id, _ => return id
  | .constant c, _ => printConstant setting.sparing c
  | .tuple, xs =>
    return parenthesizeIf (xs.isEmpty || Precedence.tuple < place) (tupleItems xs)
  | .list, xs => return "[" ++ commaJoin xs ++ "]"
  | .set, xs =>
    return if xs.isEmpty then "\x7b*()\x7d" else "\x7b" ++ commaJoin xs ++ "\x7d"
  | .listComp, xs => return "[" ++ String.join xs ++ "]"
  | .setComp, xs => return "\x7b" ++ String.join xs ++ "\x7d"
  | .generator, xs => return "(" ++ String.join xs ++ ")"
  | .dict keyed, xs =>
    let keys := keyed.countP id
    let entries := (distribute keyed (xs.take keys)).zip (xs.drop keys)
    return "\x7b" ++ commaJoin (entries.map entryText) ++ "\x7d"
  | .dictComp, key :: value :: clauses =>
    return "\x7b" ++ key ++ ": " ++ value ++ String.join clauses ++ "\x7d"
  | .clause isAsync, target :: iterable :: conditions =>
    return (if isAsync then " async for " else " for ") ++ target ++ " in " ++ iterable ++
      String.join (conditions.map (" if " ++ ·))
  | .unary op, [x] =>
    let sign := match op with
      | .invert => "~"
      | .not => "not "
      | .uAdd => "+"
      | .uSub => "-"
    return parenthesizeIf (Precedence.ofUnary op < place) (sign ++ x)
  | .conditional, [condition, value, other] =>
    return parenthesizeIf (Precedence.test < place)
      (value ++ " if " ++ condition ++ " else " ++ other)
  | .assigned, [target, value] =>
    return parenthesizeIf (Precedence.named < place) (target ++ " := " ++ value)
  | .await, [x] => return parenthesizeIf (Precedence.await < place) ("await " ++ x)
  | .yield, [] => return parenthesizeIf (Precedence.yield < place) "yield"
  | .yield, [x] => return parenthesizeIf (Precedence.yield < place) ("yield " ++ x)
  | .yieldFrom, [x] => return parenthesizeIf (Precedence.yield < place) ("yield from " ++ x)
  | .call _, function :: arguments => return function ++ "(" ++ commaJoin arguments ++ ")"
  | .keyword (some name), [x] => return name ++ "=" ++ x
  | .keyword none, [x] => return "**" ++ x
  | .attribute name, [object] =>
    return object ++ (if heads.any needsBlank then " ." else ".") ++ name
  | .subscript, [object, index] => return object ++ "[" ++ index ++ "]"
  | .starred, [x] => return "*" ++ x
  | .slice lower upper step, xs =>
    let bounds := distribute [lower, upper, step] xs
    let bound (i : Nat) : String := (bounds[i]?.bind id).getD ""
    return bound 0 ++ ":" ++ bound 1 ++ (if step then ":" ++ bound 2 else "")
  | .lambda, [parameters, body] =>
    return parenthesizeIf (Precedence.test < place)
      ("lambda" ++ (if parameters.isEmpty then "" else " " ++ parameters) ++ ": " ++ body)
  | .parameters shape, xs => return joinParameters shape xs
  | .parameter name, [] => return name
  | .parameter name, [hint] => return name ++ ": " ++ hint
  | .managed, [context] => return context
  | .managed, [context, target] => return context ++ " as " ++ target
  | .valuePattern, [x] => return x
  | .singletonPattern c, _ => printConstant setting.sparing c
  | .sequencePattern, xs => return "[" ++ commaJoin xs ++ "]"
  | .mappingPattern rest, xs =>
    let count := xs.length / 2
    let entries := (xs.take count).zipWith (pairText ": ") (xs.drop count)
    return "\x7b" ++ commaJoin (entries ++ rest.toList.map ("**" ++ ·)) ++ "\x7d"
  | .classPattern attributes, cls :: xs =>
    let count := xs.length - attributes.length
    return cls ++ "(" ++
      commaJoin (xs.take count ++ attributes.zipWith (pairText "=") (xs.drop count)) ++ ")"
  | .starPattern name, _ => return "*" ++ name.getD "_"
  | .bindingPattern none, _ => return "_"
  | .bindingPattern (some name), [] => return name
  | .bindingPattern (some name), [x] =>
    return parenthesizeIf (Precedence.test < place) (x ++ " as " ++ name)
  | .orPattern, xs => return parenthesizeIf (Precedence.union < place) (" | ".intercalate xs)
  | .imported name asName, _ =>
    return name ++ (match asName with
      | some other => " as " ++ other
      | none => "")
  | .operator _, _ => return ""
  | .statement l _, xs => return newLine setting.depth (← header false l (isBareName heads) xs)
  | _, _ => return ""

/-- The text of a term, given the heads and the texts of its children. An operator that joins two
operands is looked at before they are, and that of a comparison once the operands before it have
been printed. -/
def assemble (setting : Setting) (place : Nat) (h : Head) (heads : List Head) (xs : List Printed) :
    Printed := do
  match h, xs with
  | .connective op, xs =>
    let sign ← orThrow op.connectiveSign?
    let level := if op == .and then Precedence.conjunction else Precedence.disjunction
    return parenthesizeIf (level < place) ((" " ++ sign ++ " ").intercalate (← xs.mapM id))
  | .binary op, [l, r] =>
    let sign ← orThrow op.binarySign?
    return parenthesizeIf (Precedence.ofBinary op < place)
      ((← l) ++ " " ++ sign ++ " " ++ (← r))
  | .comparison ops, x :: xs =>
    return parenthesizeIf (Precedence.comparison < place) ((← x) ++ (← comparisonTail ops xs))
  | h, xs => assembleTexts setting place h heads (← inOrder (h.printingOrder xs.length) xs)


def interpolationText (conversion : Option Char) (value : String) (format : List CodePoint) :
    Except PrintError (List CodePoint) :=
  if value.toList.contains '\\' then throw .backslash
  else
    let opening := if value.toList.head? == some '\x7b' then "\x7b " else "\x7b"
    let mark := (conversion.toList.flatMap (['!', ·]))
    return codePoints (opening ++ value ++ String.ofList mark) ++ format ++ codePoints "\x7d"

mutual

def printTerm (setting : Setting) (place : Nat) : Term → Printed
  | .node h _ ts => do
    match h with
    | .joined =>
      let pieces ← formattedPieces setting ts
      return "f" ++ if setting.sparing then Quotation.sparing Quotation.all (pieces.flatMap (·.1))
        else Quotation.formatted pieces
    | h => assemble setting place h (ts.map Term.head) (printTerms setting h ts.length 0 ts)

def printTerms (setting : Setting) (h : Head) (count index : Nat) : List Term → List Printed
  | [] => []
  | t :: ts =>
    printTerm setting (placeIn h index count t.head) t ::
      printTerms setting h count (index + 1) ts

def formattedPieces (setting : Setting) :
    List Term → Except PrintError (List (List CodePoint × Bool))
  | [] => return []
  | t :: ts => do
    let first ← formattedPiece setting t
    return first :: (← formattedPieces setting ts)

def formattedPiece (setting : Setting) : Term → Except PrintError (List CodePoint × Bool)
  | .node h _ ts => do
    match h with
    | .constant (.text cs _) => return (doubleBraces cs, true)
    | .constant _ => throw .misplacedConstant
    | .joined => return ((← formattedPieces setting ts).flatMap (·.1), false)
    | .interpolation conversion => return (← interpolation setting conversion ts, false)
    | _ => throw .misplacedPart

def interpolation (setting : Setting) (conversion : Option Char) :
    List Term → Except PrintError (List CodePoint)
  | [] => return []
  | value :: format => do
    let value ← printTerm { setting with sparing := true } Precedence.disjunction value
    let pieces ← formattedPieces setting format
    interpolationText conversion value
      (if pieces.isEmpty then [] else codePoints ":" ++ pieces.flatMap (·.1))

end

end GeneticRepair.Code
