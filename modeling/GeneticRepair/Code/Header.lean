import GeneticRepair.Code.Term
/-!
# First lines of statements

The line with which a statement begins, made of the texts of its terms. A text may be missing: then
there is a reason for which the whole has no text.
-/

namespace GeneticRepair.Code

inductive PrintError where
  /-- An interpolated expression needs a backslash. -/
  | backslash
  /-- An operator stands where its kind cannot stand. -/
  | misplacedOperator
  /-- A constant other than a text is part of a formatted text. -/
  | misplacedConstant
  /-- Something else than a constant or an interpolation is part of a formatted text. -/
  | misplacedPart
  /-- An integer has too many digits to be written. -/
  | tooManyDigits
  deriving Repr, DecidableEq

abbrev Printed := Except PrintError String

/-- The given texts, unless one of them is missing. The order in which they are asked for decides
which one is reported. -/
def inOrder (order : List Nat) (xs : List Printed) : Except PrintError (List String) := do
  for i in order do
    match xs[i]? with
    | some x => let _ ← x
    | none => pure ()
  xs.mapM id

def parenthesizeIf (condition : Bool) (s : String) : String :=
  if condition then "(" ++ s ++ ")" else s

def commaJoin (xs : List String) : String :=
  ", ".intercalate xs

def orThrow (s : Option String) : Printed :=
  match s with
  | some s => pure s
  | none => throw .misplacedOperator

def newLine (depth : Nat) (s : String) : String :=
  "\n" ++ String.ofList (List.replicate (4 * depth) ' ') ++ s

def behind (word : String) : List String → String
  | [] => word
  | x :: _ => word ++ " " ++ x

def header (star : Bool) (l : Label) (isBareName : Bool) (xs : List String) : Printed := do
  match l, xs with
  | .returning, xs => return behind "return" xs
  | .delete, xs => return "del " ++ commaJoin xs
  | .assign, xs => return " = ".intercalate xs
  | .augmented op, [target, value] =>
    let sign ← orThrow op.binarySign?
    return target ++ " " ++ sign ++ "= " ++ value
  | .annotated simple, target :: hint :: value =>
    return parenthesizeIf (!simple && isBareName) target ++ ": " ++ hint ++
      String.join (value.map (" = " ++ ·))
  | .forLoop isAsync, [target, iterable] =>
    return (if isAsync then "async for " else "for ") ++ target ++ " in " ++ iterable ++ ":"
  | .whileLoop, [condition] => return "while " ++ condition ++ ":"
  | .conditional, [condition] => return "if " ++ condition ++ ":"
  | .withBlock isAsync, xs =>
    return (if isAsync then "async with " else "with ") ++ commaJoin xs ++ ":"
  | .matching, [subject] => return "match " ++ subject ++ ":"
  | .raise, [x, cause] => return "raise " ++ x ++ " from " ++ cause
  | .raise, xs => return behind "raise" xs
  | .tryBlock _, _ => return "try:"
  | .assertion, xs => return "assert " ++ commaJoin xs
  | .importing, xs => return "import " ++ commaJoin xs
  | .importFrom source level, xs =>
    return "from " ++ String.ofList (List.replicate level '.') ++ source ++ " import " ++
      commaJoin xs
  | .global names, _ => return "global " ++ commaJoin names
  | .nonlocal names, _ => return "nonlocal " ++ commaJoin names
  | .expression, xs => return String.join xs
  | .pass, _ => return "pass"
  | .breakLoop, _ => return "break"
  | .continueLoop, _ => return "continue"
  | .handler name, xs =>
    return behind (if star then "except*" else "except") xs ++
      (match name with
      | some name => " as " ++ name
      | none => "") ++ ":"
  | .matchCase, [pattern] => return "case " ++ pattern ++ ":"
  | .matchCase, [pattern, guard] => return "case " ++ pattern ++ " if " ++ guard ++ ":"
  | .function name isAsync decorators, parameters :: xs =>
    return (if isAsync then "async def " else "def ") ++ name ++ "(" ++ parameters ++ ")" ++
      String.join ((xs.drop decorators).map (" -> " ++ ·)) ++ ":"
  | .classDef name bases keywords, xs =>
    let arguments := bases + keywords
    return "class " ++ name ++
      (if arguments == 0 then "" else "(" ++ commaJoin (xs.take arguments) ++ ")") ++ ":"
  | _, _ => return ""

def isBareName : List Head → Bool
  | .name _ :: _ => true
  | _ => false

end GeneticRepair.Code
