import GeneticRepair.Code.PatternReader
import GeneticRepair.Code.Node
/-!
# Reading modules

Statements and their blocks. A statement ends on the line of the last token that belongs to it, and
begins on the line of its first, decorators not counted.
-/

namespace GeneticRepair.Code

open Reader

namespace NodeReader

variable (r : Rules)

def finish (line : Nat) (build : Span → Node) : Reader Node :=
  return build ⟨line, ← lastLine⟩

def finishSimple (line : Nat) (label : Label) (terms : List Term) : Reader Node :=
  finish line (Node.simple label · terms)

/-! ## Simple statements -/

def augmentedSigns : List (String × Operator) :=
  [("+=", .add), ("-=", .sub), ("*=", .mult), ("@=", .matMult), ("/=", .div), ("%=", .mod),
    ("&=", .bitAnd), ("|=", .bitOr), ("^=", .bitXor), ("<<=", .lShift), (">>=", .rShift),
    ("**=", .pow), ("//=", .floorDiv)]

def isName (t : Term) : Bool :=
  match t.head with
  | .name _ => true
  | _ => false

def assignments (first : Term) : Reader (List Term) :=
  loop (fun ts => do
    if ← acceptSign "=" then return some ((← r.yieldOrStarExpressions) :: ts)
    else return none) [first]

/-- Takes a single target in parentheses. Tells whether a colon follows. -/
def enclosedTarget : Reader Bool := do
  expectSign "("
  unless isSingleTarget (← r.primary) do failure
  expectSign ")"
  nextIsSign ":"

/-- An expression, or an assignment to it. An annotation may follow a target in parentheses, but not
one that merely begins with such a target. -/
def expressionStatement : Reader Node := do
  let line ← here
  let opening ← nextIsSign "("
  let start ← get
  let first ← r.yieldOrStarExpressions
  match ← Rules.acceptOperator augmentedSigns with
  | some op =>
    unless isSingleTarget first do failure
    finishSimple line (.augmented op) [first, ← r.yieldOrStarExpressions]
  | none =>
    if ← acceptSign ":" then
      unless isSingleTarget first do failure
      if ((enclosedTarget r start).map Prod.fst) == some false then failure
      let hint ← r.expression
      let value ← if ← acceptSign "=" then pure [← r.yieldOrStarExpressions] else pure []
      finishSimple line (.annotated (isName first && !opening)) (first :: hint :: value)
    else
      match ← assignments r first with
      | value :: target :: targets =>
        let targets := (target :: targets).reverse
        unless targets.all isTarget do failure
        finishSimple line .assign (targets ++ [value])
      | _ => finishSimple line .expression [first]

def dottedName : Reader String := do
  let parts ← loop (fun parts => do
    if ← acceptSign "." then return some ((← identifier) :: parts) else return none)
    [← identifier]
  return ".".intercalate parts.reverse

def asName? : Reader (Option String) := do
  if ← acceptWord "as" then return some (← identifier) else return none

def imported (name : Reader String) : Reader Term := do
  let line ← here
  let id ← name
  return .node (.imported id (← asName?)) line []

def importLevel : Reader Nat :=
  loop (fun n => do
    if ← acceptSign "." then return some (n + 1)
    else if ← acceptSign "..." then return some (n + 3)
    else return none) 0

def nameNext : Reader Bool := do
  match ← peek with
  | some (.name _) => return true
  | _ => return false

def importedNames : Reader (List Term) := do
  let line ← here
  if ← acceptSign "*" then return [.node (.imported "*" none) line []]
  else if ← acceptSign "(" then
    let first ← imported identifier
    let (names, _) ← commaTail nameNext (imported identifier) first
    expectSign ")"
    return names
  else commaSeparated (imported identifier)

def importFrom (line : Nat) : Reader Node := do
  let level ← importLevel
  let source ← if (← nameNext) || level == 0 then dottedName else pure ""
  expectWord "import"
  finishSimple line (.importFrom source level) (← importedNames)

mutual

def isDeletable : Term → Bool
  | .node h _ ts =>
    match h with
    | .name _ | .attribute _ | .subscript => true
    | .tuple | .list => areDeletable ts
    | _ => false

def areDeletable : List Term → Bool
  | [] => true
  | t :: ts => isDeletable t && areDeletable ts

end

def optionalExpression (begins : Reader Bool) (t : Reader Term) : Reader (List Term) := do
  if ← begins then return [← t] else return []

def simpleStatement : Reader Node := do
  let line ← here
  if ← acceptWord "pass" then finishSimple line .pass []
  else if ← acceptWord "break" then finishSimple line .breakLoop []
  else if ← acceptWord "continue" then finishSimple line .continueLoop []
  else if ← acceptWord "return" then
    finishSimple line .returning (← optionalExpression itemNext r.starExpressions)
  else if ← acceptWord "raise" then
    let value ← optionalExpression expressionNext r.expression
    let cause ← if value.isEmpty then pure []
      else optionalExpression (acceptWord "from") r.expression
    finishSimple line .raise (value ++ cause)
  else if ← acceptWord "global" then
    finishSimple line (.global (← commaSeparated identifier)) []
  else if ← acceptWord "nonlocal" then
    finishSimple line (.nonlocal (← commaSeparated identifier)) []
  else if ← acceptWord "del" then
    let first ← r.primary
    let (targets, _) ← commaTail expressionNext r.primary first
    unless targets.all isDeletable do failure
    finishSimple line .delete targets
  else if ← acceptWord "assert" then
    let condition ← r.expression
    let message ← optionalExpression (acceptSign ",") r.expression
    finishSimple line .assertion (condition :: message)
  else if ← acceptWord "import" then
    finishSimple line .importing (← commaSeparated (imported dottedName))
  else if ← acceptWord "from" then importFrom line
  else expressionStatement r

def lineEnd : Reader Bool :=
  return (← peek) == some .newline

def simpleLine : Reader (List Node) := do
  let first ← simpleStatement r
  let (found, _) ← loop (fun (found, closed) => do
    if closed then return none
    else if ← acceptSign ";" then
      if ← lineEnd then return some (found, true)
      else return some ((← simpleStatement r) :: found, false)
    else return none) ([first], false)
  expect .newline
  return found.reverse

/-! ## Blocks

`statement` reads one line or one compound statement. -/

variable (statement : Reader (List Node))

def statementsUntilDedent : Reader (List Node) := do
  let found ← loop (fun found => do
    if (← peek) == some .dedent then return none
    else return some ((← statement).reverse ++ found)) []
  expect .dedent
  return found.reverse

def block : Reader (List Node) := do
  expectSign ":"
  if ← accept .newline then
    expect .indent
    statementsUntilDedent statement
  else simpleLine r

def elseBlock : Reader (List Node) := do
  if ← acceptWord "else" then block r statement else return []

def whileLoop (line : Nat) : Reader Node := do
  let condition ← r.namedExpression
  let body ← block r statement
  let orelse ← elseBlock r statement
  finish line (.mk .whileLoop · [condition] body orelse [] [] [])

def forLoop (line : Nat) (isAsync : Bool) : Reader Node := do
  let target ← r.targets
  expectWord "in"
  let iterable ← r.starExpressions
  let body ← block r statement
  let orelse ← elseBlock r statement
  finish line (.mk (.forLoop isAsync) · [target, iterable] body orelse [] [] [])

def arms (line : Nat) : Reader (List (Nat × Term × List Node)) := do
  let condition ← r.namedExpression
  let first := (line, condition, ← block r statement)
  loop (fun found => do
    let line ← here
    if ← acceptWord "elif" then
      let condition ← r.namedExpression
      return some ((line, condition, ← block r statement) :: found)
    else return none) [first]

/-- Every arm after the first is the sole statement of the block for the other case. -/
def conditional (line : Nat) : Reader Node := do
  let found ← arms r statement line
  let last ← elseBlock r statement
  let endLine ← lastLine
  let nest (orelse : List Node) : Nat × Term × List Node → List Node
    | (line, condition, body) =>
      [.mk .conditional ⟨line, endLine⟩ [condition] body orelse [] [] []]
  match found.foldl nest last with
  | [n] => return n
  | _ => failure

def handler : Reader Node := do
  let line ← here
  expectWord "except"
  let caught ← optionalExpression expressionNext r.expression
  let name ← if caught.isEmpty then pure none else asName?
  let body ← block r statement
  finish line (.mk (.handler name) · caught body [] [] [] [])

def starHandler : Reader Node := do
  let line ← here
  expectWord "except"
  expectSign "*"
  let caught ← r.expression
  let name ← asName?
  let body ← block r statement
  finish line (.mk (.handler name) · [caught] body [] [] [] [])

def tryBlock (line : Nat) : Reader Node := do
  let body ← block r statement
  let star := (← peekSecond) == some (.sign "*")
  let handlers ← loop (fun found => do
    if ← nextIsWord "except" then
      return some ((← if star then starHandler r statement else handler r statement) :: found)
    else return none) []
  let orelse ← if handlers.isEmpty then pure [] else elseBlock r statement
  let finalbody ← if ← acceptWord "finally" then block r statement else pure []
  if handlers.isEmpty && finalbody.isEmpty then failure
  finish line (.mk (.tryBlock (star && !handlers.isEmpty)) · [] body orelse handlers.reverse
    finalbody [])

def managed : Reader Term := do
  let line ← here
  let context ← r.expression
  if ← acceptWord "as" then return .node .managed line [context, ← r.targetItem]
  else return .node .managed line [context]

def parenthesisedContexts : Reader (List Term) := do
  expectSign "("
  let first ← managed r
  let (found, _) ← commaTail expressionNext (managed r) first
  expectSign ")"
  unless ← nextIsSign ":" do failure
  return found

def contexts : Reader (List Term) := do
  match ← attempt (parenthesisedContexts r) with
  | some found => return found
  | none => commaSeparated (managed r)

def withBlock (line : Nat) (isAsync : Bool) : Reader Node := do
  let found ← contexts r
  let body ← block r statement
  finish line (.mk (.withBlock isAsync) · found body [] [] [] [])

def function (line : Nat) (isAsync : Bool) (decorators : List Term) : Reader Node := do
  let name ← identifier
  expectSign "("
  let parameters ← r.signature true ")"
  let result ← optionalExpression (acceptSign "->") r.expression
  let body ← block r statement
  finish line (.mk (.function name isAsync decorators.length) · (parameters :: decorators ++ result)
    body [] [] [] [])

def classDef (line : Nat) (decorators : List Term) : Reader Node := do
  let name ← identifier
  let opening ← here
  let (bases, named) ←
    if ← acceptSign "(" then r.arguments false opening else pure ([], [])
  let body ← block r statement
  finish line (.mk (.classDef name bases.length named.length) · (bases ++ named ++ decorators)
    body [] [] [] [])

/-! ## Matching -/

def subject : Reader Term := do
  let line ← here
  let first ← r.starNamedExpression
  match ← commaTail itemNext r.starNamedExpression first with
  | ([t], false) => if isStarred t then failure else return t
  | (ts, _) => return .node .tuple line ts

def matchHead : Reader Term := do
  expect (.name "match")
  let t ← subject r
  expectSign ":"
  expect .newline
  return t

def matchCase : Reader Node := do
  let line ← here
  expect (.name "case")
  let pattern ← r.casePattern
  let guard ← optionalExpression (acceptWord "if") r.namedExpression
  let body ← block r statement
  finish line (.mk .matchCase · (pattern :: guard) body [] [] [] [])

def matching (line : Nat) (subject : Term) : Reader Node := do
  expect .indent
  let first ← matchCase r statement
  let found ← loop (fun found => do
    if (← peek) == some .dedent then return none
    else return some ((← matchCase r statement) :: found)) [first]
  expect .dedent
  finish line (.mk .matching · [subject] [] [] [] [] found.reverse)

/-! ## Compound statements -/

def asyncStatement (line : Nat) (decorators : List Term) : Reader Node := do
  if ← acceptWord "def" then function r statement line true decorators
  else if !decorators.isEmpty then failure
  else if ← acceptWord "with" then withBlock r statement line true
  else if ← acceptWord "for" then forLoop r statement line true
  else failure

def decorated : Reader Node := do
  let decorators ← many (acceptSign "@") (do
    let t ← r.namedExpression
    expect .newline
    return t)
  let line ← here
  if ← acceptWord "def" then function r statement line false decorators
  else if ← acceptWord "class" then classDef r statement line decorators
  else if ← acceptWord "async" then asyncStatement r statement line decorators
  else failure

def compound (line : Nat) (word : String) : Reader (Option Node) := do
  let rest (n : Reader Node) : Reader (Option Node) := do
    skip
    return some (← n)
  match word with
  | "if" => rest (conditional r statement line)
  | "while" => rest (whileLoop r statement line)
  | "for" => rest (forLoop r statement line false)
  | "try" => rest (tryBlock r statement line)
  | "with" => rest (withBlock r statement line false)
  | "def" => rest (function r statement line false [])
  | "class" => rest (classDef r statement line [])
  | "async" => rest (asyncStatement r statement line [])
  | _ => return none

/-- A compound statement, or the simple statements of one line. `match` begins a match statement
only if a subject, a colon and a newline follow. -/
def statementRule : Reader (List Node) := do
  let line ← here
  match ← peek with
  | some (.keyword w) =>
    match ← compound r statement line w with
    | some n => return [n]
    | none => simpleLine r
  | some (.sign "@") => return [← decorated r statement]
  | some (.name "match") =>
    match ← attempt (matchHead r) with
    | some subject => return [← matching r statement line subject]
    | none => simpleLine r
  | _ => simpleLine r

/-- Reads statements whose blocks nest at most as deep as given. -/
def statementUpTo (r : Rules) : Nat → Reader (List Node)
  | 0 => failure
  | n + 1 => statementRule r (statementUpTo r n)

def file (r : Rules) (depth : Nat) : Reader (List Node) := do
  let found ← loop (fun found => do
    if (← peek).isNone then return none
    else return some ((← statementUpTo r depth).reverse ++ found)) []
  return found.reverse

end NodeReader

inductive SyntaxFlaw where
  /-- A null character cannot be part of a program. -/
  | nullCharacter
  /-- The text does not follow the grammar. -/
  | malformed
  deriving Repr, DecidableEq

def readModule (source : String) : Except SyntaxFlaw Node :=
  let cs := source.toList
  if cs.contains '\x00' then throw .nullCharacter
  else
    let body := do
      let tokens ← tokenize 1 cs
      (NodeReader.file (Rules.upTo (cs.length + 2)) (tokens.length + 1)).run? tokens
    match body with
    | some body => return .mk .module ⟨1, 1⟩ [] body [] [] [] []
    | none => throw .malformed

end GeneticRepair.Code
