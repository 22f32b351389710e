import GeneticRepair.Code.Reader
import GeneticRepair.Code.Lexer
import GeneticRepair.Code.Literal
/-!
# Reading terms

Expressions, from the loosest binding (conditionals and lambdas) to atoms. A rule that nests goes
through `Rules`, the readers of the next deeper level of nesting; `Rules.upTo n` reads terms that
nest at most `n` deep, and every level of nesting takes a token.
-/

namespace GeneticRepair.Code

open GeneticRepair.Text
open Reader

structure Rules where
  expression : Reader Term
  disjunction : Reader Term
  inversion : Reader Term
  union : Reader Term
  factor : Reader Term
  primary : Reader Term
  pattern : Reader Term

namespace Rules

def none : Rules where
  expression := failure
  disjunction := failure
  inversion := failure
  union := failure
  factor := failure
  primary := failure
  pattern := failure

end Rules

def startsExpression : Lexeme → Bool
  | .name _ | .number _ | .literal .. => true
  | .keyword w => ["None", "True", "False", "not", "lambda", "await"].contains w
  | .sign s => ["(", "[", "\x7b", "-", "+", "~", "..."].contains s
  | _ => false

def expressionNext : Reader Bool :=
  return ((← peek).map startsExpression).getD false

def itemNext : Reader Bool := do
  return (← expressionNext) || (← nextIsSign "*")

mutual

def isTarget : Term → Bool
  | .node h _ ts =>
    match h with
    | .name _ | .attribute _ | .subscript => true
    | .starred | .tuple | .list => areTargets ts
    | _ => false

def areTargets : List Term → Bool
  | [] => true
  | t :: ts => isTarget t && areTargets ts

end

def isSingleTarget (t : Term) : Bool :=
  match t.head with
  | .name _ | .attribute _ | .subscript => true
  | _ => false

def isStarred (t : Term) : Bool :=
  match t.head with
  | .starred => true
  | _ => false

def checkTarget (t : Term) : Reader Unit := do
  unless isTarget t do failure

namespace Rules

variable (r : Rules)

/-! ## Sequences of expressions -/

def starExpression : Reader Term := do
  let line ← here
  if ← acceptSign "*" then return .node .starred line [← r.union] else r.expression

def tupleOf (line : Nat) : List Term × Bool → Term
  | ([t], false) => t
  | (ts, _) => .node .tuple line ts

def starExpressions : Reader Term := do
  let line ← here
  let first ← r.starExpression
  return tupleOf line (← commaTail itemNext r.starExpression first)

def assignmentNext : Reader Bool := do
  match ← peek, ← peekSecond with
  | some (.name _), some (.sign ":=") => return true
  | _, _ => return false

def namedExpression : Reader Term := do
  let line ← here
  if ← assignmentNext then
    let id ← identifier
    skip
    return .node .assigned line [.node (.name id) line [], ← r.expression]
  else
    let t ← r.expression
    if ← nextIsSign ":=" then failure else return t

def starNamedExpression : Reader Term := do
  let line ← here
  if ← acceptSign "*" then return .node .starred line [← r.union] else r.namedExpression

def yieldExpression : Reader Term := do
  let line ← here
  expectWord "yield"
  if ← acceptWord "from" then return .node .yieldFrom line [← r.expression]
  else if ← itemNext then return .node .yield line [← r.starExpressions]
  else return .node .yield line []

def yieldOrStarExpressions : Reader Term := do
  if ← nextIsWord "yield" then r.yieldExpression else r.starExpressions

/-! ## Targets and comprehension clauses -/

def targetItem : Reader Term := do
  let line ← here
  if ← acceptSign "*" then
    if ← nextIsSign "*" then failure
    let t ← r.primary
    checkTarget t
    return .node .starred line [t]
  else
    let t ← r.primary
    checkTarget t
    return t

def targets : Reader Term := do
  let line ← here
  let first ← r.targetItem
  return tupleOf line (← commaTail itemNext r.targetItem first)

def clauseNext : Reader Bool := do
  if ← nextIsWord "for" then return true
  else return (← peek) == some (.keyword "async") && (← peekSecond) == some (.keyword "for")

def clause : Reader Term := do
  let line ← here
  let isAsync ← acceptWord "async"
  expectWord "for"
  let target ← r.targets
  expectWord "in"
  let iterable ← r.disjunction
  let conditions ← many (acceptWord "if") r.disjunction
  return .node (.clause isAsync) line (target :: iterable :: conditions)

def clauses : Reader (List Term) :=
  many clauseNext r.clause

/-! ## Literals -/

def bytesOf : List (StringMarks × List Char) → Option (List UInt8)
  | [] => some []
  | (marks, body) :: rest => do
    if marks.bytes then return (← decodeBytes marks.raw body) ++ (← bytesOf rest) else .none

def textConstant (marked : Bool) (line : Nat) (cs : List CodePoint) : Term :=
  .node (.constant (.text cs marked)) line []

structure Parts where
  found : List Term
  opened : List CodePoint

def Parts.close (marked : Bool) (line : Nat) (p : Parts) : List Term :=
  if p.opened.isEmpty then p.found else textConstant marked line p.opened :: p.found

def Parts.addText (cs : List CodePoint) (p : Parts) : Parts :=
  { p with opened := p.opened ++ cs }

/-- The literal text at the front of a formatted text. It ends before a single brace, or behind a
doubled one, which stands for itself; inside a format braces are never doubled. Gives the characters
of the text, what follows, and whether the text goes on. -/
def literalPart (raw : Bool) (deep : Bool) :
    Nat → List Char → Option (List Char × List Char × Bool)
  | 0, cs => some ([], cs, false)
  | _, [] => some ([], [], false)
  | fuel + 1, c :: cs =>
    if c == '\x7b' || c == '\x7d' then
      if deep then some ([], c :: cs, false)
      else if cs.head? == some c then some ([c], cs.drop 1, true)
      else if c == '\x7d' then .none
      else some ([], c :: cs, false)
    else if c == '\\' && !raw then
      match cs with
      | 'N' :: '\x7b' :: cs =>
        let name := cs.takeWhile (· != '\x7d')
        (literalPart raw deep fuel (cs.drop (name.length + 1))).map fun (text, rest, more) =>
          ('\\' :: 'N' :: '\x7b' :: name ++ '\x7d' :: text, rest, more)
      | d :: cs' =>
        if d == '\x7b' || d == '\x7d' then
          (literalPart raw deep fuel cs).map fun (text, rest, more) => (c :: text, rest, more)
        else
          (literalPart raw deep fuel cs').map fun (text, rest, more) =>
            (c :: d :: text, rest, more)
      | [] => some ([c], [], false)
    else
      (literalPart raw deep fuel cs).map fun (text, rest, more) => (c :: text, rest, more)

def endsExpression (c : Char) (next : Option Char) : Option Bool :=
  if c == '!' || c == ':' || c == '\x7d' || c == '=' || c == '<' || c == '>' then
    if next == some '=' && (c == '!' || c == '=' || c == '<' || c == '>') then some false
    else some (c != '<' && c != '>')
  else .none

/-- The characters of an interpolated expression. Quotes hide what they enclose, brackets have to
match, and neither backslashes nor comments may occur. -/
def interpolated : Nat → List Char → Option (Char × Bool) → List Char →
    Option (List Char × List Char)
  | 0, _, _, _ => .none
  | _, _, _, [] => .none
  | fuel + 1, brackets, quote, c :: cs =>
    let keep (taken : List Char) (brackets : List Char) (quote : Option (Char × Bool))
        (rest : List Char) :=
      (interpolated fuel brackets quote rest).map fun (text, rest) => (taken ++ text, rest)
    if c == '\\' then .none
    else match quote with
      | some (q, long) =>
        if c == q then
          if !long then keep [c] brackets .none cs
          else match cs with
            | c₂ :: c₃ :: rest =>
              if c₂ == q && c₃ == q then keep [c, c₂, c₃] brackets .none rest
              else keep [c] brackets quote cs
            | _ => keep [c] brackets quote cs
        else keep [c] brackets quote cs
      | .none =>
        if c == '\'' || c == '"' then
          match cs with
          | c₂ :: c₃ :: rest =>
            if c₂ == c && c₃ == c then keep [c, c₂, c₃] brackets (some (c, true)) rest
            else keep [c] brackets (some (c, false)) cs
          | _ => keep [c] brackets (some (c, false)) cs
        else if (Lexer.closer c).isSome then keep [c] (c :: brackets) .none cs
        else if c == '#' then .none
        else match brackets with
          | [] =>
            match endsExpression c cs.head? with
            | some true => some ([], c :: cs)
            | some false =>
              if cs.head? == some '=' then keep [c, '='] brackets .none (cs.drop 1)
              else keep [c] brackets .none cs
            | .none => if c == ')' || c == ']' then .none else keep [c] brackets .none cs
          | b :: inner =>
            if c == ')' || c == ']' || c == '\x7d' then
              if Lexer.closer b == some c then keep [c] inner .none cs else .none
            else keep [c] brackets .none cs

def newlinesIn (cs : List Char) : Nat :=
  cs.countP (· == '\n')

def isExpressionGap (c : Char) : Bool :=
  c == ' ' || c == '\t' || c == '\n' || c == '\x0c'

def interpolatedTerm (line : Nat) (cs : List Char) : Option Term := do
  if cs.all isExpressionGap then .none
  else r.starExpressions.run? (← tokenize line (['('] ++ cs ++ [')']))

def isGapAfterEquals (c : Char) : Bool :=
  isExpressionGap c || c == '\r' || c == '\x0b'

def conversion : List Char → Option (Option Char × List Char)
  | '!' :: c :: cs => if c == 's' || c == 'r' || c == 'a' then some (some c, cs) else .none
  | ['!'] => .none
  | cs => some (.none, cs)

/-- Adds the parts of a formatted text to those found before. Interpolations may hold a format, and
a format may hold interpolations without one. `line` is where the characters begin, `first` where
the whole literal begins. -/
def formattedParts (raw marked : Bool) (first : Nat) :
    (depth fuel : Nat) → Nat → Parts → List Char → Option (Parts × List Char)
  | _, 0, _, _, _ => .none
  | depth, fuel + 1, line, parts, cs => do
    let deep := depth != 0
    let (text, rest, more) ← literalPart raw deep cs.length cs
    let parts := parts.addText (← decodeText raw text)
    let line' := line + newlinesIn (cs.take (cs.length - rest.length))
    if more then formattedParts raw marked first depth fuel line' parts rest
    else match rest with
      | '\x7b' :: rest =>
        if 2 ≤ depth then .none
        let (source, rest') ← interpolated (rest.length + 1) [] .none rest
        let value ← r.interpolatedTerm line' source
        let afterSource := line' + newlinesIn source
        let (parts, shown, rest', line'') := match rest' with
          | '=' :: tail =>
            let gap := tail.takeWhile isGapAfterEquals
            (parts.addText ((source ++ '=' :: gap).map Char.toNat), true, tail.drop gap.length,
              afterSource + newlinesIn gap)
          | _ => (parts, false, rest', afterSource)
        let (conv, rest') ← conversion rest'
        let (format, rest', line'') ← match rest' with
          | ':' :: spec => do
            let (inner, rest') ←
              formattedParts raw marked first (depth + 1) fuel line'' ⟨[], []⟩ spec
            let format := Term.node .joined first (inner.close marked first).reverse
            pure ([format], rest', line'' + newlinesIn (spec.take (spec.length - rest'.length)))
          | _ => pure ([], rest', line'')
        match rest' with
        | '\x7d' :: rest' =>
          let conv := if shown && format.isEmpty && conv.isNone then some 'r' else conv
          let term := Term.node (.interpolation conv) first (value :: format)
          formattedParts raw marked first depth fuel line''
            ⟨term :: parts.close marked first, []⟩ rest'
        | _ => .none
      | [] => if deep then .none else some (parts, [])
      | _ => if deep then some (parts, rest) else .none

def addLiteral (marked : Bool) (first : Nat) (parts : Parts) :
    StringMarks × List Char × Nat → Option Parts
  | (marks, body, line) =>
    if marks.bytes then .none
    else if marks.formatted then
      (r.formattedParts marks.raw marked first 0 (body.length + 1) line parts body).map Prod.fst
    else (decodeText marks.raw body).map parts.addText

def literals (first : Nat) : List (StringMarks × List Char × Nat) → Option Term
  | [] => .none
  | (marks, body, line) :: rest => do
    let all := (marks, body, line) :: rest
    if marks.bytes then
      let bs ← bytesOf (all.map fun (marks, body, _) => (marks, body))
      return .node (.constant (.bytes bs)) first []
    else
      let parts ← all.foldlM (r.addLiteral marks.marked first) ⟨[], []⟩
      if all.any fun (marks, _) => marks.formatted then
        return .node .joined first (parts.close marks.marked first).reverse
      else return textConstant marks.marked first parts.opened

def literalNext : Reader Bool := do
  match ← peek with
  | some (.literal ..) => return true
  | _ => return false

def literalToken : Reader (StringMarks × List Char × Nat) := do
  let line ← here
  match ← peek with
  | some (.literal marks body) =>
    skip
    return (marks, body, line)
  | _ => failure

def strings : Reader Term := do
  let line ← here
  let found ← many literalNext literalToken
  StateT.lift (r.literals line found)

/-! ## Atoms -/

def parenthesised (line : Nat) : Reader Term := do
  if ← acceptSign ")" then return .node .tuple line []
  else if ← nextIsWord "yield" then
    let t ← r.yieldExpression
    expectSign ")"
    return t
  else
    let first ← r.starNamedExpression
    if ← clauseNext then
      if isStarred first then failure
      let cs ← r.clauses
      expectSign ")"
      return .node .generator line (first :: cs)
    else
      let (ts, closed) ← commaTail itemNext r.starNamedExpression first
      expectSign ")"
      match ts, closed with
      | [t], false => if isStarred t then failure else return t
      | ts, _ => return .node .tuple line ts

def bracketed (line : Nat) : Reader Term := do
  if ← acceptSign "]" then return .node .list line []
  else
    let first ← r.starNamedExpression
    if ← clauseNext then
      if isStarred first then failure
      let cs ← r.clauses
      expectSign "]"
      return .node .listComp line (first :: cs)
    else
      let (ts, _) ← commaTail itemNext r.starNamedExpression first
      expectSign "]"
      return .node .list line ts

def entry : Reader (Option Term × Term) := do
  if ← acceptSign "**" then return (Option.none, ← r.union)
  else
    let key ← r.expression
    expectSign ":"
    return (some key, ← r.expression)

def entryNext : Reader Bool := do
  return (← expressionNext) || (← nextIsSign "**")

def dictOf (line : Nat) (entries : List (Option Term × Term)) : Term :=
  .node (.dict (entries.map (·.1.isSome))) line (entries.filterMap (·.1) ++ entries.map (·.2))

def dictTail (line : Nat) (first : Option Term × Term) : Reader Term := do
  match first.1, ← clauseNext with
  | some key, true =>
    let cs ← r.clauses
    expectSign "\x7d"
    return .node .dictComp line (key :: first.2 :: cs)
  | _, _ =>
    let (entries, _) ← commaTail entryNext r.entry first
    expectSign "\x7d"
    return dictOf line entries

def braced (line : Nat) : Reader Term := do
  if ← acceptSign "\x7d" then return .node (.dict []) line []
  else if ← nextIsSign "**" then r.dictTail line (← r.entry)
  else
    let assigned ← assignmentNext
    let first ← r.starNamedExpression
    if ← nextIsSign ":" then
      if assigned || isStarred first then failure
      skip
      r.dictTail line (some first, ← r.expression)
    else if ← clauseNext then
      if isStarred first then failure
      let cs ← r.clauses
      expectSign "\x7d"
      return .node .setComp line (first :: cs)
    else
      let (ts, _) ← commaTail itemNext r.starNamedExpression first
      expectSign "\x7d"
      return .node .set line ts

def constantWord? : String → Option Constant
  | "None" => some .none
  | "True" => some (.bool true)
  | "False" => some (.bool false)
  | _ => Option.none

def atom : Reader Term := do
  let line ← here
  match ← peek with
  | some (.name _) => return .node (.name (← identifier)) line []
  | some (.number c) =>
    skip
    return .node (.constant c) line []
  | some (.literal ..) => r.strings
  | some (.keyword w) =>
    match constantWord? w with
    | some c =>
      skip
      return .node (.constant c) line []
    | Option.none => failure
  | some (.sign "(") =>
    skip
    r.parenthesised line
  | some (.sign "[") =>
    skip
    r.bracketed line
  | some (.sign "\x7b") =>
    skip
    r.braced line
  | some (.sign "...") =>
    skip
    return .node (.constant .ellipsis) line []
  | _ => failure

/-! ## Calls, subscripts and attributes -/

structure Arguments where
  positional : List Term
  keywords : List Term
  unpacked : Bool
  closed : Bool

def keywordNext : Reader Bool := do
  match ← peek, ← peekSecond with
  | some (.name _), some (.sign "=") => return true
  | _, _ => return false

def argument (a : Arguments) : Reader Arguments := do
  let line ← here
  if ← acceptSign "**" then
    let t ← r.expression
    return { a with keywords := .node (.keyword .none) line [t] :: a.keywords, unpacked := true }
  else if ← acceptSign "*" then
    if a.unpacked then failure
    let t ← r.expression
    return { a with positional := .node .starred line [t] :: a.positional }
  else if ← keywordNext then
    let id ← identifier
    skip
    let t ← r.expression
    return { a with keywords := .node (.keyword (some id)) line [t] :: a.keywords }
  else
    unless a.keywords.isEmpty do failure
    let t ← r.namedExpression
    if ← nextIsSign "=" then failure
    return { a with positional := t :: a.positional }

def arguments (allowGenerator : Bool) (line : Nat) : Reader (List Term × List Term) := do
  let a ← loop (fun (a : Arguments) => do
    if a.closed then return .none
    else if ← acceptSign ")" then return some { a with closed := true }
    else
      let a' ← r.argument a
      if ← clauseNext then
        match allowGenerator, a.positional, a.keywords, a'.positional with
        | true, [], [], [t] =>
          if isStarred t then failure
          let cs ← r.clauses
          expectSign ")"
          return some { a' with positional := [.node .generator line (t :: cs)], closed := true }
        | _, _, _, _ => failure
      else if ← acceptSign "," then return some a'
      else
        expectSign ")"
        return some { a' with closed := true }) ⟨[], [], false, false⟩
  return (a.positional.reverse, a.keywords.reverse)

def sliceBound : Reader (List Term) := do
  if ← expressionNext then return [← r.expression] else return []

def index : Reader Term := do
  let line ← here
  if ← acceptSign "*" then return .node .starred line [← r.expression]
  else if ← assignmentNext then r.namedExpression
  else
    let lower ← r.sliceBound
    if ← acceptSign ":" then
      let upper ← r.sliceBound
      let step ← if ← acceptSign ":" then r.sliceBound else pure []
      return .node (.slice (!lower.isEmpty) (!upper.isEmpty) (!step.isEmpty)) line
        (lower ++ upper ++ step)
    else match lower with
      | [t] => return t
      | _ => failure

def indexNext : Reader Bool := do
  return (← itemNext) || (← nextIsSign ":")

def indices : Reader Term := do
  let line ← here
  let first ← r.index
  let (ts, closed) ← commaTail indexNext r.index first
  expectSign "]"
  match ts, closed with
  | [t], false => if isStarred t then return .node .tuple line [t] else return t
  | ts, _ => return .node .tuple line ts

def primaryRule : Reader Term := do
  let line ← here
  loop (fun t => do
    let opening ← here
    if ← acceptSign "." then return some (.node (.attribute (← identifier)) line [t])
    else if ← acceptSign "(" then
      let (positional, named) ← r.arguments true opening
      return some (.node (.call positional.length) line (t :: positional ++ named))
    else if ← acceptSign "[" then return some (.node .subscript line [t, ← r.indices])
    else return .none) (← r.atom)

/-! ## Operators -/

def awaited : Reader Term := do
  let line ← here
  if ← acceptWord "await" then return .node .await line [← r.primaryRule] else r.primaryRule

def power : Reader Term := do
  let line ← here
  let base ← r.awaited
  if ← acceptSign "**" then return .node (.binary .pow) line [base, ← r.factor] else return base

def factorRule : Reader Term := do
  let line ← here
  if ← acceptSign "+" then return .node (.unary .uAdd) line [← r.factor]
  else if ← acceptSign "-" then return .node (.unary .uSub) line [← r.factor]
  else if ← acceptSign "~" then return .node (.unary .invert) line [← r.factor]
  else r.power

def binaryLevels : List (List (String × Operator)) :=
  [[("|", .bitOr)], [("^", .bitXor)], [("&", .bitAnd)], [("<<", .lShift), (">>", .rShift)],
    [("+", .add), ("-", .sub)],
    [("*", .mult), ("/", .div), ("//", .floorDiv), ("%", .mod), ("@", .matMult)]]

def acceptOperator (ops : List (String × Operator)) : Reader (Option Operator) := do
  match ← peek with
  | some (.sign s) =>
    match ops.lookup s with
    | some op =>
      skip
      return some op
    | Option.none => return .none
  | _ => return .none

def binaryFrom : List (List (String × Operator)) → Reader Term
  | [] => r.factorRule
  | ops :: levels => do
    let line ← here
    loop (fun t => do
      match ← acceptOperator ops with
      | some op => return some (.node (.binary op) line [t, ← binaryFrom levels])
      | Option.none => return .none) (← binaryFrom levels)

def unionRule : Reader Term :=
  r.binaryFrom binaryLevels

def comparisonSigns : List (String × Operator) :=
  [("==", .eq), ("!=", .notEq), ("<", .lt), ("<=", .ltE), (">", .gt), (">=", .gtE)]

def acceptComparison : Reader (Option Operator) := do
  match ← acceptOperator comparisonSigns with
  | some op => return some op
  | Option.none =>
    if ← acceptWord "in" then return some .isIn
    else if ← acceptWord "is" then
      if ← acceptWord "not" then return some .isNot else return some .is
    else if (← nextIsWord "not") && (← peekSecond) == some (.keyword "in") then
      skip
      skip
      return some .notIn
    else return .none

def comparisonRule : Reader Term := do
  let line ← here
  let first ← r.unionRule
  let (ops, operands) ← loop (fun (ops, operands) => do
    match ← acceptComparison with
    | some op => return some (op :: ops, (← r.unionRule) :: operands)
    | Option.none => return .none) ([], [])
  if ops.isEmpty then return first
  else return .node (.comparison ops.reverse) line (first :: operands.reverse)

def inversionRule : Reader Term := do
  let line ← here
  if ← acceptWord "not" then return .node (.unary .not) line [← r.inversion]
  else r.comparisonRule

def joinedBy (word : String) (op : Operator) (operand : Reader Term) : Reader Term := do
  let line ← here
  let first ← operand
  let rest ← many (acceptWord word) operand
  if rest.isEmpty then return first else return .node (.connective op) line (first :: rest)

def conjunction : Reader Term :=
  joinedBy "and" .and r.inversionRule

def disjunctionRule : Reader Term :=
  joinedBy "or" .or r.conjunction

/-! ## Parameters -/

structure Signature where
  positionalOnly : List Term
  positional : List Term
  defaults : List Term
  /-- Whether a star has been read. -/
  starred : Bool
  /-- Whether the star still needs a keyword-only parameter behind it. -/
  bare : Bool
  variadic : Option Term
  keywordOnly : List (Term × Option Term)
  keywordVariadic : Option Term
  done : Bool

def Signature.empty : Signature :=
  ⟨[], [], [], false, false, .none, [], .none, false⟩

def Signature.term (line : Nat) (s : Signature) : Term :=
  let kwonly := s.keywordOnly.reverse
  .node (.parameters {
      positionalOnly := s.positionalOnly.length
      positional := s.positional.length
      variadic := s.variadic.isSome
      keywordOnly := kwonly.map (·.2.isSome)
      keywordVariadic := s.keywordVariadic.isSome
      defaults := s.defaults.length }) line
    (s.positionalOnly.reverse ++ s.positional.reverse ++ s.variadic.toList ++
      kwonly.map (·.1) ++ kwonly.filterMap (·.2) ++ s.keywordVariadic.toList ++ s.defaults.reverse)

def parameter (annotated starHint : Bool) : Reader Term := do
  let line ← here
  let id ← identifier
  let colon ← if annotated then acceptSign ":" else pure false
  if colon then
    let hint ← if starHint then r.starExpression else r.expression
    return .node (.parameter id) line [hint]
  else return .node (.parameter id) line []

def default? : Reader (Option Term) := do
  if ← acceptSign "=" then return some (← r.expression) else return .none

def signatureItem (annotated : Bool) (s : Signature) : Reader Signature := do
  if s.keywordVariadic.isSome then failure
  else if ← acceptSign "/" then
    if s.starred || s.positional.isEmpty || !s.positionalOnly.isEmpty then failure
    return { s with positionalOnly := s.positional, positional := [] }
  else if ← acceptSign "**" then
    if s.bare then failure
    return { s with keywordVariadic := some (← r.parameter annotated false) }
  else if ← acceptSign "*" then
    if s.starred then failure
    if ← nextIsSign "," then return { s with starred := true, bare := true }
    else return { s with starred := true, variadic := some (← r.parameter annotated true) }
  else
    let p ← r.parameter annotated false
    let d ← r.default?
    if s.starred then return { s with bare := false, keywordOnly := (p, d) :: s.keywordOnly }
    else if d.isNone && !s.defaults.isEmpty then failure
    else return { s with positional := p :: s.positional, defaults := d.toList ++ s.defaults }

def signature (annotated : Bool) (closing : String) : Reader Term := do
  let line ← here
  let s ← loop (fun (s : Signature) => do
    if s.done then return .none
    else if ← acceptSign closing then
      if s.bare then failure
      return some { s with done := true }
    else
      let s ← r.signatureItem annotated s
      if ← acceptSign "," then return some s
      else
        expectSign closing
        if s.bare then failure
        return some { s with done := true }) Signature.empty
  return s.term line

/-! ## Expressions -/

def expressionRule : Reader Term := do
  let line ← here
  if ← acceptWord "lambda" then
    let parameters ← r.signature false ":"
    return .node .lambda line [parameters, ← r.expression]
  else
    let value ← r.disjunctionRule
    if ← acceptWord "if" then
      let condition ← r.disjunctionRule
      expectWord "else"
      return .node .conditional line [condition, value, ← r.expression]
    else return value

end Rules

end GeneticRepair.Code
