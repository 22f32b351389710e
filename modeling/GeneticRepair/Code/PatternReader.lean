import GeneticRepair.Code.TermReader
/-!
# Reading patterns

The patterns of match cases, and the readers of all terms for a given depth of nesting.
-/

namespace GeneticRepair.Code

open Reader

namespace Rules

variable (r : Rules)

def isImaginary : Constant → Bool
  | .imaginary _ => true
  | _ => false

def numberToken : Reader Constant := do
  match ← peek with
  | some (.number c) =>
    skip
    return c
  | _ => failure

/-- A number with an optional minus sign, or the sum or difference of a real and an imaginary
one. -/
def numericPattern : Reader Term := do
  let line ← here
  let negative ← acceptSign "-"
  let first ← here
  let c ← numberToken
  let constant := Term.node (.constant c) first []
  let left := if negative then Term.node (.unary .uSub) line [constant] else constant
  let join (op : Operator) : Reader Term := do
    let second ← here
    let d ← numberToken
    if isImaginary c || !isImaginary d then failure
    return .node (.binary op) line [left, .node (.constant d) second []]
  if ← acceptSign "+" then join .add
  else if ← acceptSign "-" then join .sub
  else return left

/-- What a pattern may compare with by equality without naming it: numbers and texts. -/
def literalValue? : Reader (Option Term) := do
  match ← peek with
  | some (.number _) | some (.sign "-") => return some (← numericPattern)
  | some (.literal ..) => return some (← r.strings)
  | _ => return .none

def constant? : Reader (Option Constant) := do
  match ← peek with
  | some (.keyword w) =>
    match constantWord? w with
    | some c =>
      skip
      return some c
    | Option.none => return .none
  | _ => return .none

def dottedTerm : Reader Term := do
  let line ← here
  let id ← identifier
  loop (fun t => do
    if ← acceptSign "." then return some (.node (.attribute (← identifier)) line [t])
    else return .none) (.node (.name id) line [])

def captureNext : Reader Bool := do
  match ← peekSecond with
  | some (.sign s) => return s != "." && s != "(" && s != "="
  | _ => return true

def captured : Reader String := do
  unless ← captureNext do failure
  let id ← identifier
  if id == "_" then failure else return id

def starPattern : Reader Term := do
  let line ← here
  expectSign "*"
  if (← peek) == some (.name "_") then
    skip
    return .node (.starPattern .none) line []
  else return .node (.starPattern (some (← captured))) line []

def maybeStarPattern : Reader Term := do
  if ← nextIsSign "*" then starPattern else r.pattern

def isStarPattern (t : Term) : Bool :=
  match t.head with
  | .starPattern _ => true
  | _ => false

def startsPattern : Lexeme → Bool
  | .name _ | .number _ | .literal .. => true
  | .keyword w => (constantWord? w).isSome
  | .sign s => ["(", "[", "\x7b", "-", "*"].contains s
  | _ => false

def patternNext : Reader Bool :=
  return ((← peek).map startsPattern).getD false

def patternsUntil (closing : String) : Reader (List Term × Bool) := do
  let first ← r.maybeStarPattern
  let found ← commaTail patternNext r.maybeStarPattern first
  expectSign closing
  return found

def mappingKey : Reader Term := do
  let line ← here
  match ← r.literalValue? with
  | some t => return t
  | Option.none =>
    match ← constant? with
    | some c => return .node (.constant c) line []
    | Option.none =>
      let t ← dottedTerm
      match t.head with
      | .attribute _ => return t
      | _ => failure

structure MappingItems where
  keys : List Term
  patterns : List Term
  rest : Option String
  closed : Bool

def mappingItem (m : MappingItems) : Reader MappingItems := do
  if m.rest.isSome then failure
  else if ← acceptSign "**" then return { m with rest := some (← captured) }
  else
    let key ← r.mappingKey
    expectSign ":"
    return { m with keys := key :: m.keys, patterns := (← r.pattern) :: m.patterns }

def mappingPattern (line : Nat) : Reader Term := do
  let m ← loop (fun (m : MappingItems) => do
    if m.closed then return .none
    else if ← acceptSign "\x7d" then return some { m with closed := true }
    else
      let m ← r.mappingItem m
      if ← acceptSign "," then return some m
      else
        expectSign "\x7d"
        return some { m with closed := true }) ⟨[], [], .none, false⟩
  return .node (.mappingPattern m.rest) line (m.keys.reverse ++ m.patterns.reverse)

structure ClassItems where
  positional : List Term
  attributes : List (String × Term)
  closed : Bool

def classItem (c : ClassItems) : Reader ClassItems := do
  if ← keywordNext then
    let id ← identifier
    skip
    return { c with attributes := (id, ← r.pattern) :: c.attributes }
  else
    unless c.attributes.isEmpty do failure
    return { c with positional := (← r.pattern) :: c.positional }

def classPattern (line : Nat) (cls : Term) : Reader Term := do
  let c ← loop (fun (c : ClassItems) => do
    if c.closed then return .none
    else if ← acceptSign ")" then return some { c with closed := true }
    else
      let c ← r.classItem c
      if ← acceptSign "," then return some c
      else
        expectSign ")"
        return some { c with closed := true }) ⟨[], [], false⟩
  let attributes := c.attributes.reverse
  return .node (.classPattern (attributes.map (·.1))) line
    (cls :: c.positional.reverse ++ attributes.map (·.2))

def namedPattern (line : Nat) : Reader Term := do
  if (← peek) == some (.name "_") then
    skip
    return .node (.bindingPattern .none) line []
  else
    let t ← dottedTerm
    if ← acceptSign "(" then r.classPattern line t
    else if ← nextIsSign "=" then failure
    else match t.head with
      | .name id => return .node (.bindingPattern (some id)) line []
      | _ => return .node .valuePattern line [t]

def closedPattern : Reader Term := do
  let line ← here
  match ← r.literalValue? with
  | some t => return .node .valuePattern line [t]
  | Option.none =>
    match ← constant? with
    | some c => return .node (.singletonPattern c) line []
    | Option.none =>
      if ← acceptSign "(" then
        if ← acceptSign ")" then return .node .sequencePattern line []
        else match ← r.patternsUntil ")" with
          | ([t], false) => if isStarPattern t then failure else return t
          | (ts, _) => return .node .sequencePattern line ts
      else if ← acceptSign "[" then
        if ← acceptSign "]" then return .node .sequencePattern line []
        else return .node .sequencePattern line (← r.patternsUntil "]").1
      else if ← acceptSign "\x7b" then r.mappingPattern line
      else r.namedPattern line

def patternRule : Reader Term := do
  let line ← here
  let first ← r.closedPattern
  let rest ← many (acceptSign "|") r.closedPattern
  let t := if rest.isEmpty then first else Term.node .orPattern line (first :: rest)
  if ← acceptWord "as" then return .node (.bindingPattern (some (← captured))) line [t]
  else return t

def casePattern : Reader Term := do
  let line ← here
  let first ← r.maybeStarPattern
  match ← commaTail patternNext r.maybeStarPattern first with
  | ([t], false) => if isStarPattern t then failure else return t
  | (ts, _) => return .node .sequencePattern line ts

def upTo : Nat → Rules
  | 0 => none
  | n + 1 => {
      expression := fun c => (upTo n).expressionRule c
      disjunction := fun c => (upTo n).disjunctionRule c
      inversion := fun c => (upTo n).inversionRule c
      union := fun c => (upTo n).unionRule c
      factor := fun c => (upTo n).factorRule c
      primary := fun c => (upTo n).primaryRule c
      pattern := fun c => (upTo n).patternRule c }

end Rules

end GeneticRepair.Code
