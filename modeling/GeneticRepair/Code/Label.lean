/-!
# Labels

What the nodes of a module are: the module itself, the statements, the handlers of exceptions and
the cases of a match. A label holds everything about a node but its terms and its blocks, and says
what the terms are, in order.
-/

namespace GeneticRepair.Code

/-! ## Operators

The operators of expressions. The arithmetic, relational and logical families are the operators
that may stand in for one another; the others belong to no family.
-/

inductive Operator where
  | add | sub | mult | div | floorDiv | mod
  | matMult | pow | lShift | rShift | bitOr | bitXor | bitAnd
  | lt | ltE | gt | gtE | eq | notEq
  | is | isNot | isIn | notIn
  | and | or
  deriving Repr, DecidableEq

inductive UnaryOperator where
  | invert | not | uAdd | uSub
  deriving Repr, DecidableEq

namespace Operator

def arithmetic : List Operator := [add, sub, mult, div, floorDiv, mod]

def relational : List Operator := [lt, ltE, gt, gtE, eq, notEq]

def logical : List Operator := [and, or]

def families : List (List Operator) := [arithmetic, relational, logical]

def inFamily (op : Operator) : Bool :=
  families.any (·.contains op)

def alternatives (op : Operator) : List Operator :=
  ((families.find? (·.contains op)).getD []).filter (· != op)

def name : Operator → String
  | add => "Add" | sub => "Sub" | mult => "Mult" | div => "Div" | floorDiv => "FloorDiv"
  | mod => "Mod" | matMult => "MatMult" | pow => "Pow" | lShift => "LShift" | rShift => "RShift"
  | bitOr => "BitOr" | bitXor => "BitXor" | bitAnd => "BitAnd"
  | lt => "Lt" | ltE => "LtE" | gt => "Gt" | gtE => "GtE" | eq => "Eq" | notEq => "NotEq"
  | is => "Is" | isNot => "IsNot" | isIn => "In" | notIn => "NotIn"
  | and => "And" | or => "Or"

def ofName? (s : String) : Option Operator :=
  families.flatten.find? (·.name == s)

def binarySign? : Operator → Option String
  | add => "+" | sub => "-" | mult => "*" | matMult => "@" | div => "/" | mod => "%"
  | lShift => "<<" | rShift => ">>" | bitOr => "|" | bitXor => "^" | bitAnd => "&"
  | floorDiv => "//" | pow => "**"
  | _ => none

def comparisonSign? : Operator → Option String
  | eq => "==" | notEq => "!=" | lt => "<" | ltE => "<=" | gt => ">" | gtE => ">="
  | is => "is" | isNot => "is not" | isIn => "in" | notIn => "not in"
  | _ => none

def connectiveSign? : Operator → Option String
  | and => "and" | or => "or"
  | _ => none

theorem not_mem_alternatives (op : Operator) : op ∉ op.alternatives := by
  simp [alternatives]

theorem inFamily_of_mem_alternatives {op other : Operator} (h : op ∈ other.alternatives) :
    op.inFamily = true := by
  have hfamily := (List.mem_filter.mp h).1
  cases hfind : families.find? (·.contains other) with
  | none =>
    rw [hfind] at hfamily
    cases hfamily
  | some family =>
    rw [hfind] at hfamily
    exact List.any_eq_true.mpr ⟨family, List.mem_of_find?_eq_some hfind,
      List.contains_iff_mem.mpr hfamily⟩

theorem alternatives_ne_nil {op : Operator} (h : op.inFamily = true) : op.alternatives ≠ [] := by
  cases op <;> revert h <;> decide

end Operator

/-! ## Fields and labels -/

/-- The names of what a node or a term is made of. Only the blocks of nodes have the first five
names; what is no name at all leads nowhere. -/
inductive Field where
  | body | orelse | handlers | finalbody | cases
  | other (name : String)
  | nameless
  deriving Repr, DecidableEq

namespace Field

def name : Field → String
  | body => "body"
  | orelse => "orelse"
  | handlers => "handlers"
  | finalbody => "finalbody"
  | cases => "cases"
  | other s => s
  | nameless => ""

def ofName : String → Field
  | "body" => body
  | "orelse" => orelse
  | "handlers" => handlers
  | "finalbody" => finalbody
  | "cases" => cases
  | s => other s

end Field

/-- What a node is. The counts tell which of its terms play which part. -/
inductive Label where
  | module
  /-- The parameters, the decorators, then the result annotation if there is one. -/
  | function (name : String) (isAsync : Bool) (decorators : Nat)
  /-- The bases, the keywords, then the decorators. -/
  | classDef (name : String) (bases keywords : Nat)
  /-- The returned value, if any. -/
  | returning
  /-- The targets. -/
  | delete
  /-- The targets, then the value. -/
  | assign
  /-- The target and the value. -/
  | augmented (op : Operator)
  /-- The target, the annotation, then the value if any. A simple target is a bare name. -/
  | annotated (simple : Bool)
  /-- The target and the iterable. -/
  | forLoop (isAsync : Bool)
  /-- The condition. -/
  | whileLoop
  /-- The condition. -/
  | conditional
  /-- The managed contexts. -/
  | withBlock (isAsync : Bool)
  /-- The subject. -/
  | matching
  /-- The exception, then its cause. -/
  | raise
  /-- No terms. -/
  | tryBlock (star : Bool)
  /-- The condition, then the message if any. -/
  | assertion
  /-- The imported modules. -/
  | importing
  /-- The imported names. -/
  | importFrom (source : String) (level : Nat)
  | global (names : List String)
  | nonlocal (names : List String)
  /-- The expression. -/
  | expression
  | pass
  | breakLoop
  | continueLoop
  /-- The exception type, if any. -/
  | handler (name : Option String)
  /-- The pattern, then the guard if any. -/
  | matchCase
  /-- A term that stands in a block without being part of a statement. -/
  | loose
  deriving DecidableEq

namespace Label

/-- The blocks of a node, in the order in which they are visited. -/
def fields : Label → List Field
  | module | function .. | classDef .. | withBlock _ | handler _ | matchCase => [.body]
  | forLoop _ | whileLoop | conditional => [.body, .orelse]
  | tryBlock _ => [.body, .orelse, .handlers, .finalbody]
  | matching => [.cases]
  | _ => []

def isFunction : Label → Bool
  | function .. => true
  | _ => false

def isTry : Label → Bool
  | tryBlock _ => true
  | _ => false

/-- Modules, classes and functions may begin with a docstring. -/
def isDocumentable : Label → Bool
  | module | function .. | classDef .. => true
  | _ => false

/-- Handlers and cases hold statements but are none. -/
def isStatement : Label → Bool
  | module | handler _ | matchCase | loose => false
  | _ => true

/-- A case and the module have no lines of their own. -/
def hasSpan : Label → Bool
  | module | matchCase => false
  | _ => true

def kind : Label → String
  | module => "Module"
  | function _ false _ => "FunctionDef"
  | function _ true _ => "AsyncFunctionDef"
  | classDef .. => "ClassDef"
  | returning => "Return"
  | delete => "Delete"
  | assign => "Assign"
  | augmented _ => "AugAssign"
  | annotated _ => "AnnAssign"
  | forLoop false => "For"
  | forLoop true => "AsyncFor"
  | whileLoop => "While"
  | conditional => "If"
  | withBlock false => "With"
  | withBlock true => "AsyncWith"
  | matching => "Match"
  | raise => "Raise"
  | tryBlock false => "Try"
  | tryBlock true => "TryStar"
  | assertion => "Assert"
  | importing => "Import"
  | importFrom .. => "ImportFrom"
  | global _ => "Global"
  | nonlocal _ => "Nonlocal"
  | expression => "Expr"
  | pass => "Pass"
  | breakLoop => "Break"
  | continueLoop => "Continue"
  | handler _ => "ExceptHandler"
  | matchCase => "match_case"
  | loose => ""

def definitionKinds : List String := ["FunctionDef", "AsyncFunctionDef", "ClassDef"]

end Label


end GeneticRepair.Code
