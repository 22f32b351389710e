import GeneticRepair.Code.Label
import GeneticRepair.Text.Quoted
/-!
# Terms

The syntax below statements: expressions, parameters, keyword arguments, comprehension clauses,
context managers, imported names and patterns. A term is a head, which holds all that is not itself
a term, with the children that the head asks for, in source order of their fields. Each head's
comment gives the layout of its children.
-/

namespace GeneticRepair.Code

open GeneticRepair.Text

inductive Constant where
  | none
  | bool (b : Bool)
  | ellipsis
  | int (n : Nat)
  | float (x : Float)
  | imaginary (x : Float)
  /-- A text, and whether its literal is marked by a `u`. -/
  | text (cs : List CodePoint) (marked : Bool)
  | bytes (bs : List UInt8)
  deriving DecidableEq

/-- How the parameters of a function are grouped. Defaults of positional parameters belong to the
last of them. -/
structure Parameters where
  positionalOnly : Nat
  positional : Nat
  variadic : Bool
  /-- For each keyword-only parameter, whether it has a default. -/
  keywordOnly : List Bool
  keywordVariadic : Bool
  defaults : Nat
  deriving Repr, DecidableEq

inductive Head where
  /-- No children. -/
  | name (id : String)
  /-- No children. -/
  | constant (c : Constant)
  /-- A formatted text: constants and interpolations. -/
  | joined
  /-- An interpolated value, followed by its format if it has one. -/
  | interpolation (conversion : Option Char)
  /-- The elements. -/
  | tuple
  /-- The elements. -/
  | list
  /-- The elements. -/
  | set
  /-- The keys, then the values. Each flag tells whether an entry has a key. -/
  | dict (keyed : List Bool)
  /-- The element, then the clauses. -/
  | listComp
  /-- The element, then the clauses. -/
  | setComp
  /-- The element, then the clauses. -/
  | generator
  /-- The key, the value, then the clauses. -/
  | dictComp
  /-- The target, the iterable, then the conditions. -/
  | clause (isAsync : Bool)
  /-- Two or more operands. -/
  | connective (op : Operator)
  /-- The left and the right operand. -/
  | binary (op : Operator)
  /-- The operand. -/
  | unary (op : UnaryOperator)
  /-- One operand more than there are operators. -/
  | comparison (ops : List Operator)
  /-- The condition, the value if it holds, and the value if not. -/
  | conditional
  /-- The target and the value. -/
  | assigned
  /-- The awaited value. -/
  | await
  /-- The yielded value, if any. -/
  | yield
  /-- The iterable. -/
  | yieldFrom
  /-- The function, the positional arguments, then the keyword arguments. -/
  | call (positional : Nat)
  /-- The value of a keyword argument, or of unpacked ones if there is no name. -/
  | keyword (name : Option String)
  /-- The object. -/
  | attribute (name : String)
  /-- The object and the index. -/
  | subscript
  /-- The unpacked iterable. -/
  | starred
  /-- The bounds and the step that are present. -/
  | slice (lower upper step : Bool)
  /-- The parameters and the body. -/
  | lambda
  /-- The positional-only, the positional, the variadic and the keyword-only parameters, the
  defaults of the latter, the variadic keyword parameter, then the positional defaults. -/
  | parameters (shape : Parameters)
  /-- The annotation, if any. -/
  | parameter (name : String)
  /-- The context manager, then the target if any. -/
  | managed
  /-- The value matched. -/
  | valuePattern
  /-- No children. -/
  | singletonPattern (c : Constant)
  /-- The patterns of the elements. -/
  | sequencePattern
  /-- The keys, then as many patterns. -/
  | mappingPattern (rest : Option String)
  /-- The class, the positional patterns, then one pattern for each named attribute. -/
  | classPattern (attributes : List String)
  /-- No children. -/
  | starPattern (name : Option String)
  /-- The pattern that is bound, if any. -/
  | bindingPattern (name : Option String)
  /-- The alternatives. -/
  | orPattern
  /-- An imported module or name, and the name that it is bound to. No children. -/
  | imported (name : String) (asName : Option String)
  /-- An operator that stands alone. No children. -/
  | operator (op : Operator)
  /-- A statement without blocks that stands among terms, and its last line. Its terms. -/
  | statement (label : Label) (endLine : Nat)
  deriving DecidableEq

inductive Term where
  | node (head : Head) (line : Nat) (children : List Term)

namespace Term

def head : Term → Head
  | node h _ _ => h

def line : Term → Nat
  | node _ l _ => l

def children : Term → List Term
  | node _ _ ts => ts

@[simp] theorem head_node (h : Head) (l : Nat) (ts : List Term) : (node h l ts).head = h := rfl

@[simp] theorem line_node (h : Head) (l : Nat) (ts : List Term) : (node h l ts).line = l := rfl

@[simp] theorem children_node (h : Head) (l : Nat) (ts : List Term) :
    (node h l ts).children = ts := rfl

instance : Inhabited Term :=
  ⟨node (.constant .none) 0 []⟩

end Term

end GeneticRepair.Code
