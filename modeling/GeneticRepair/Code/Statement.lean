import GeneticRepair.Code.Normal
/-!
# Statements of a module

Every statement of a module is addressed by its path: the steps, each a block and a position in it,
that lead to it from the module. The index lists all statements with what a mutation has to know of
them: each before those it holds, block by block.

Paths can lead further than to statements, through everything that nodes and terms are made of.
-/

namespace GeneticRepair.Code

/-- A position in a list. A negative index counts from the end. -/
inductive Position where
  | index (i : Int)
  /-- A value that is no position at all. -/
  | improper
  deriving Repr, DecidableEq

def Position.toInt : Position → Int
  | .index i => i
  | .improper => 0

abbrev Step := Field × Position

abbrev Path := List Step

structure Statement where
  path : Path
  span : Span
  kind : String
  /-- The kind of the node that holds the statement. -/
  parent : String
  /-- The qualified name of the innermost class around the statement. -/
  scope : Option String
  /-- Whether the statement holds statements of its own. -/
  compound : Bool
  docstring : Bool
  /-- Whether it is the sole, empty statement of a function. -/
  placeholder : Bool
  empty : Bool
  deriving DecidableEq

namespace Statement

def ofPath (path : Path) : Statement :=
  ⟨path, ⟨0, 0⟩, "", "", none, false, false, false, false⟩

def definition (s : Statement) : Bool :=
  Label.definitionKinds.contains s.kind

/-- Whether the statement may be the target of a mutation. -/
def mutatable (s : Statement) : Bool :=
  !s.compound && !s.docstring

def donatable (s : Statement) : Bool :=
  s.mutatable && !s.empty

/-- Whether a structural crossover may exchange the statement. -/
def exchangeable (s : Statement) : Bool :=
  !s.definition && !s.docstring

def properties (s : Statement) : List String :=
  ([("compound", s.compound), ("definition", s.definition), ("docstring", s.docstring),
    ("donatable", s.donatable), ("empty", s.empty), ("mutatable", s.mutatable),
    ("placeholder", s.placeholder)].filter (·.2)).map (·.1)

end Statement

def scopeWithin (scope : Option String) : Label → Option String
  | .classDef name .. => some (match scope with
    | some outer => outer ++ "." ++ name
    | none => name)
  | _ => scope

structure BlockSite where
  parent : Label
  field : Field
  path : Path
  scope : Option String
  /-- How many statements at its front are docstrings. -/
  docstrings : Nat
  size : Nat

namespace BlockSite

def step (site : BlockSite) (index : Nat) : Path :=
  site.path ++ [(site.field, .index index)]

def entry (site : BlockSite) (index : Nat) (n : Node) : Statement where
  path := site.step index
  span := n.span
  kind := n.label.kind
  parent := site.parent.kind
  scope := site.scope
  compound := n.label.fields != []
  docstring := site.docstrings == 1 && index == 0
  placeholder := site.parent.isFunction && site.field == .body &&
    site.size == site.docstrings + 1 && index == site.docstrings && n.isEmpty
  empty := n.isEmpty

end BlockSite

mutual

def statementsIn (path : Path) (scope : Option String) : Node → List Statement
  | .mk l _ _ b o h f c =>
    statementsFrom ⟨l, .body, path, scope, docstrings l .body b, b.length⟩ 0 b ++
      statementsFrom ⟨l, .orelse, path, scope, 0, o.length⟩ 0 o ++
      statementsFrom ⟨l, .handlers, path, scope, 0, h.length⟩ 0 h ++
      statementsFrom ⟨l, .finalbody, path, scope, 0, f.length⟩ 0 f ++
      statementsFrom ⟨l, .cases, path, scope, 0, c.length⟩ 0 c

def statementsFrom (site : BlockSite) (index : Nat) : List Node → List Statement
  | [] => []
  | n :: ns =>
    (if n.label.isStatement then [site.entry index n] else []) ++
      statementsIn (site.step index) (scopeWithin site.scope n.label) n ++
      statementsFrom site (index + 1) ns

end

namespace Node

def statements (module : Node) : List Statement :=
  statementsIn [] none module

/-- The statements that may be inserted before, or swapped with, a target: those of its class, or
those of the whole module. -/
def donors (module : Node) (crossScope : Bool) (target : Statement) : List Statement :=
  module.statements.filter fun s =>
    s.donatable && s.path != target.path && (crossScope || s.scope == target.scope)

end Node

/-- The first of the statements that begin on each line, in order of appearance. -/
def firstOnLine : List Statement → List (Nat × Statement)
  | [] => []
  | s :: ss => (s.span.line, s) :: (firstOnLine ss).filter (·.1 != s.span.line)

def Node.mutatableLines (module : Node) : List (Nat × Statement) :=
  firstOnLine (module.statements.filter Statement.mutatable)

end GeneticRepair.Code
