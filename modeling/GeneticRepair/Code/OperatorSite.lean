import GeneticRepair.Code.Normal
/-!
# Operators within a module

The expressions that join operands by operators are listed breadth first, level by level. Each is
found again by its address, so replacing an operator follows the address and leaves all else as it
is.
-/

namespace GeneticRepair.Code

inductive TreeStep where
  | term (index : Nat)
  | block (field : Field) (index : Nat)
  deriving DecidableEq

abbrev Address := List TreeStep

/-- An expression that joins its operands by operators. -/
structure Operation where
  address : Address
  line : Nat
  operators : List Operator
  deriving DecidableEq

def Head.operators? : Head → Option (List Operator)
  | .binary op | .connective op => some [op]
  | .comparison ops => some ops
  | _ => none

def Head.setOperator (position : Nat) (op : Operator) : Head → Head
  | .binary _ => .binary op
  | .connective _ => .connective op
  | .comparison ops => .comparison (ops.set position op)
  | h => h

def mergeLevels {α : Type} : List (List α) → List (List α) → List (List α)
  | [], ys => ys
  | xs, [] => xs
  | x :: xs, y :: ys => (x ++ y) :: mergeLevels xs ys

def Operation.under (step : TreeStep) (x : Operation) : Operation :=
  { x with address := step :: x.address }

def levelsUnder (step : TreeStep) (levels : List (List Operation)) : List (List Operation) :=
  levels.map (·.map (Operation.under step))

mutual

def Term.levels : Term → List (List Operation)
  | .node head line children =>
    (match head.operators? with
      | some ops => [⟨[], line, ops⟩]
      | none => []) :: termLevels 0 children

def termLevels (index : Nat) : List Term → List (List Operation)
  | [] => []
  | t :: ts => mergeLevels (levelsUnder (.term index) t.levels) (termLevels (index + 1) ts)

end

mutual

/-- The operations of a node, level by level. Some terms come before the blocks of the node, and the
others behind them. A loose term is on the level of its node. -/
def Node.levels : Node → List (List Operation)
  | .mk l _ ts b o h f c =>
    let leading := l.leadingTerms ts
    if l == .loose then termLevels 0 ts
    else [] :: mergeLevels (termLevels 0 (ts.take leading))
      (mergeLevels (nodeLevels .body 0 b)
      (mergeLevels (nodeLevels .handlers 0 h)
      (mergeLevels (nodeLevels .orelse 0 o)
      (mergeLevels (nodeLevels .finalbody 0 f)
      (mergeLevels (nodeLevels .cases 0 c)
        (termLevels (min leading ts.length) (ts.drop leading)))))))

def nodeLevels (field : Field) (index : Nat) : List Node → List (List Operation)
  | [] => []
  | n :: ns =>
    mergeLevels (levelsUnder (.block field index) n.levels) (nodeLevels field (index + 1) ns)

end

/-- The place of an operator: the number of its expression among all operations, and its position
there. -/
structure OperatorSite where
  index : Nat
  position : Nat
  line : Nat
  operator : Operator
  deriving DecidableEq

def OperatorSite.alternatives (site : OperatorSite) : List Operator :=
  site.operator.alternatives

/-- The sites of an operation at the operators that belong to a family. -/
def Operation.sites (index : Nat) (x : Operation) : List OperatorSite :=
  (x.operators.zipIdx.filter (·.1.inFamily)).map fun (op, position) =>
    ⟨index, position, x.line, op⟩

def Term.setOperator (position : Nat) (op : Operator) : Address → Term → Term
  | [], .node head line children => .node (head.setOperator position op) line children
  | .term i :: address, .node head line children =>
    .node head line (children.modify i (Term.setOperator position op address))
  | .block .. :: _, t => t

namespace Node

def operations (module : Node) : List Operation :=
  module.levels.flatten

/-- Every operator that belongs to a family. -/
def operatorSites (module : Node) : List OperatorSite :=
  module.operations.zipIdx.flatMap fun (x, index) => x.sites index

def setOperator (position : Nat) (op : Operator) : Address → Node → Node
  | .term i :: address, .mk l s ts b o h f c =>
    .mk l s (ts.modify i (Term.setOperator position op address)) b o h f c
  | .block field i :: address, n =>
    n.setBlock field ((n.rawBlock field).modify i (setOperator position op address))
  | [], n => n

def withOperator (module : Node) (site : OperatorSite) (op : Operator) : Node :=
  match module.operations[site.index]? with
  | some x => (module.setOperator site.position op x.address).tidy
  | none => module.tidy

end Node

end GeneticRepair.Code
