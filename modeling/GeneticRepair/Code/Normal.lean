import GeneticRepair.Code.NodeReader
import GeneticRepair.Text.Lines
/-!
# Normal form of modules

A block may not be empty, and a block that holds other statements has no need for a placeholder. An
edit may break either rule; `tidy` restores both, node by node. A docstring does not count as a
statement, so that a function that holds nothing else gets a placeholder behind it.
-/

namespace GeneticRepair.Code

open GeneticRepair.Text

namespace Node

def isText : Node → Bool
  | mk .expression _ [.node (.constant (.text _ _)) _ _] .. => true
  | _ => false

/-- Whether a statement does nothing: a `pass`, or `...` that stands alone. -/
def isEmpty : Node → Bool
  | mk .pass .. => true
  | mk .expression _ [.node (.constant .ellipsis) _ _] .. => true
  | _ => false

def placeholder (span : Span) : Node :=
  simple .pass span []

@[simp] theorem isEmpty_placeholder (span : Span) : (placeholder span).isEmpty = true := rfl

end Node

/-- The number of statements at the front of a block that are no code: one if the block is the body
of a module, a class or a function and begins with a docstring. -/
def docstrings (l : Label) (field : Field) (block : List Node) : Nat :=
  match block with
  | n :: _ => if field = .body ∧ l.isDocumentable ∧ n.isText then 1 else 0
  | [] => 0

/-- The code without its empty statements; of empty code the first statement is kept. -/
def dropEmpty (code : List Node) : List Node :=
  match code.filter (!·.isEmpty) with
  | [] => code.take 1
  | kept => kept

/-- The block without the placeholders that it does not need. -/
def tidyBlock (l : Label) (field : Field) (block : List Node) : List Node :=
  let start := docstrings l field block
  block.take start ++ dropEmpty (block.drop start)

/-- A placeholder for a body without code. Modules may be empty, and so may the bodies of classes
that have a docstring. -/
def fillBody (l : Label) (span : Span) (body : List Node) : List Node :=
  if l = .module ∨ .body ∉ l.fields then body
  else match body.getLast? with
    | none => [.placeholder span]
    | some last =>
      if l.isFunction ∧ docstrings l .body body = body.length then
        body ++ [.placeholder last.span]
      else body

def fillFinal (l : Label) (span : Span) (handlers finalbody : List Node) : List Node :=
  if l.isTry ∧ handlers = [] ∧ finalbody = [] then [.placeholder span] else finalbody

namespace Node

def fill (span : Span) : Node → Node
  | mk l s ts b o h f c => mk l s ts (fillBody l span b) o h (fillFinal l span h f) c

def tidyBlocks (span : Span) : Node → Node
  | mk l s ts b o h f c =>
    fill span (mk l s ts (tidyBlock l .body b) (tidyBlock l .orelse o) h
      (tidyBlock l .finalbody f) c)

def spanWithin (outer : Span) (l : Label) (own : Span) : Span :=
  if l.hasSpan then own else outer

mutual

/-- Applies a function to each node, those inside first. The function is told the lines that the
node stands on. -/
def everywhere (f : Span → Node → Node) (outer : Span) : Node → Node
  | mk l s ts b o h fb c =>
    let span := spanWithin outer l s
    f span (mk l s ts (everywhereIn f span b) (everywhereIn f span o) (everywhereIn f span h)
      (everywhereIn f span fb) (everywhereIn f span c))

def everywhereIn (f : Span → Node → Node) (outer : Span) : List Node → List Node
  | [] => []
  | n :: ns => everywhere f outer n :: everywhereIn f outer ns

end

/-- The first line of a module, on which whatever has no lines of its own is placed. -/
def outermost : Span := ⟨1, 1⟩

def filled (module : Node) : Node :=
  everywhere fill outermost module

/-- The module in normal form. -/
def tidy (module : Node) : Node :=
  everywhere tidyBlocks outermost module

theorem everywhereIn_eq_map (f : Span → Node → Node) (outer : Span) (ns : List Node) :
    everywhereIn f outer ns = ns.map (everywhere f outer) := by
  induction ns with
  | nil => rfl
  | cons n ns ih => simp [everywhereIn, ih]

end Node

def parseLines (lines : List String) : Except SyntaxFlaw Node :=
  return (← readModule (joinLines lines)).filled

end GeneticRepair.Code
