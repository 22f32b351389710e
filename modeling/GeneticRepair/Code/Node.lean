import GeneticRepair.Code.Term
/-!
# Modules as trees

A module, a statement, an exception handler and a match case are all nodes: a label says what the
node is, the terms are the expressions in its header, and the blocks hold the nodes below it. A
block that the label does not have is empty and is never looked at.

Modules may be nested to any depth. The limit that an interpreter sets to its own recursion is left
aside here, and in all that reads, copies, edits or prints a module.
-/

namespace GeneticRepair.Code

/-- The one-based lines on which a node begins and ends. -/
structure Span where
  line : Nat
  endLine : Nat
  deriving Repr, DecidableEq, Inhabited

def Label.leadingTerms : Label → List Term → Nat
  | .function .., _ => 1
  | .classDef _ bases keywords, _ => bases + keywords
  | _, terms => terms.length

inductive Node where
  | mk (label : Label) (span : Span) (terms : List Term)
      (body orelse handlers finalbody cases : List Node)

namespace Node

def label : Node → Label
  | mk l .. => l

def span : Node → Span
  | mk _ s .. => s

def terms : Node → List Term
  | mk _ _ ts .. => ts

def simple (label : Label) (span : Span) (terms : List Term) : Node :=
  mk label span terms [] [] [] [] []

instance : Inhabited Node :=
  ⟨simple .pass default []⟩

/-- The block under a name, whether the label has it or not. -/
def rawBlock : Node → Field → List Node
  | mk _ _ _ body .., .body => body
  | mk _ _ _ _ orelse .., .orelse => orelse
  | mk _ _ _ _ _ handlers .., .handlers => handlers
  | mk _ _ _ _ _ _ finalbody _, .finalbody => finalbody
  | mk _ _ _ _ _ _ _ cases, .cases => cases
  | _, .other _ | _, .nameless => []

def setBlock : Node → Field → List Node → Node
  | mk l s ts _ o h f c, .body, ns => mk l s ts ns o h f c
  | mk l s ts b _ h f c, .orelse, ns => mk l s ts b ns h f c
  | mk l s ts b o _ f c, .handlers, ns => mk l s ts b o ns f c
  | mk l s ts b o h _ c, .finalbody, ns => mk l s ts b o h ns c
  | mk l s ts b o h f _, .cases, ns => mk l s ts b o h f ns
  | n, .other _, _ | n, .nameless, _ => n

def hasBlock (n : Node) (field : Field) : Bool :=
  n.label.fields.contains field

def block? (n : Node) (field : Field) : Option (List Node) :=
  if n.hasBlock field then some (n.rawBlock field) else none

@[simp] theorem label_mk (l : Label) (s : Span) (ts : List Term) (b o h f c : List Node) :
    (mk l s ts b o h f c).label = l := rfl

@[simp] theorem span_mk (l : Label) (s : Span) (ts : List Term) (b o h f c : List Node) :
    (mk l s ts b o h f c).span = s := rfl

@[simp] theorem terms_mk (l : Label) (s : Span) (ts : List Term) (b o h f c : List Node) :
    (mk l s ts b o h f c).terms = ts := rfl

@[simp] theorem label_setBlock (n : Node) (field : Field) (ns : List Node) :
    (n.setBlock field ns).label = n.label := by
  cases n; cases field <;> rfl

@[simp] theorem span_setBlock (n : Node) (field : Field) (ns : List Node) :
    (n.setBlock field ns).span = n.span := by
  cases n; cases field <;> rfl

@[simp] theorem terms_setBlock (n : Node) (field : Field) (ns : List Node) :
    (n.setBlock field ns).terms = n.terms := by
  cases n; cases field <;> rfl

theorem rawBlock_setBlock_of_ne {field other : Field} (n : Node) (ns : List Node)
    (h : other ≠ field) : (n.setBlock field ns).rawBlock other = n.rawBlock other := by
  cases n; cases field <;> cases other <;> first | rfl | exact absurd rfl h

theorem rawBlock_setBlock_self {n : Node} {field : Field} (ns : List Node)
    (h : n.hasBlock field = true) : (n.setBlock field ns).rawBlock field = ns := by
  cases n with
  | mk l s ts b o hs f c =>
    cases field with
    | other name => revert h; cases l <;> simp [hasBlock, Label.fields]
    | nameless => revert h; cases l <;> simp [hasBlock, Label.fields]
    | _ => rfl

end Node

end GeneticRepair.Code
