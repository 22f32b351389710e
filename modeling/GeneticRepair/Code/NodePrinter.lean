import GeneticRepair.Code.Node
import GeneticRepair.Code.TermPrinter
import GeneticRepair.Text.Lines
/-!
# Printing modules

Every statement begins a line of its own, indented by four spaces for each enclosing block. A blank
line precedes each definition, unless nothing has been printed yet. A docstring is written between
triple double quotes, and a conditional that is alone in the block for the other case continues the
enclosing one. A term that stands among statements goes on with the line before it.
-/

namespace GeneticRepair.Code

open GeneticRepair.Text

def docstring? : Node → Option (List CodePoint × Bool)
  | .mk .expression _ [.node (.constant (.text cs marked)) _ _] .. => some (cs, marked)
  | _ => none

def printDocstring (cs : List CodePoint) (marked : Bool) : String :=
  (if marked then "u" else "") ++ Quotation.sparing Quotation.long cs

/-- The order in which the terms of a node are printed: decorators come first. -/
def Label.printingOrder (l : Label) (count : Nat) : List Nat :=
  match l with
  | .function _ _ decorators =>
    (List.range decorators).map (· + 1) ++ 0 :: (List.range count).drop (decorators + 1)
  | .classDef _ bases keywords =>
    (List.range count).drop (bases + keywords) ++ List.range (bases + keywords)
  | _ => List.range count

def printHeaderTerms (depth : Nat) (l : Label) (ts : List Term) :
    Except PrintError (List String) :=
  inOrder (l.printingOrder ts.length) (ts.zipIdx.map fun (t, i) =>
    printTerm ⟨false, depth⟩ (placeInHeader l i ts.length) t)

def decoratorsOf (l : Label) (xs : List String) : List String :=
  match l with
  | .function _ _ decorators => (xs.drop 1).take decorators
  | .classDef _ bases keywords => xs.drop (bases + keywords)
  | _ => []

def isDefinition (l : Label) : Bool :=
  match l with
  | .function .. | .classDef .. => true
  | _ => false

/-- The text above the blocks of a node: decorators on lines of their own, below a blank line that
stands above every definition, then the first line of the statement. A continued conditional begins
with `elif`. -/
def opening (star continued : Bool) (depth : Nat) (l : Label) (ts : List Term) : Printed := do
  let xs ← printHeaderTerms depth l ts
  let first ← header star l (isBareName (ts.map Term.head)) xs
  return (if isDefinition l then "\n" else "") ++
    String.join ((decoratorsOf l xs).map fun d => newLine depth ("@" ++ d)) ++
    newLine depth ((if continued then "el" else "") ++ first)

def headed (depth : Nat) (word text : String) (isEmpty : Bool) : String :=
  if isEmpty then "" else newLine depth word ++ text

def isConditional : Label → Bool
  | .conditional => true
  | _ => false

/-- Whether the block for the other case holds a conditional alone, which then continues this one.
-/
def isContinued (l : Label) (orelse : List Node) : Bool :=
  match orelse with
  | [n] => isConditional l && isConditional n.label
  | _ => false

/-- Whether a try statement marks its handlers by a star; other statements keep what holds around
them. -/
def starIn (star : Bool) : Label → Bool
  | .tryBlock own => own
  | _ => star

def looseText (depth : Nat) (ts : List Term) : Printed :=
  return String.join (← ts.mapM (printTerm ⟨false, depth⟩ Precedence.test))

mutual

def printNode (star continued : Bool) (depth : Nat) : Node → Printed
  | .mk l _ ts body orelse handlers finalbody cases => do
    if l == .loose then looseText depth ts
    else
      let inner := starIn star l
      let goesOn := isContinued l orelse
      let top ← opening star continued depth l ts
      let bodyText ← printBody inner (depth + 1) l.isDocumentable body
      let handlerText ← printNodes inner false depth handlers
      let elseText ← printNodes inner goesOn (if goesOn then depth else depth + 1) orelse
      let finalText ← printNodes inner false (depth + 1) finalbody
      let caseText ← printNodes inner false (depth + 1) cases
      return top ++ bodyText ++ handlerText ++
        (if goesOn then elseText else headed depth "else:" elseText orelse.isEmpty) ++
        headed depth "finally:" finalText finalbody.isEmpty ++ caseText

def printNodes (star continued : Bool) (depth : Nat) : List Node → Printed
  | [] => return ""
  | n :: ns => do
    let first ← printNode star continued depth n
    return first ++ (← printNodes star continued depth ns)

def printBody (star : Bool) (depth : Nat) (documentable : Bool) : List Node → Printed
  | [] => return ""
  | n :: ns => do
    let first ← match documentable, docstring? n with
      | true, some (cs, marked) => pure (newLine depth (printDocstring cs marked))
      | _, _ => printNode star false depth n
    return first ++ (← printNodes star false depth ns)

end

/-- How many newlines in front of a node mean nothing at the very beginning. -/
def leadingNewlines : List Node → Nat
  | [] => 0
  | n :: _ => if isDefinition n.label then 2 else if n.label == .loose then 0 else 1

def Node.print (module : Node) : Except PrintError String := do
  let body := module.rawBlock .body
  let text ← printBody false 0 true body
  return String.ofList (text.toList.drop (leadingNewlines body))

def Node.toLines (module : Node) : Except PrintError (List String) :=
  return splitLines (← module.print)

end GeneticRepair.Code
