import GeneticRepair.Text.Digit
/-!
# Templates

A template is a text with fields between braces; a brace that is doubled stands for itself. A field
begins with its name. A colon may follow, and then how the value is to be written, or an exclamation
mark and one letter. Fields without a name, and those that are numbered, have no value.
-/

namespace GeneticRepair.Text

inductive TemplateError where
  | malformed
  | unknownField (name : String)
  deriving Repr, DecidableEq

namespace Template

/-- The name of a field and what follows it. Between square brackets every character is part of the
name. -/
def splitName (bracketed : Bool) : List Char → Except TemplateError (List Char × List Char)
  | [] => throw .malformed
  | c :: cs =>
    if !bracketed && (c == '\x7d' || c == ':' || c == '!') then return ([], c :: cs)
    else if !bracketed && c == '\x7b' then throw .malformed
    else do
      let (name, rest) ← splitName (if bracketed then c != ']' else c == '[') cs
      return (c :: name, rest)

def afterClosing (depth : Nat) : List Char → Except TemplateError (List Char)
  | [] => throw .malformed
  | c :: cs =>
    if c == '\x7b' then afterClosing (depth + 1) cs
    else if c != '\x7d' then afterClosing depth cs
    else match depth with
      | 0 => return cs
      | depth + 1 => afterClosing depth cs

def afterName : List Char → Except TemplateError (List Char)
  | '!' :: _ :: c :: cs =>
    if c == ':' || c == '\x7d' then afterClosing 0 (c :: cs) else throw .malformed
  | '!' :: _ => throw .malformed
  | cs => afterClosing 0 cs

def valueOf (value? : String → Option String) (name : List Char) : Except TemplateError String :=
  let first := name.takeWhile fun c => c != '.' && c != '['
  if first.all fun c => (decimalValue? c).isSome then throw .malformed
  else match value? (String.ofList first) with
    | some value => return value
    | none => throw (.unknownField (String.ofList first))

/-- Fills in what is left of a template. Every round takes at least one character. -/
def fillFrom (value? : String → Option String) : Nat → List Char → Except TemplateError (List Char)
  | 0, _ => return []
  | fuel + 1, cs =>
    match cs with
    | [] => return []
    | c :: cs =>
      if c != '\x7b' && c != '\x7d' then return c :: (← fillFrom value? fuel cs)
      else if cs.head? == some c then return c :: (← fillFrom value? fuel cs.tail)
      else if c == '\x7d' || cs.isEmpty then throw .malformed
      else do
        let (name, rest) ← splitName false cs
        let rest ← afterName rest
        let value ← valueOf value? name
        return value.toList ++ (← fillFrom value? fuel rest)

def fill (value? : String → Option String) (s : String) : Except TemplateError String :=
  return String.ofList (← fillFrom value? s.length s.toList)

end Template

end GeneticRepair.Text
