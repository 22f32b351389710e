import GeneticRepair.Text.Quoted
import GeneticRepair.Text.Search
/-!
# Quotes around literals

A literal is put between quotes of one mark or of three. The quotes are chosen so that as few
characters as possible have to be escaped.
-/

namespace GeneticRepair.Code

open GeneticRepair.Text

namespace Quotation

structure Quotes where
  mark : Char
  long : Bool
  deriving DecidableEq

def Quotes.text (q : Quotes) : String :=
  String.ofList (List.replicate (if q.long then 3 else 1) q.mark)

def all : List Quotes :=
  [⟨'\'', false⟩, ⟨'"', false⟩, ⟨'"', true⟩, ⟨'\'', true⟩]

def long : List Quotes :=
  [⟨'"', true⟩, ⟨'\'', true⟩]

def escapeUnprintable (layout : Bool) (c : CodePoint) : List Char :=
  if !layout && (c == 0xa || c == 0x9) then [Char.ofNat c]
  else if c == 0x5c || !isPrintable c then escapeCode c
  else [Char.ofNat c]

def escapeLast (cs : List Char) : List Char :=
  cs.dropLast ++ '\\' :: cs.getLast?.toList

/-- Writes a text with as few escapes as possible: the characters between the quotes, and the quotes
that may be put around them, the preferred ones first. Newlines and tabs are escaped only if asked
for. Where none of the allowed quotes will do, the text is escaped as a quoted text is. -/
def body (allowed : List Quotes) (layout : Bool) (cs : List CodePoint) :
    List Char × List Quotes :=
  let escaped := cs.flatMap (escapeUnprintable layout)
  let possible := if escaped.contains '\n' then allowed.filter Quotes.long else allowed
  let possible := possible.filter fun q => !occursIn q.text.toList escaped
  match possible with
  | [] =>
    let mark := Char.ofNat (chooseQuote cs)
    ((quotedBody cs).toList, [(allowed.find? (·.mark == mark)).getD ⟨mark, false⟩])
  | _ =>
    match escaped.getLast? with
    | none => (escaped, possible)
    | some last =>
      let sorted := possible.filter (·.mark != last) ++ possible.filter (·.mark == last)
      match sorted with
      | q :: _ => (if q.mark == last then escapeLast escaped else escaped, sorted)
      | [] => (escaped, sorted)

def enclose (q : Quotes) (cs : List Char) : String :=
  q.text ++ String.ofList cs ++ q.text

def sparing (allowed : List Quotes) (cs : List CodePoint) : String :=
  match body allowed false cs with
  | (cs, q :: _) => enclose q cs
  | (cs, []) => String.ofList cs

/-- The parts of a formatted text, each with the flag that it is plain text. Every part narrows the
quotes that are left, and the first one left behind the last part encloses the text. -/
def formatted (parts : List (List CodePoint × Bool)) : String :=
  let step (state : List Char × List Quotes) (part : List CodePoint × Bool) :=
    let (cs, quotes) := body state.2 part.2 part.1
    (state.1 ++ cs, quotes)
  match parts.foldl step ([], all) with
  | (cs, q :: _) => enclose q cs
  | (cs, []) => String.ofList cs

end Quotation

end GeneticRepair.Code
