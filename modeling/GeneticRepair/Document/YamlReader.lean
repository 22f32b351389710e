import GeneticRepair.Collection.Entries
import GeneticRepair.Document.YamlScalar
import GeneticRepair.Text.Blank
import GeneticRepair.Text.CodePointSet
/-!
# Reading YAML

A document is written in the form of JSON with plain scalars as atoms, or as a map in block style: a
line for each entry, and the entries of an inner map on the lines below it, which are indented
further. Nothing at all is null.
-/

namespace GeneticRepair.Yaml

open GeneticRepair.Text

/-- A text between single quotes, where two of them stand for one. -/
def singleQuoted : List Char → Option (List Char × List Char)
  | '\'' :: '\'' :: cs => (singleQuoted cs).map fun (s, rest) => ('\'' :: s, rest)
  | '\'' :: cs => some ([], cs)
  | c :: cs => (singleQuoted cs).map fun (s, rest) => (c :: s, rest)
  | [] => none

def endsPlain (c : Char) : Bool :=
  ",[]\x7b\x7d\n".toList.contains c

def atom : ReadFrom Value
  | '\'' :: cs =>
    orMalformed ((singleQuoted cs).map fun (s, rest) => (.text (String.ofList s), rest))
  | cs =>
    match trimEnd (cs.takeWhile (!endsPlain ·)) with
    | [] => throw .malformed
    | word => return (plain (String.ofList word), cs.dropWhile (!endsPlain ·))

def inline (s : String) : Option Value :=
  match s.toList with
  | '"' :: _ | '\'' :: _ | '[' :: _ | '{' :: _ => (Json.readWith atom s).toOption
  | _ => some (plain s)

/-! ## Block style -/

structure Line where
  indent : Nat
  text : List Char

/-- Cuts off a comment, which follows a blank. -/
def dropComment : List Char → List Char
  | [] => []
  | ' ' :: '#' :: _ => []
  | c :: cs => c :: dropComment cs

def lineOf (s : String) : Line :=
  let cs := s.toList
  let rest := trimEnd (cs.dropWhile (· == ' '))
  let text := if rest.head? == some '#' then [] else trimEnd (dropComment rest)
  ⟨(cs.takeWhile (· == ' ')).length, text⟩

def linesOf (s : String) : List Line :=
  ((s.splitOn "\n").map lineOf).filter (!·.text.isEmpty)

/-- The key and the value of an entry: the colon between them is followed by a blank or ends the
line. -/
def splitEntry : List Char → Option (List Char × List Char)
  | [] => none
  | [':'] => some ([], [])
  | ':' :: ' ' :: cs => some ([], trimStart cs)
  | c :: cs => (splitEntry cs).map fun (key, rest) => (c :: key, rest)

def keyOf (cs : List Char) : Option String :=
  match inline (String.ofList (trimEnd cs)) with
  | some (.text s) => some s
  | _ => none

mutual

def entries (indent : Nat) : Nat → List Line → Option (List (String × Value) × List Line)
  | 0, _ => none
  | _ + 1, [] => some ([], [])
  | n + 1, line :: lines =>
    if line.indent < indent then some ([], line :: lines)
    else if indent < line.indent then none
    else do
      let (key, rest) ← splitEntry line.text
      let key ← keyOf key
      let (v, lines) ← valueOf indent rest n lines
      let (es, lines) ← entries indent n lines
      return ((key, v) :: es, lines)

def valueOf (indent : Nat) (rest : List Char) : Nat → List Line → Option (Value × List Line)
  | 0, _ => none
  | n + 1, lines =>
    match rest, lines with
    | [], line :: lines =>
      if indent < line.indent then do
        let (es, lines) ← entries line.indent n (line :: lines)
        return (.map (Entries.ofList es), lines)
      else some (.null, line :: lines)
    | rest, lines => (inline (String.ofList rest)).map (·, lines)

end

def block (lines : List Line) : Option Value :=
  match lines with
  | [] => some .null
  | line :: rest =>
    match splitEntry line.text, rest with
    | none, [] => inline (String.ofList line.text)
    | _, _ => do
      let (es, rest) ← entries line.indent (2 * lines.length + 1) lines
      if rest.isEmpty then some (.map (Entries.ofList es)) else none

def read? (s : String) : Option Value :=
  match Json.skipBlanks s.toList with
  | '[' :: _ | '{' :: _ | '"' :: _ => (Json.readWith atom s).toOption.or (block (linesOf s))
  | _ => block (linesOf s)

/-- The characters that a document may hold. -/
def allowed : CodePointSet where
  bounds := [0x9, 0xb, 0xd, 0xe, 0x20, 0x7f, 0x85, 0x86, 0xa0, 0xd800, 0xe000, 0xfffe, 0x10000,
    0x110000]

inductive Flaw where
  /-- It holds a character that no document may hold. -/
  | forbiddenCharacter
  | malformed
  /-- An integer has more than 4300 digits. -/
  | tooManyDigits
  deriving Repr, DecidableEq

/-- Reads a document: its characters are checked first, and what its words stand for is found out
last. -/
def read (s : String) : Except Flaw Value :=
  if s.toList.any fun c => !allowed.contains c.toNat then throw .forbiddenCharacter
  else match read? s with
    | none => throw .malformed
    | some v => if v.holdsLongInteger then throw .tooManyDigits else return v

end GeneticRepair.Yaml
