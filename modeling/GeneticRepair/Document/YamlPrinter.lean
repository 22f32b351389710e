import GeneticRepair.Collection.Entries
import GeneticRepair.Document.YamlScalar
import GeneticRepair.Text.Blank
import GeneticRepair.Text.Lines
/-!
# Writing YAML

Documents in block style, with the keys of each map in order. A text is written plainly if it reads
back as itself that way, else between quotes. It goes on to another line behind the eightieth
column, at a blank.
-/

namespace GeneticRepair.Yaml

open GeneticRepair.Text (hexDigits)

/-! ## Styles of texts -/

inductive Style where
  | plain | singleQuoted | doubleQuoted
  deriving Repr, DecidableEq

def isPrintable (c : Char) : Bool :=
  ' ' ≤ c && c ≤ '~'

def leadIndicators : List Char := "#,[]\x7b\x7d&*!|>'\"%@`".toList

def blankNext (cs : List Char) : Bool :=
  cs.head?.all (· == ' ')

def interrupts : List Char → Bool
  | [] => false
  | ':' :: cs => blankNext cs || interrupts cs
  | ' ' :: '#' :: _ => true
  | _ :: cs => interrupts cs

def beginsSpecially : List Char → Bool
  | c :: cs => leadIndicators.contains c || ("?:-".toList.contains c && blankNext cs)
  | [] => true

def isMarker (s : String) : Bool :=
  s.startsWith "---" || s.startsWith "..."

def standsPlain (s : String) : Bool :=
  let cs := s.toList
  let isText := match plain s with
    | .text _ => true
    | _ => false
  isText && !beginsSpecially cs && !interrupts (cs.drop 1) && !isMarker s &&
    cs.head? != some ' ' && cs.getLast? != some ' '

def breaksAtBlank : List Char → Bool
  | ' ' :: '\n' :: _ => true
  | '\n' :: ' ' :: _ => true
  | _ :: cs => breaksAtBlank cs
  | [] => false

/-- A text of several lines stands between single quotes, unless that would lose blanks. -/
def styleOf (s : String) : Style :=
  let cs := s.toList
  if !(cs.all fun c => isPrintable c || c == '\n') || breaksAtBlank cs then .doubleQuoted
  else if !cs.contains '\n' && standsPlain s then .plain
  else .singleQuoted

/-! ## Folding -/

def lastColumn : Nat := 80

def spaces (n : Nat) : String :=
  String.ofList (List.replicate n ' ')

/-- Writes words with blanks between them from a column on. A single blank behind the last column
becomes a new line; an empty word stands for one of several blanks in a row. -/
def foldWords (indent : Nat) : Nat → List String → String
  | _, [] => ""
  | _, [w] => w
  | column, w :: v :: ws =>
    let next := column + w.length
    if lastColumn < next && !w.isEmpty && !v.isEmpty then
      w ++ "\n" ++ spaces indent ++ foldWords indent indent (v :: ws)
    else
      w ++ " " ++ foldWords indent (next + 1) (v :: ws)

/-- Writes the lines that follow another one. Of several breaks in a row one more is written. -/
def foldLines (indent : Nat) : List String → String
  | [] => ""
  | [l] => "\n" ++ spaces indent ++ foldWords indent indent (l.splitOn " ")
  | l :: ls =>
    if l.isEmpty then "\n" ++ foldLines indent ls
    else "\n" ++ spaces indent ++ foldWords indent indent (l.splitOn " ") ++ "\n" ++
      foldLines indent ls

def foldText (indent column : Nat) (s : String) : String :=
  match s.splitOn "\n" with
  | [] => ""
  | [l] => foldWords indent column (l.splitOn " ")
  | l :: ls => foldWords indent column (l.splitOn " ") ++ "\n" ++ foldLines indent ls

def shortEscapes : List (Char × Char) :=
  [('\x00', '0'), ('\x07', 'a'), ('\x08', 'b'), ('\t', 't'), ('\n', 'n'), ('\x0b', 'v'),
    ('\x0c', 'f'), ('\r', 'r'), ('\x1b', 'e'), ('"', '"'), ('\\', '\\'), ('\u0085', 'N'),
    ('\u00a0', '_'), ('\u2028', 'L'), ('\u2029', 'P')]

def upperHex (width n : Nat) : String :=
  (String.ofList (hexDigits width n)).toUpper

/-- How a character is written between double quotes, unless it stands for itself. -/
def escape? (c : Char) : Option String :=
  match shortEscapes.lookup c with
  | some e => some ("\\" ++ e.toString)
  | none =>
    if isPrintable c then none
    else if c.toNat < 0x100 then some ("\\x" ++ upperHex 2 c.toNat)
    else if c.toNat < 0x10000 then some ("\\u" ++ upperHex 4 c.toNat)
    else some ("\\U" ++ upperHex 8 c.toNat)

/-- A break between double quotes. A blank behind it is escaped. -/
def quotedBreak (indent : Nat) (rest : List Char) : String :=
  "\\\n" ++ spaces indent ++ (if rest.head? == some ' ' then "\\" else "")

/-- The characters between double quotes from a column on. A line is broken before a blank, and on
either side of an escape. -/
def foldQuoted (indent : Nat) (first escaped : Bool) (column : Nat) : List Char → String
  | [] => ""
  | c :: cs =>
    let inside := !first && !cs.isEmpty
    match escape? c with
    | none =>
      if inside && (c == ' ' || escaped) && lastColumn < column then
        quotedBreak indent (c :: cs) ++ c.toString ++
          foldQuoted indent false false (indent + (if c == ' ' then 2 else 1)) cs
      else c.toString ++ foldQuoted indent false false (column + 1) cs
    | some e =>
      let column := column + e.length
      if inside && lastColumn + 1 < column then
        e ++ quotedBreak indent cs ++
          foldQuoted indent false true (indent + (if cs.head? == some ' ' then 1 else 0)) cs
      else e ++ foldQuoted indent false true column cs

def scalarText (indent column : Nat) (s : String) : String :=
  match styleOf s with
  | .plain => foldWords indent column (s.splitOn " ")
  | .singleQuoted =>
    "'" ++ foldText indent (column + 1) ("''".intercalate (s.splitOn "'")) ++ "'"
  | .doubleQuoted => "\"" ++ foldQuoted indent true false (column + 1) s.toList ++ "\""

/-! ## Documents -/

def floatStyle : Number.FloatStyle :=
  ⟨true, ".inf", ".nan"⟩

def atomText (indent column : Nat) : Value → String
  | .null => "null"
  | .bool b => if b then "true" else "false"
  | .int n => toString n
  | .float x => floatWithPoint (Number.floatText floatStyle x)
  | .text s => scalarText indent column s
  | _ => ""
where
  /-- A float with an exponent has a point too. -/
  floatWithPoint (s : String) : String :=
    if s.toList.contains '.' then s else ".0e".intercalate (s.splitOn "e")

def nested (mark : String) : List String → List String
  | [] => []
  | first :: rest => (mark ++ first) :: rest.map (spaces mark.length ++ ·)

mutual

def lines (indent : Nat) : Value → List String
  | .list vs => if vs.isEmpty then ["[]"] else itemLines indent vs
  | .map es =>
    if es.isEmpty then ["\x7b\x7d"]
    else ((Sorted.ofEntries (entryLines indent es)).map Prod.snd).flatten
  | v => [atomText indent indent v]

def itemLines (indent : Nat) : List Value → List String
  | [] => []
  | v :: vs => nested "- " (lines (indent + 2) v) ++ itemLines indent vs

/-- The lines of each entry. What belongs to a key stands on its line if it is an atom, else on the
lines below; the items of a list are not indented further. -/
def entryLines (indent : Nat) : List (String × Value) → List (String × List String)
  | [] => []
  | (k, v) :: es =>
    let key := scalarText indent indent k ++ ":"
    let below := match v with
      | .list vs => if vs.isEmpty then [key ++ " []"] else key :: itemLines indent vs
      | .map inner =>
        if inner.isEmpty then [key ++ " \x7b\x7d"]
        else key :: (lines (indent + 2) (.map inner)).map ("  " ++ ·)
      | v => [key ++ " " ++ atomText (indent + 2) (indent + key.length + 1) v]
    (k, below) :: entryLines indent es

end

def write (v : Value) : String :=
  Text.endLines (lines 0 v)

end GeneticRepair.Yaml
