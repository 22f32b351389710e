import GeneticRepair.Code.Term
import GeneticRepair.Code.Numeral
import GeneticRepair.Text.Identifier
import GeneticRepair.Text.Lines
/-!
# Cutting a program into tokens

The indentation of each statement is compared with that of the enclosing blocks, counting a tab both
as a step to the next multiple of eight and as a single column: the two counts have to agree on
which is deeper. Inside brackets, and on lines that hold nothing but a comment, indentation and
newlines mean nothing. A backslash at the end of a line joins it with the next one.
-/

namespace GeneticRepair.Code

/-! ## Tokens

Indentation appears as `indent` and `dedent` tokens, and only the newlines that end a statement
appear at all.
-/

structure StringMarks where
  raw : Bool
  bytes : Bool
  formatted : Bool
  /-- Whether the literal is marked by a lower-case `u`. -/
  marked : Bool
  deriving Repr, DecidableEq

inductive Lexeme where
  /-- A name as it is written. -/
  | name (id : String)
  | keyword (word : String)
  | number (c : Constant)
  /-- A string literal, with the characters between its quotes as written. -/
  | literal (marks : StringMarks) (body : List Char)
  | sign (s : String)
  | newline
  | indent
  | dedent
  deriving DecidableEq

structure Token where
  lexeme : Lexeme
  line : Nat
  endLine : Nat
  deriving DecidableEq

def keywords : List String :=
  ["False", "None", "True", "and", "as", "assert", "async", "await", "break", "class", "continue",
    "def", "del", "elif", "else", "except", "finally", "for", "from", "global", "if", "import",
    "in", "is", "lambda", "nonlocal", "not", "or", "pass", "raise", "return", "try", "while",
    "with", "yield"]

/-- The signs of one, two and three characters. Of those that fit, the longest is taken. -/
def signs : List String :=
  ["**=", "//=", ">>=", "<<=", "...",
    "**", "//", ">>", "<<", "<=", ">=", "==", "!=", "<>", "->", "+=", "-=", "*=", "/=", "%=", "&=",
    "|=", "^=", "@=", ":=",
    "(", ")", "[", "]", "\x7b", "\x7d", ":", ",", ";", "+", "-", "*", "/", "|", "&", "<", ">", "=",
    ".", "%", "~", "^", "@"]

/-! ## Cutting -/

open GeneticRepair.Text

/-- An indentation: its width with tabs of eight columns, and with tabs of one. -/
structure Indentation where
  width : Nat
  narrow : Nat
  deriving Repr, DecidableEq

namespace Lexer

structure State where
  line : Nat
  /-- The indentations of the enclosing blocks, innermost first, without the outermost. -/
  blocks : List Indentation
  /-- The open brackets, innermost first. -/
  brackets : List Char
  lineStart : Bool

def maxBlocks : Nat := 99

def maxBrackets : Nat := 200

/-- Measures the blanks at the front of a line. After a joined line, the first indentation counts.
-/
def measure : Nat → Indentation → Option Nat → List Char → Option (Nat × Indentation × List Char)
  | line, i, joined, ' ' :: cs => measure line ⟨i.width + 1, i.narrow + 1⟩ joined cs
  | line, i, joined, '\t' :: cs => measure line ⟨(i.width / 8 + 1) * 8, i.narrow + 1⟩ joined cs
  | line, _, joined, '\x0c' :: cs => measure line ⟨0, 0⟩ joined cs
  | line, i, joined, '\\' :: cs =>
    match cs with
    | '\n' :: c :: cs =>
      let first := match joined with
        | some w => if w == 0 then i.width else w
        | none => i.width
      measure (line + 1) i (some first) (c :: cs)
    | _ => none
  | line, i, joined, cs =>
    match joined with
    | some w => some (line, if w == 0 then i else ⟨w, w⟩, cs)
    | none => some (line, i, cs)

/-- Compares an indentation with the enclosing blocks. Gives the number of blocks that end, whether
one begins, and the blocks that enclose the line; none if the indentation fits no block. -/
def place (i : Indentation) : List Indentation → Option (Nat × Bool × List Indentation)
  | [] => placeIn ⟨0, 0⟩ []
  | b :: blocks =>
    if i.width < b.width then (place i blocks).bind fun (ended, begun, enclosing) =>
      if begun then none else some (ended + 1, false, enclosing)
    else placeIn b (b :: blocks)
where
  placeIn (b : Indentation) (blocks : List Indentation) :
      Option (Nat × Bool × List Indentation) :=
    if i.width == b.width then
      if i.narrow == b.narrow then some (0, false, blocks) else none
    else if b.width < i.width && b.narrow < i.narrow && blocks.length < maxBlocks then
      some (0, true, i :: blocks)
    else none

def closer : Char → Option Char
  | '(' => some ')'
  | '[' => some ']'
  | '\x7b' => some '\x7d'
  | _ => none

/-- The brackets that are open after a sign; none if a closing bracket has no partner. -/
def track (brackets : List Char) (sign : String) : Option (List Char) :=
  match sign.toList with
  | [c] =>
    if (closer c).isSome then
      if brackets.length < maxBrackets then some (c :: brackets) else none
    else if c == ')' || c == ']' || c == '\x7d' then
      match brackets with
      | b :: brackets => if closer b == some c then some brackets else none
      | [] => none
    else some brackets
  | _ => some brackets

/-- The characters of a string literal up to its closing quotes, what follows them, and the number
of newlines passed. -/
def literalBody (quote : Char) (long : Bool) : List Char → Option (List Char × List Char × Nat)
  | [] => none
  | '\\' :: c :: cs => do
    let (body, rest, newlines) ← literalBody quote long cs
    return ('\\' :: c :: body, rest, if c == '\n' then newlines + 1 else newlines)
  | c :: cs =>
    if c == quote then
      match long, cs with
      | false, _ => some ([], cs, 0)
      | true, c₂ :: c₃ :: rest =>
        if c₂ == quote && c₃ == quote then some ([], rest, 0)
        else (literalBody quote long (c₂ :: c₃ :: rest)).map fun (body, rest, newlines) =>
          (c :: body, rest, newlines)
      | true, _ => none
    else if c == '\n' && !long then none
    else (literalBody quote long cs).map fun (body, rest, newlines) =>
      (c :: body, rest, if c == '\n' then newlines + 1 else newlines)

def readLiteral : List Char → Option (List Char × List Char × Nat)
  | [] => none
  | q :: cs =>
    match cs with
    | c₂ :: c₃ :: rest =>
      if c₂ == q && c₃ == q then literalBody q true rest
      else literalBody q false cs
    | _ => literalBody q false cs

def marks? (word : List Char) : Option StringMarks :=
  let lower := word.map Char.toLower
  if lower == [] || lower == ['r'] || lower == ['b'] || lower == ['f'] || lower == ['u'] ||
      lower == ['b', 'r'] || lower == ['r', 'b'] || lower == ['f', 'r'] || lower == ['r', 'f'] then
    some ⟨lower.contains 'r', lower.contains 'b', lower.contains 'f', word == ['u']⟩
  else none

def isQuote (c : Char) : Bool :=
  c == '\'' || c == '"'

def startsLiteral (word rest : List Char) : Option StringMarks :=
  match rest with
  | c :: _ => if isQuote c then marks? word else none
  | [] => none

/-- The token at the front of a text, without the blanks, newlines and comments that are dealt with
elsewhere: the lexeme, what follows, and the number of newlines in it. -/
def lexeme (cs : List Char) : Option (Lexeme × List Char × Nat) :=
  match cs with
  | [] => none
  | c :: tail =>
    if c.isDigit || (c == '.' && (tail.head?.map Char.isDigit).getD false) then
      (readNumeral cs).map fun (n, rest) => (.number n, rest, 0)
    else
      let word := cs.takeWhile Numeral.isNameChar
      let rest := cs.dropWhile Numeral.isNameChar
      match startsLiteral word rest with
      | some marks =>
        (readLiteral rest).map fun (body, rest, newlines) => (.literal marks body, rest, newlines)
      | none =>
        if word.isEmpty then
          (signs.find? fun s => s.toList.isPrefixOf cs).map fun s =>
            (.sign s, cs.drop s.length, 0)
        else
          let id := String.ofList word
          if keywords.contains id then some (.keyword id, rest, 0)
          else if isIdentifierChars word then some (.name id, rest, 0)
          else none

def isGap (c : Char) : Bool :=
  c == ' ' || c == '\t' || c == '\x0c'

/-- Adds the tokens from the given state on to those found so far, last first. Every second step
consumes a character. -/
def scan : Nat → State → List Char → List Token → Option (List Token)
  | 0, _, _, _ => none
  | fuel + 1, st, cs, found =>
    if st.lineStart then do
      let (line, i, cs) ← measure st.line ⟨0, 0⟩ none cs
      let st := { st with line := line, lineStart := false }
      if !st.brackets.isEmpty then scan fuel st cs found
      else match cs with
        | '#' :: _ | '\n' :: _ =>
          let cs := cs.dropWhile (· != '\n')
          scan fuel { st with line := line + 1, lineStart := true } (cs.drop 1) found
        | _ =>
          let i := if cs.isEmpty then ⟨0, 0⟩ else i
          let (ended, begun, blocks) ← place i st.blocks
          let found := List.replicate ended ⟨.dedent, line, line⟩ ++ found
          let found := if begun then ⟨.indent, line, line⟩ :: found else found
          scan fuel { st with blocks := blocks } cs found
    else
      match cs.dropWhile isGap with
      | [] => if st.brackets.isEmpty then some found else none
      | '#' :: cs => scan fuel st (cs.dropWhile (· != '\n')) found
      | '\n' :: cs =>
        let found :=
          if st.brackets.isEmpty then ⟨.newline, st.line, st.line⟩ :: found else found
        scan fuel { st with line := st.line + 1, lineStart := true } cs found
      | '\\' :: '\n' :: c :: cs => scan fuel { st with line := st.line + 1 } (c :: cs) found
      | cs => do
        let (lexeme, rest, newlines) ← lexeme cs
        let brackets ← match lexeme with
          | .sign s => track st.brackets s
          | _ => some st.brackets
        let token : Token := ⟨lexeme, st.line, st.line + newlines⟩
        scan fuel { st with line := st.line + newlines, brackets := brackets } rest (token :: found)

end Lexer

def closeText (cs : List Char) : List Char :=
  if cs.getLast? == some '\n' then cs else cs ++ ['\n']

def tokenize (line : Nat) (cs : List Char) : Option (List Token) :=
  let cs := closeText (unifyNewlines cs)
  (Lexer.scan (2 * cs.length + 2) ⟨line, [], [], true⟩ cs []).map List.reverse

end GeneticRepair.Code
